import FlowClient.Program.Stages
import FlowClient.Proofs.Registry.Commands
import FlowClient.Proofs.Text.Words

/-! Templates, token by token. The names of the targets are put into the whole text of a
template before it is cut into words. As long as the placeholders stand for themselves and no
name brings a placeholder or a blank along, cutting first comes to the same, so that a command
that has a name says what its tokens say. -/

namespace FlowClient

/-! ## Names of targets -/

namespace Target

/-- That the path of a target is one word, and that no placeholder begins in it. -/
def Plain (target : Target) : Prop := Text.IsWord target.path ∧ '<' ∉ target.path.toList

instance (target : Target) : Decidable target.Plain := inferInstanceAs (Decidable (_ ∧ _))

end Target

namespace Path

/-- The last name of a path is made of the characters of the path, or it is a slash. -/
theorem nodeName_cases (path : String) :
    nodeName path = "/" ∨
      nodeName path ≠ "" ∧ ∀ char ∈ (nodeName path).toList, char ∈ path.toList := by
  have last : nodeName path ∈ "/" :: segments path := List.getLastD_mem_cons
  rcases List.mem_cons.mp last with slash | segment
  · exact .inl slash
  · rcases List.mem_map.mp segment with ⟨field, isField, isName⟩
    have nonempty := (Text.mem_fields isField).1
    rw [← isName]
    exact .inr ⟨by simpa using nonempty, by simpa using fun char => Text.mem_of_mem_fields isField⟩

end Path

namespace Target

variable {target : Target}

theorem Plain.nodeName (plain : target.Plain) :
    Text.IsWord target.nodeName ∧ '<' ∉ target.nodeName.toList := by
  have slash : Text.IsWord "/" ∧ '<' ∉ "/".toList := by decide
  rw [Target.nodeName]
  split
  · exact slash
  · rcases Path.nodeName_cases target.path with same | ⟨nonempty, within⟩
    · exact same ▸ slash
    · exact ⟨⟨nonempty, fun char member => plain.1.2 char (within char member)⟩,
        fun member => plain.2 (within _ member)⟩

end Target

/-! ## Tokens -/

/-- What a token stands for, if it is looked at by itself. -/
def standsFor (targets : List Target) (token : String) : List String :=
  if token = fullNamePlaceholder then targets.map Target.path
  else if token = nodeNamePlaceholder then targets.map Target.nodeName
  else [token]

/-- That no placeholder is only a part of a token. -/
def IsWhole (token : String) : Prop :=
  token = fullNamePlaceholder ∨ token = nodeNamePlaceholder ∨
    ¬ Text.Occurs fullNamePlaceholder token ∧ ¬ Text.Occurs nodeNamePlaceholder token

instance (token : String) : Decidable (IsWhole token) := inferInstanceAs (Decidable (_ ∨ _))

theorem isWord_placeholders :
    Text.IsWord fullNamePlaceholder ∧ Text.IsWord nodeNamePlaceholder := by
  decide

theorem not_occurs_of_plain {text : String} (plain : '<' ∉ text.toList) :
    ¬ Text.Occurs nodeNamePlaceholder text := by
  intro occurs
  exact plain (occurs.subset (by decide))

section

variable {targets : List Target} (plain : ∀ target ∈ targets, target.Plain)

include plain

theorem words_join_paths :
    Text.words (Text.join " " (targets.map Target.path)) = targets.map Target.path := by
  refine Text.words_join fun text member => ?_
  rcases List.mem_map.mp member with ⟨target, isTarget, rfl⟩
  exact (plain target isTarget).1

theorem words_join_nodeNames :
    Text.words (Text.join " " (targets.map Target.nodeName)) = targets.map Target.nodeName := by
  refine Text.words_join fun text member => ?_
  rcases List.mem_map.mp member with ⟨target, isTarget, rfl⟩
  exact (plain target isTarget).nodeName.1

/-- A token that is replaced alone becomes what it stands for: no path has a placeholder in it
that the second replacement would find. -/
theorem words_replaceAll_of_isWhole {token : String} (isWord : Text.IsWord token)
    (whole : IsWhole token) :
    ((Text.words (Text.replaceAll fullNamePlaceholder
        (Text.join " " (targets.map Target.path)) token)).flatMap fun word =>
      Text.words (Text.replaceAll nodeNamePlaceholder
        (Text.join " " (targets.map Target.nodeName)) word)) = standsFor targets token := by
  have differ : nodeNamePlaceholder ≠ fullNamePlaceholder := by decide
  have apart : ¬ Text.Occurs fullNamePlaceholder nodeNamePlaceholder := by decide
  rcases whole with rfl | rfl | ⟨noFullName, noNodeName⟩
  · rw [Text.replaceAll_self isWord.1, words_join_paths plain, standsFor, if_pos rfl,
      List.flatMap_map]
    have kept : ∀ target ∈ targets, Text.words (Text.replaceAll nodeNamePlaceholder
        (Text.join " " (targets.map Target.nodeName)) target.path) = [target.path] := by
      intro target member
      rw [Text.replaceAll_of_absent (not_occurs_of_plain (plain target member).2),
        Text.words_of_isWord (plain target member).1]
    rw [List.flatMap_congr kept, List.map_eq_flatMap]
  · rw [Text.replaceAll_of_absent apart, Text.words_of_isWord isWord, List.flatMap_singleton,
      Text.replaceAll_self isWord.1, words_join_nodeNames plain, standsFor, if_neg differ,
      if_pos rfl]
  · have noFullName' : token ≠ fullNamePlaceholder := fun same =>
      noFullName (same ▸ List.infix_rfl)
    have noNodeName' : token ≠ nodeNamePlaceholder := fun same =>
      noNodeName (same ▸ List.infix_rfl)
    rw [Text.replaceAll_of_absent noFullName, Text.words_of_isWord isWord,
      List.flatMap_singleton, Text.replaceAll_of_absent noNodeName, Text.words_of_isWord isWord,
      standsFor, if_neg noFullName', if_neg noNodeName']

theorem expandTemplate_eq_flatMap {template : String}
    (whole : ∀ token ∈ Text.words template, IsWhole token) :
    expandTemplate template targets = (Text.words template).flatMap (standsFor targets) := by
  rw [expandTemplate, Text.words_replaceAll isWord_placeholders.2,
    Text.words_replaceAll isWord_placeholders.1, List.flatMap_assoc]
  refine List.flatMap_congr fun token member => ?_
  exact words_replaceAll_of_isWhole plain (Text.isWord_of_mem_words member) (whole token member)

end

theorem flatMap_standsFor_singleton (tokens : List String) (target : Target) :
    tokens.flatMap (standsFor [target]) = commandTokens tokens target := by
  rw [commandTokens, List.map_eq_flatMap]
  refine List.flatMap_congr fun token _ => ?_
  rw [standsFor]
  split
  · rfl
  · split <;> rfl

/-! ## Commands by name and by tokens -/

/-- What the user addresses with a server and maybe a node. -/
def Target.addressed (server : String) : Option String → Target
  | some path => ⟨server, path⟩
  | none => ofServer server

/-- That a run leaves the same call with a server for a command by name as for its tokens. -/
def SentAlike (program : Program) (server : String) (node : Option String) (name : String)
    (tokens : List String) : Prop :=
  ∀ registry ticket,
    program.client.registry.call server
        (.runCommand (commandTokens tokens (.addressed server node))) = .ok (registry, ticket) →
      (program.sendCommand server node tokens).client = { program.client with registry } ∧
        ∀ now, ((program.sendCommand server node [name]).proceed? now).map Program.client =
          some { program.client with registry }

theorem sendCommand_tokens {program : Program} {server : String} {node : Option String}
    {tokens : List String}
    (unnamed : ∀ word, tokens = [word] → program.client.registry.commands.contains word = false) :
    program.sendCommand server node tokens =
      program.calling server (.runCommand (commandTokens tokens (.addressed server node)))
        fun program ticket =>
          { program with stage := .commanding server ⟨"", .awaiting server ticket [] []⟩ } := by
  rcases tokens with _ | ⟨word, _ | ⟨second, others⟩⟩
  · cases node <;> rfl
  · have unnamed := unnamed word rfl
    cases node <;> simp [Program.sendCommand, Target.addressed, unnamed]
  · cases node <;> rfl

theorem sendCommand_name {program : Program} {server name template : String}
    {node : Option String} (named : program.client.registry.commands.get? name = some template) :
    program.sendCommand server node [name] =
      { program with
        stage := .commanding server
          ⟨template, .running [(server, [.addressed server node])] []⟩ } := by
  have known : program.client.registry.commands.contains name = true := by
    rw [Table.contains, named]
    rfl
  cases node <;>
    simp [Program.sendCommand, known, Registry.beginCommand, CommandTable.resolve, named,
      groupByServer, addToGroups, Target.addressed, Target.ofServer]

/-- What is left with the server depends on the arguments alone. -/
theorem sentAlike_of_expandTemplate {program : Program} {server name template : String}
    {node : Option String} (named : program.client.registry.commands.get? name = some template)
    (unnamed : ∀ word, Text.words template = [word] →
      program.client.registry.commands.contains word = false)
    (nonempty : Text.words template ≠ [])
    (expanded : expandTemplate template [.addressed server node] =
      commandTokens (Text.words template) (.addressed server node)) :
    SentAlike program server node name (Text.words template) := by
  intro registry ticket called
  constructor
  · rw [sendCommand_tokens unnamed, Program.calling, called]
    rfl
  · intro now
    rw [← expanded] at called
    have argued : (expandTemplate template [.addressed server node]).isEmpty = false := by
      simpa [expanded, commandTokens] using nonempty
    have stepped : program.client.registry.stepCommand?
          ⟨template, .running [(server, [.addressed server node])] []⟩ =
        some (registry, ⟨template, .awaiting server ticket [] []⟩) :=
      Registry.stepCommand?_of_call argued called
    rw [sendCommand_name named]
    simp only [Program.proceed?, Program.stepCommand?, stepped]
    rfl

/-! ## Both ways -/

/-- What it means that a template expands as its tokens do. -/
structure ExpandsAlike (template : String) (targets : List Target) : Prop where
  tokenwise : expandTemplate template targets =
    (Text.words template).flatMap (standsFor targets)
  single : ∀ target, targets = [target] →
    expandTemplate template targets = commandTokens (Text.words template) target
  /-- Tokens that are themselves the name of a command are not given literally. -/
  sent : ∀ (program : Program) (server name : String) (node : Option String),
    targets = [.addressed server node] →
    program.client.registry.commands.get? name = some template →
    (∀ word, Text.words template = [word] →
      program.client.registry.commands.contains word = false) →
    Text.words template ≠ [] → SentAlike program server node name (Text.words template)

theorem expandsAlike {template : String} {targets : List Target}
    (whole : ∀ token ∈ Text.words template, IsWhole token)
    (plain : ∀ target ∈ targets, target.Plain) : ExpandsAlike template targets := by
  have tokenwise := expandTemplate_eq_flatMap plain whole
  have single : ∀ target, targets = [target] →
      expandTemplate template targets = commandTokens (Text.words template) target := by
    rintro target rfl
    rw [tokenwise, flatMap_standsFor_singleton]
  refine ⟨tokenwise, single, ?_⟩
  rintro program server name node rfl named unnamed nonempty
  exact sentAlike_of_expandTemplate named unnamed nonempty (single _ rfl)

/-- A template with both placeholders, and a token that only looks like one, for two nodes. -/
theorem expandsAlike_alter :
    (∀ token ∈ Text.words "alter <node_name>  <name> <full_name>", IsWhole token) ∧
      (∀ target ∈ [Target.mk "alpha" "/s1/t1", .ofServer "alpha"], target.Plain) ∧
      ExpandsAlike "alter <node_name>  <name> <full_name>"
        [Target.mk "alpha" "/s1/t1", .ofServer "alpha"] :=
  have whole : ∀ token ∈ Text.words "alter <node_name>  <name> <full_name>", IsWhole token := by
    decide
  have plain : ∀ target ∈ [Target.mk "alpha" "/s1/t1", .ofServer "alpha"], target.Plain := by
    decide
  ⟨whole, plain, expandsAlike whole plain⟩

end FlowClient
