import FlowClient.Config
import FlowClient.Proofs.Tables

/-! Which drafts of a configuration are accepted, what they become, and what is said of the
others. What is said is true of the draft, so a draft with nothing wrong in it is accepted. -/

namespace FlowClient

/-! ## Texts -/

/-- That there is something in a text that can be seen. -/
def Text.Shows (text : String) : Prop := ∃ char ∈ text.toList, isBlank char = false

theorem Text.isAllBlank_iff {text : String} : isAllBlank text = true ↔ ¬ Shows text := by
  simp [isAllBlank, Shows]

namespace Text

/-- What is left of a text without the plus sign that it may begin with. -/
def withoutPlus : List Char → List Char
  | '+' :: rest => rest
  | text => text

theorem withoutPlus_cases (text : List Char) :
    text = withoutPlus text ∨ text = '+' :: withoutPlus text := by
  rw [withoutPlus.eq_def]
  split
  · exact .inr rfl
  · exact .inl rfl

theorem withoutPlus_of_isDigit {first : Char} (isDigit : first.isDigit = true)
    (rest : List Char) : withoutPlus (first :: rest) = first :: rest := by
  rw [withoutPlus.eq_def]
  split
  · rename_i same
    rw [(List.cons.inj same).1] at isDigit
    cases isDigit
  · rfl

/-- That a number is written in digits, perhaps behind a plus sign. -/
def IsUnsigned (text : String) (number : Nat) : Prop :=
  ∃ digits, (text.toList = digits ∨ text.toList = '+' :: digits) ∧ digits ≠ [] ∧
    (∀ digit ∈ digits, digit.isDigit = true) ∧ Nat.ofDigitChars 10 digits 0 = number

theorem unsigned?_eq_some_iff {text : String} {number : Nat} :
    unsigned? text = some number ↔ IsUnsigned text number := by
  have reads : unsigned? text =
      if (withoutPlus text.toList).isEmpty || !(withoutPlus text.toList).all Char.isDigit then none
      else some (Nat.ofDigitChars 10 (withoutPlus text.toList) 0) := rfl
  rw [reads, Option.ite_none_left_eq_some, Option.some.injEq]
  constructor
  · rintro ⟨isNumber, value⟩
    simp only [Bool.or_eq_true, List.isEmpty_iff, Bool.not_eq_true', not_or,
      Bool.not_eq_false, List.all_eq_true] at isNumber
    exact ⟨_, withoutPlus_cases text.toList, isNumber.1, isNumber.2, value⟩
  · rintro ⟨digits, written, nonempty, areDigits, value⟩
    have kept : withoutPlus text.toList = digits := by
      rcases written with written | written
      · obtain ⟨first, rest, rfl⟩ := List.exists_cons_of_ne_nil nonempty
        rw [written, withoutPlus_of_isDigit (areDigits first List.mem_cons_self)]
      · rw [written, withoutPlus]
    rw [kept]
    simpa [nonempty, value] using areDigits

end Text

/-- The number of a port has 16 bits. -/
def IsPort (text : String) : Prop := ∃ number < 65536, Text.IsUnsigned text number

theorem isSome_portNumber?_iff {text : String} :
    (portNumber? text).isSome = true ↔ IsPort text := by
  rw [portNumber?, Option.isSome_iff_exists, IsPort]
  simp only [Option.filter_eq_some_iff, Text.unsigned?_eq_some_iff, decide_eq_true_eq]
  constructor
  · rintro ⟨number, isNumber, small⟩
    exact ⟨number, small, isNumber⟩
  · rintro ⟨number, small, isNumber⟩
    exact ⟨number, isNumber, small⟩

/-! ## Servers -/

namespace ServerEntry

/-- That an entry gives one credential, and nothing of another. -/
inductive Grants (entry : ServerEntry) : Credential → Prop
  | password {user secret : String} (isUser : entry.user = some user)
      (isSecret : entry.password = some secret) (noToken : entry.token = none) :
      Grants entry (.password user secret)
  | token {secret : String} (noUser : entry.user = none) (noPassword : entry.password = none)
      (isToken : entry.token = some secret) : Grants entry (.token secret)

/-- That a server can be made of an entry. -/
structure Usable (entry : ServerEntry) : Prop where
  host : Text.Shows entry.host
  port : IsPort entry.port
  credential : ∃ credential, entry.Grants credential

/-- What is wrong with an entry, as it is said. -/
inductive Fault (entry : ServerEntry) (name : String) : String → Prop
  | host (blank : ¬ Text.Shows entry.host) : Fault entry name s!"server '{name}' has an empty host"
  | port (notPort : ¬ IsPort entry.port) :
      Fault entry name s!"server '{name}' has an invalid port '{entry.port}'"
  | both (isToken : entry.token.isSome = true)
      (more : entry.user.isSome = true ∨ entry.password.isSome = true) :
      Fault entry name s!"server '{name}' sets both a password and a token"
  | noUser (noUser : entry.user = none) (isSecret : entry.password.isSome = true)
      (noToken : entry.token = none) :
      Fault entry name s!"server '{name}' sets a password without a user"
  | noPassword (isUser : entry.user.isSome = true) (noPassword : entry.password = none)
      (noToken : entry.token = none) :
      Fault entry name s!"server '{name}' sets a user without a password"
  | neither (noUser : entry.user = none) (noPassword : entry.password = none)
      (noToken : entry.token = none) :
      Fault entry name s!"server '{name}' needs either user + password or a token"

theorem credential_cases (entry : ServerEntry) (name : String) :
    (∃ credential, entry.credential name = .ok credential ∧ entry.Grants credential) ∨
      ∃ message, entry.credential name = .error (.configuration message) ∧
        entry.Fault name message := by
  rw [credential]
  cases user : entry.user <;> cases password : entry.password <;> cases token : entry.token
  · exact .inr ⟨_, rfl, .neither user password token⟩
  · exact .inl ⟨_, rfl, .token user password token⟩
  · exact .inr ⟨_, rfl, .noUser user (by simp [password]) token⟩
  · exact .inr ⟨_, rfl, .both (by simp [token]) (by simp [password])⟩
  · exact .inr ⟨_, rfl, .noPassword (by simp [user]) password token⟩
  · exact .inr ⟨_, rfl, .both (by simp [token]) (by simp [user])⟩
  · exact .inl ⟨_, rfl, .password user password token⟩
  · exact .inr ⟨_, rfl, .both (by simp [token]) (by simp [user])⟩

theorem Fault.not_usable {entry : ServerEntry} {name message : String}
    (fault : entry.Fault name message) : ¬ entry.Usable := by
  rintro ⟨host, port, credential, grants⟩
  cases fault with
  | host blank => exact blank host
  | port notPort => exact notPort port
  | both isToken more => cases grants <;> simp_all
  | noUser noUser isSecret noToken => cases grants <;> simp_all
  | noPassword isUser noPassword noToken => cases grants <;> simp_all
  | neither noUser noPassword noToken => cases grants <;> simp_all

end ServerEntry

/-- That a server is what an entry says, under the name of the entry. -/
structure ServerSettings.Realizes (name : String) (entry : ServerEntry) (server : ServerSettings) :
    Prop where
  name : server.name = name
  host : server.host = entry.host
  port : server.port = entry.port
  credential : entry.Grants server.credential
  ssl : server.ssl = entry.ssl
  refreshInterval : server.refreshInterval = entry.refreshInterval
  filter : server.filter = entry.filter.getD {}

theorem ServerEntry.check_cases (entry : ServerEntry) (name : String) :
    (∃ server, entry.check name = .ok server ∧ entry.Usable ∧ server.Realizes name entry) ∨
      ∃ message, entry.check name = .error (.configuration message) ∧
        entry.Fault name message := by
  rw [check]
  split
  · rename_i blank
    exact .inr ⟨_, rfl, .host (Text.isAllBlank_iff.mp blank)⟩
  rename_i shown
  split
  · rename_i noNumber
    refine .inr ⟨_, rfl, .port fun isPort => ?_⟩
    simp [Option.isNone_iff_eq_none.mp noNumber, ← isSome_portNumber?_iff] at isPort
  rename_i number
  have shows : Text.Shows entry.host := not_not.mp (mt Text.isAllBlank_iff.mpr shown)
  have isPort : IsPort entry.port := isSome_portNumber?_iff.mp
    (by simpa [Option.isSome_iff_ne_none] using number)
  rcases entry.credential_cases name with ⟨credential, given, grants⟩ | ⟨message, refused, fault⟩
  · rw [given]
    exact .inl ⟨_, rfl, ⟨shows, isPort, credential, grants⟩, ⟨rfl, rfl, rfl, grants, rfl, rfl, rfl⟩⟩
  · rw [refused]
    exact .inr ⟨message, rfl, fault⟩

/-- Servers are checked one after the other, and the first that is of no use is told of. -/
theorem checkServers_cases (entries : List (String × ServerEntry)) :
    (∃ servers, checkServers entries = .ok servers ∧ servers.map (·.1) = entries.map (·.1) ∧
      (∀ entry ∈ entries, entry.2.Usable) ∧
      ∀ name, Option.Rel (ServerSettings.Realizes name) (Entries.get? name entries)
        (Entries.get? name servers)) ∨
      ∃ entry ∈ entries, ∃ message, checkServers entries = .error (.configuration message) ∧
        entry.2.Fault entry.1 message := by
  induction entries with
  | nil => exact .inl ⟨[], rfl, rfl, by simp, fun _ => .none⟩
  | cons entry rest induction =>
      rw [checkServers]
      rcases entry.2.check_cases entry.1 with
        ⟨server, checked, usable, realizes⟩ | ⟨message, refused, fault⟩
      · rw [checked]
        rcases induction with
          ⟨servers, others, keys, allUsable, each⟩ | ⟨later, member, message, refused, fault⟩
        · rw [others]
          refine .inl ⟨(entry.1, server) :: servers, rfl, by simp [keys], ?_, fun name => ?_⟩
          · exact List.forall_mem_cons.mpr ⟨usable, allUsable⟩
          · rw [Entries.get?, Entries.get?]
            split
            · rename_i same
              exact .some (same ▸ realizes)
            · exact each name
        · rw [refused]
          exact .inr ⟨later, List.mem_cons_of_mem _ member, message, rfl, fault⟩
      · rw [refused]
        exact .inr ⟨entry, List.mem_cons_self, message, rfl, fault⟩

/-! ## Drafts -/

namespace ConfigDraft

structure WellFormed (draft : ConfigDraft) : Prop where
  hasServer : draft.servers.entries ≠ []
  timeout : 1 ≤ draft.client.timeout
  commands : ∀ name template, draft.commands.get? name = some template → Text.Shows template
  servers : ∀ name entry, draft.servers.get? name = some entry → entry.Usable

/-- What is wrong with a draft, as it is said. -/
inductive Fault (draft : ConfigDraft) : String → Prop
  | noServer (empty : draft.servers.entries = []) :
      Fault draft "config must contain at least one [server.<name>] section"
  | noTime (zero : draft.client.timeout = 0) : Fault draft "[client].timeout must be >= 1 (got 0)"
  | command {name template : String} (given : draft.commands.get? name = some template)
      (blank : ¬ Text.Shows template) : Fault draft s!"command '{name}' has an empty template"
  | server {name message : String} {entry : ServerEntry}
      (given : draft.servers.get? name = some entry) (fault : entry.Fault name message) :
      Fault draft message

theorem Fault.not_wellFormed {draft : ConfigDraft} {message : String}
    (fault : draft.Fault message) : ¬ draft.WellFormed := by
  intro wellFormed
  cases fault with
  | noServer empty => exact wellFormed.hasServer empty
  | noTime zero => exact absurd wellFormed.timeout (by omega)
  | command given blank => exact blank (wellFormed.commands _ _ given)
  | server given fault => exact fault.not_usable (wellFormed.servers _ _ given)

end ConfigDraft

/-- That a configuration is what a draft says, server by server. -/
structure Config.Realizes (draft : ConfigDraft) (config : Config) : Prop where
  client : config.client = draft.client
  commands : config.commands = draft.commands
  /-- The same names have servers. -/
  servers : ∀ name, Option.Rel (ServerSettings.Realizes name) (draft.servers.get? name)
    (config.servers.get? name)

namespace ConfigDraft

theorem blankCommand?_cases (commands : CommandTable) :
    (blankCommand? commands = none ∧
      ∀ name template, commands.get? name = some template → Text.Shows template) ∨
    ∃ name template, blankCommand? commands = some name ∧
      commands.get? name = some template ∧ ¬ Text.Shows template := by
  rw [blankCommand?]
  cases found : commands.entries.find? fun entry => Text.isAllBlank entry.2 with
  | none =>
      refine .inl ⟨rfl, fun name template given => ?_⟩
      have member := (Entries.mem_iff_get? commands.ordered name template).mpr given
      have shown := List.find?_eq_none.mp found (name, template) member
      exact not_not.mp (mt Text.isAllBlank_iff.mpr shown)
  | some entry =>
      have blank := List.find?_some found
      have member := List.mem_of_find?_eq_some found
      have given := (Entries.mem_iff_get? commands.ordered entry.1 entry.2).mp member
      exact .inr ⟨entry.1, entry.2, rfl, given, Text.isAllBlank_iff.mp blank⟩

theorem check_cases (draft : ConfigDraft) :
    (∃ config, draft.check = .ok config ∧ draft.WellFormed ∧ config.Realizes draft) ∨
      ∃ message, draft.check = .error (.configuration message) ∧ draft.Fault message := by
  have given := Entries.mem_iff_get? draft.servers.ordered
  rw [check]
  split
  · rename_i empty
    exact .inr ⟨_, rfl, .noServer (List.isEmpty_iff.mp empty)⟩
  rename_i hasServer
  split
  · rename_i zero
    exact .inr ⟨_, rfl, .noTime zero⟩
  rename_i timeout
  rcases blankCommand?_cases draft.commands with
    ⟨none, commands⟩ | ⟨name, template, some, isTemplate, blank⟩
  · rw [none]
    rcases checkServers_cases draft.servers.entries with
      ⟨servers, checked, keys, usable, each⟩ | ⟨entry, member, message, refused, fault⟩
    · have ordered : servers.Pairwise fun left right => left.1 < right.1 := by
        apply List.pairwise_map.mp
        rw [keys]
        exact List.pairwise_map.mpr draft.servers.ordered
      have table : Table.ofList servers = ⟨servers, ordered⟩ :=
        Table.ofList_entries ⟨servers, ordered⟩
      refine .inl ⟨⟨draft.client, draft.commands, ⟨servers, ordered⟩⟩, ?_, ?_, rfl, rfl, each⟩
      · rw [checked, ← table]
        rfl
      · refine ⟨mt List.isEmpty_iff.mpr hasServer, by omega, commands, fun name entry isEntry => ?_⟩
        exact usable (name, entry) ((given name entry).mpr isEntry)
    · refine .inr ⟨message, ?_, .server ((given entry.1 entry.2).mp member) fault⟩
      simp only [refused]
      rfl
  · rw [some]
    exact .inr ⟨_, rfl, .command isTemplate blank⟩

/-- What checking a draft comes to. -/
structure Decides (draft : ConfigDraft) (result : Except ClientError Config) : Prop where
  accepted_iff : (∃ config, result = .ok config) ↔ draft.WellFormed
  realizes : ∀ config, result = .ok config → config.Realizes draft
  refused : ∀ error, result = .error error →
    ∃ message, error = .configuration message ∧ draft.Fault message

/-- The drafts that are accepted are the well-formed ones. -/
theorem decides_check (draft : ConfigDraft) : draft.Decides draft.check := by
  rcases draft.check_cases with ⟨config, checked, wellFormed, realizes⟩ | ⟨message, checked, fault⟩
  · rw [checked]
    refine ⟨⟨fun _ => wellFormed, fun _ => ⟨config, rfl⟩⟩, ?_, nofun⟩
    rintro other same
    rw [← Except.ok.inj same]
    exact realizes
  · rw [checked]
    refine ⟨⟨nofun, fun wellFormed => absurd wellFormed fault.not_wellFormed⟩, nofun, ?_⟩
    rintro error same
    exact ⟨message, (Except.error.inj same).symm, fault⟩

end ConfigDraft

end FlowClient
