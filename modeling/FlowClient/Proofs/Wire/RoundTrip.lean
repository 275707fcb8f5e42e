import FlowClient.Connection
import FlowClient.Proofs.Wire.Readers

/-! What is said comes across. Every envelope and every reply is written as one
line, and whoever reads that line as the protocol reads lines has the envelope or
the reply again, unless it is nested deeper than a reader goes. -/

namespace FlowClient

open Json

/-! ## Words -/

theorem RunState.faithful : Faithful RunState.toJson RunState.reader :=
  faithful_choice fun state => by cases state <;> decide

theorem NodeState.faithful : Faithful NodeState.toJson NodeState.reader :=
  faithful_choice fun state => by cases state <;> decide

theorem NodeKind.faithful : Faithful NodeKind.toJson NodeKind.reader :=
  faithful_choice fun kind => by cases kind <;> decide

theorem Aspect.faithful : Faithful Aspect.toJson Aspect.reader :=
  faithful_choice fun aspect => by cases aspect <;> decide

theorem News.faithful : Faithful News.toJson News.reader :=
  faithful_choice fun answer => by cases answer <;> decide

theorem ServerErrorKind.faithful : Faithful ServerErrorKind.toJson ServerErrorKind.reader :=
  faithful_choice fun kind => by cases kind <;> decide

theorem FileKind.faithful : Faithful FileKind.toJson FileKind.reader where
  plain _ := trivial
  reads {kind levels} _ := oneOf_string levels (by cases kind <;> decide)

/-! ## Definitions -/

mutual
theorem nodeJson_plain : ∀ node : Node, (nodeJson node).Plain
  | .node facts children =>
      ⟨trivial, trivial, trivial, trivial, faithful_table.plain facts.attributes,
        nodeListJson_plain children, trivial⟩

theorem nodeListJson_plain : ∀ nodes : List Node, ItemsPlain (nodeListJson nodes)
  | [] => trivial
  | node :: rest => ⟨nodeJson_plain node, nodeListJson_plain rest⟩
end

mutual
theorem nodeReader_nodeJson : ∀ {node : Node} {levels : Nat},
    (nodeJson node).depth ≤ levels → nodeReader levels (nodeJson node) = some node
  | .node facts children, levels + 1, enough => by
      simp only [nodeJson, depth, depthOfFields, Nat.add_le_add_iff_right, Nat.max_le] at enough
      obtain ⟨-, kind, state, -, attributes, below, -⟩ := enough
      have read : nodeListReader levels (.array (nodeListJson children)) = some children := by
        cases levels with
        | zero => contradiction
        | succ levels => exact mapM_nodeReader (Nat.le_of_succ_le_succ below)
      rw [nodeJson, nodeReader, fieldsOf_object]
      · simp [Reader.required, Reader.defaulted, field?, NodeKind.faithful.reads kind,
          NodeState.faithful.reads state, faithful_table.reads attributes, read]
      · rfl
      · decide

theorem mapM_nodeReader : ∀ {nodes : List Node} {levels : Nat},
    depthOfItems (nodeListJson nodes) ≤ levels →
    (nodeListJson nodes).mapM (nodeReader levels) = some nodes
  | [], _, _ => rfl
  | node :: rest, levels, enough => by
      rw [nodeListJson, depthOfItems, Nat.max_le] at enough
      simp [nodeListJson, nodeReader_nodeJson enough.1, mapM_nodeReader enough.2]
end

theorem nodeJson_faithful : Faithful nodeJson nodeReader where
  plain := nodeJson_plain
  reads := nodeReader_nodeJson

theorem array_nodeListJson (nodes : List Node) :
    .array (nodeListJson nodes) = ofList nodeJson nodes := by
  have same : nodeListJson nodes = nodes.map nodeJson := by
    induction nodes with
    | nil => rfl
    | cons node rest induction => rw [nodeListJson, induction, List.map_cons]
  rw [same, ofList]

theorem endpoint_faithful :
    Faithful (ofOption fun ((host, port) : String × String) => .array [.string host, .string port])
      (.optional (.pair .text .text)) :=
  (faithful_text.pair faithful_text).optional nofun

theorem ServerFacts.faithful : Faithful ServerFacts.toJson ServerFacts.reader where
  plain server := ⟨trivial, trivial, endpoint_faithful.plain server.endpoint,
    faithful_table.plain server.userVariables, trivial⟩
  reads {server levels} enough := by
    refine record_object rfl (by decide) enough fun levels enough => ?_
    simp only [depthOfFields, Nat.max_le] at enough
    obtain ⟨state, -, endpoint, userVariables, -⟩ := enough
    simp [Reader.defaulted, field?, RunState.faithful.reads state,
      endpoint_faithful.reads endpoint, faithful_table.reads userVariables]

theorem Definition.faithful : Faithful Definition.toJson Definition.reader where
  plain definition := ⟨ServerFacts.faithful.plain definition.server,
    nodeListJson_plain definition.suites, trivial⟩
  reads {definition levels} enough := by
    refine record_object rfl (by decide) enough fun levels enough => ?_
    simp only [depthOfFields, Nat.max_le, array_nodeListJson] at enough
    obtain ⟨server, suites, -⟩ := enough
    simp [Reader.defaulted, field?, array_nodeListJson, ServerFacts.faithful.reads server,
      nodeJson_faithful.list.reads suites]

theorem NodeUpdate.faithful : Faithful NodeUpdate.toJson NodeUpdate.reader where
  plain update := ⟨trivial, Aspect.faithful.list.plain update.aspects,
    (NodeState.faithful.optional nofun).plain update.state,
    (faithful_flag.optional nofun).plain update.suspended,
    (faithful_table.optional nofun).plain update.attributes,
    (RunState.faithful.optional nofun).plain update.serverState, trivial⟩
  reads {update levels} enough := by
    refine record_object rfl (by decide) enough fun levels enough => ?_
    simp only [depthOfFields, Nat.max_le] at enough
    obtain ⟨-, aspects, state, suspended, attributes, serverState, -⟩ := enough
    simp [Reader.required, Reader.defaulted, field?, Aspect.faithful.list.reads aspects,
      (NodeState.faithful.optional nofun).reads state,
      (faithful_flag.optional nofun).reads suspended,
      (faithful_table.optional nofun).reads attributes,
      (RunState.faithful.optional nofun).reads serverState]

/-! ## Envelopes -/

theorem Request.fields_plain (request : Request) : FieldsPlain request.fields := by
  cases request with
  | reset suites _ => exact ⟨faithful_texts.plain suites, trivial, trivial⟩
  | command args => exact ⟨faithful_texts.plain args, trivial⟩
  | scriptSubmit _ lines _ => exact ⟨trivial, faithful_texts.plain lines, trivial, trivial⟩
  | _ => simp [Request.fields, FieldsPlain, Plain, FileKind.faithful.plain]

theorem Request.fields_untagged (request : Request) :
    ∀ field ∈ request.fields, field.1 ≠ "type" := by
  cases request <;> simp [Request.fields]

/-- The variant under a request's name reads the request's own fields. -/
theorem Request.variant_name (request : Request) :
    ∃ reader, Request.variant request.name = some reader ∧
      ∀ {levels}, (object request.fields).depth ≤ levels →
        reader levels (.object request.fields) = some request := by
  cases request with
  | news | sync | stats | suiteList => exact ⟨_, rfl, fun _ => rfl⟩
  | reset | command =>
      refine ⟨_, rfl, fun enough => record_object rfl (by decide) enough fun levels enough => ?_⟩
      simp only [Request.fields, depthOfFields, Nat.max_le] at enough
      simp [Request.fields, Reader.required, field?, faithful_texts.reads enough.1]
  | scriptSubmit =>
      refine ⟨_, rfl, fun enough => record_object rfl (by decide) enough fun levels enough => ?_⟩
      simp only [Request.fields, depthOfFields, Nat.max_le] at enough
      simp [Request.fields, Reader.required, field?, faithful_texts.reads enough.2.1]
  | file =>
      refine ⟨_, rfl, fun enough => record_object rfl (by decide) enough fun levels enough => ?_⟩
      simp only [Request.fields, depthOfFields, Nat.max_le] at enough
      simp [Request.fields, Reader.required, field?, FileKind.faithful.reads enough.2.1]
  | history | messages | scriptPreprocess | scriptEdit | suiteAutoRegister =>
      refine ⟨_, rfl, fun enough => record_object rfl (by decide) enough fun levels _ => ?_⟩
      simp [Request.fields, Reader.required]

theorem Request.faithful : Faithful Request.toJson Request.reader where
  plain request := ⟨trivial, request.fields_plain⟩
  reads {request levels} enough := by
    obtain ⟨reader, known, read⟩ := request.variant_name
    exact tagged_object request.fields_untagged request.fields_plain enough known read

theorem Credential.faithful : Faithful Credential.toJson Credential.reader where
  plain credential := by
    cases credential with
    | password user secret => exact ⟨trivial, trivial, trivial, trivial⟩
    | token secret => exact ⟨trivial, trivial, trivial⟩
  reads {credential levels} enough := by
    cases credential with
    | password user secret =>
        refine tagged_object (by simp) ⟨trivial, trivial, trivial⟩ enough rfl fun enough => ?_
        refine record_object rfl (by decide) enough fun levels enough => ?_
        simp [Reader.required, field?]
    | token secret =>
        refine tagged_object (by simp) ⟨trivial, trivial⟩ enough rfl fun enough => ?_
        refine record_object rfl (by decide) enough fun levels enough => ?_
        simp [Reader.required, field?]

theorem Cursor.faithful : Faithful Cursor.toJson Cursor.reader where
  plain cursor := ⟨cursor.clientHandle.toNat_lt_size, cursor.stateChange.toNat_lt_size,
    cursor.modifyChange.toNat_lt_size, trivial⟩
  reads {cursor levels} enough := by
    refine record_object rfl (by decide) enough fun levels _ => ?_
    simp [Reader.required, field?]

theorem Envelope.faithful : Faithful Envelope.toJson Envelope.reader where
  plain envelope := ⟨Credential.faithful.plain envelope.credential,
    Cursor.faithful.plain envelope.cursor, Request.faithful.plain envelope.request, trivial⟩
  reads {envelope levels} enough := by
    refine record_object rfl (by decide) enough fun levels enough => ?_
    simp only [depthOfFields, Nat.max_le] at enough
    obtain ⟨credential, cursor, request, -⟩ := enough
    simp [Reader.required, field?, Credential.faithful.reads credential,
      Cursor.faithful.reads cursor, Request.faithful.reads request]

/-! ## Replies -/

theorem ServerError.faithful : Faithful ServerError.toJson ServerError.reader where
  plain _ := ⟨trivial, trivial, trivial⟩
  reads {error levels} enough := by
    refine record_object rfl (by decide) enough fun levels enough => ?_
    simp only [depthOfFields, Nat.max_le] at enough
    obtain ⟨kind, -⟩ := enough
    simp [Reader.required, field?, ServerErrorKind.faithful.reads kind]

theorem Stats.faithful : Faithful Stats.toJson Stats.reader where
  plain stats := ⟨trivial, stats.uptimeSeconds.toNat_lt_size, stats.requests.toNat_lt_size,
    stats.jobs.toNat_lt_size, trivial⟩
  reads {stats levels} enough := by
    refine record_object rfl (by decide) enough fun levels _ => ?_
    simp [Reader.defaulted, field?]

theorem Reply.faithful : Faithful Reply.toJson Reply.reader where
  plain reply := ⟨(News.faithful.optional nofun).plain reply.news, trivial,
    (faithful_text.optional nofun).plain reply.text, faithful_texts.plain reply.lines,
    (Definition.faithful.optional nofun).plain reply.definition,
    NodeUpdate.faithful.list.plain reply.changes, (Stats.faithful.optional nofun).plain reply.stats,
    (Cursor.faithful.optional nofun).plain reply.cursor,
    (ServerError.faithful.optional nofun).plain reply.error, trivial⟩
  reads {reply levels} enough := by
    refine record_object rfl (by decide) enough fun levels enough => ?_
    simp only [depthOfFields, Nat.max_le] at enough
    obtain ⟨news, -, text, lines, definition, changes, stats, cursor, error, -⟩ := enough
    simp [Reader.defaulted, field?, (News.faithful.optional nofun).reads news,
      (faithful_text.optional nofun).reads text, faithful_texts.reads lines,
      (Definition.faithful.optional nofun).reads definition,
      NodeUpdate.faithful.list.reads changes, (Stats.faithful.optional nofun).reads stats,
      (Cursor.faithful.optional nofun).reads cursor,
      (ServerError.faithful.optional nofun).reads error]

/-! ## Lines -/

/-- The text up to its first end of line and with it, and what comes after. -/
def Text.firstLine : List Char → List Char × List Char
  | [] => ([], [])
  | char :: rest =>
      if char = '\n' then (['\n'], rest)
      else (char :: (firstLine rest).1, (firstLine rest).2)

theorem Text.firstLine_of_printable {text : List Char} (printable : Printable text)
    (after : List Char) : firstLine (text ++ '\n' :: after) = (text ++ ['\n'], after) := by
  induction text with
  | nil => rfl
  | cons char rest induction =>
      have other : char ≠ '\n' := by
        rintro rfl
        simp at printable
      have inner := induction (printable_cons.mp printable).2
      rw [List.cons_append, firstLine, if_neg other, inner]
      rfl

theorem Text.trimEnd_line (text : List Char) {last : Char} (solid : isBlank last = false) :
    trimEnd (text ++ [last] ++ ['\n']) = text ++ [last] := by
  have newline : isBlank '\n' = true := by decide
  simp [trimEnd, newline, solid]

/-- The value that is read from a line. Blanks at the end of the line do not belong
to it. -/
def ofLine? (reader : Reader α) (line : String) : Option α :=
  decode? reader (String.ofList (Text.trimEnd line.toList))

/-- The line is the compact JSON of the value and one end of line. No other
character of it is a control character, so it is one line whatever is sent after
it, and the value is read from it. -/
structure Framed (encode : α → Json) (read : String → Option α) (value : α)
    (line : String) : Prop where
  compact : line = (encode value).toText ++ "\n"
  unbroken : ∀ char ∈ (encode value).toText.toList, 0x20 ≤ char.toNat
  single : ∀ after, Text.firstLine (line.toList ++ after) = (line.toList, after)
  decoded : read line = some value

theorem framed_object {encode : α → Json} {reader : Reader α} {value : α}
    {fields : List (String × Json)} (faithful : Faithful encode reader)
    (written : encode value = .object fields) (shallow : (encode value).depth ≤ nestingLimit) :
    Framed encode (ofLine? reader) value ((encode value).toText ++ "\n") where
  compact := rfl
  unbroken := by
    rw [toText, String.toList_ofList]
    exact printable_print (faithful.plain value)
  single after := by
    have line := Text.firstLine_of_printable (printable_print (faithful.plain value)) after
    simp [toText, line]
  decoded := by
    have solid : Text.isBlank '\x7d' = false := by decide
    have trimmed : Text.trimEnd ((encode value).toText ++ "\n").toList = (encode value).print := by
      simpa [written, toText, print] using
        Text.trimEnd_line ('\x7b' :: printFields fields) solid
    rw [ofLine?, trimmed, decode?, ← toText, parse?_toText (faithful.plain value),
      Option.bind_some, faithful.reads shallow]

theorem Json.depth_ofTexts (texts : List String) : (ofTexts texts).depth = 1 := by
  have flat : depthOfItems (texts.map string) = 0 := by
    induction texts with
    | nil => rfl
    | cons text rest induction => simp [depthOfItems, depth, induction]
  rw [ofTexts, ofList, depth, flat]

theorem Request.depth_toJson (request : Request) : request.toJson.depth ≤ 2 := by
  cases request <;>
    simp [Request.toJson, Request.fields, depth, depthOfFields, depth_ofTexts, FileKind.toJson]

theorem Envelope.depth_toJson (envelope : Envelope) : envelope.toJson.depth ≤ 3 := by
  have credential : envelope.credential.toJson.depth ≤ 1 := by
    cases envelope.credential <;> simp [Credential.toJson, depth, depthOfFields]
  have cursor : envelope.cursor.toJson.depth ≤ 1 := by
    simp [Cursor.toJson, depth, depthOfFields, ofWord]
  have request := envelope.request.depth_toJson
  simp only [Envelope.toJson, depth, depthOfFields]
  omega

theorem Envelope.framed (envelope : Envelope) :
    Framed Envelope.toJson (ofLine? Envelope.reader) envelope envelope.toLine :=
  framed_object Envelope.faithful rfl (Nat.le_trans envelope.depth_toJson (by decide))

theorem Reply.framed {reply : Reply} (shallow : reply.toJson.depth ≤ nestingLimit) :
    Framed Reply.toJson Reply.ofLine? reply (reply.toJson.toText ++ "\n") :=
  framed_object Reply.faithful rfl shallow

/-- Every envelope and every reply that is not nested too deep is sent as one line,
from which it is read. -/
theorem framed_messages (envelope : Envelope) (reply : Reply)
    (shallow : reply.toJson.depth ≤ nestingLimit) :
    Framed Envelope.toJson (ofLine? Envelope.reader) envelope envelope.toLine ∧
      Framed Reply.toJson Reply.ofLine? reply (reply.toJson.toText ++ "\n") :=
  ⟨envelope.framed, Reply.framed shallow⟩

/-- A task below that many families, one inside the other. -/
def taskBelow : Nat → Node
  | 0 => .node { name := "t", kind := .task } []
  | families + 1 => .node { name := "f", kind := .family } [taskBelow families]

/-- A reply nested as deep as a reader goes, with what has to be escaped. -/
def deepestReply : Reply where
  text := some "\x00 \x1f \" \\ \r\n é"
  definition := some { suites := [taskBelow 61] }
  cursor := some { clientHandle := 0xFFFFFFFFFFFFFFFF }

theorem framed_deepestReply :
    deepestReply.toJson.depth = nestingLimit ∧
      Framed Envelope.toJson (ofLine? Envelope.reader)
        ⟨.token "\t", {}, .command ["--begin", "/s"]⟩
        (Envelope.toLine ⟨.token "\t", {}, .command ["--begin", "/s"]⟩) ∧
      Framed Reply.toJson Reply.ofLine? deepestReply (deepestReply.toJson.toText ++ "\n") :=
  ⟨by decide +kernel, framed_messages _ deepestReply (by decide +kernel)⟩

/-! ## Exchanges -/

/-- A server that reads the line of an exchange has the credential, the cursor and
the request it was made of. -/
theorem Connection.exchange_line (connection : Connection) (now : Nat) (request : Request) :
    ofLine? Envelope.reader (connection.exchange now request).line =
      some (connection.envelope request) :=
  (connection.envelope request).framed.decoded

/-- The reply that a server writes is what comes of the request. -/
theorem outcomeOf_line (settings : ConnectionSettings) {reply : Reply}
    (shallow : reply.toJson.depth ≤ nestingLimit) :
    outcomeOf settings (.ok (reply.toJson.toText ++ "\n")) = .ok reply := by
  rw [outcomeOf, (Reply.framed shallow).decoded]

end FlowClient
