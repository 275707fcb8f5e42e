import FlowClient.Json.Parser
import FlowClient.Json.Reader
import FlowClient.Text.Blank
import FlowClient.Wire
import FlowClient.SuiteFilter

/-! Reading what comes over the wire. Most fields may be left out and then have
the value that stands for nothing. -/

namespace FlowClient

open Json

/-- How many arrays and objects a reader enters, one inside the other. -/
def nestingLimit : Nat := 127

def decode? (reader : Reader α) (text : String) : Option α :=
  (Json.parse? text).bind (reader nestingLimit)

/-! ## Definitions -/

def RunState.reader : Reader RunState := .choice all name

def NodeState.reader : Reader NodeState := .choice all name

def NodeKind.reader : Reader NodeKind := .choice all name

def Aspect.reader : Reader Aspect := .choice all name

def nodeFields : List String :=
  ["name", "kind", "state", "suspended", "attributes", "children"]

mutual
def nodeReader : Nat → Json → Option Node
  | 0, _ => none
  | levels + 1, json => do
      let fields ← Reader.fieldsOf nodeFields false json
      let name ← Reader.required fields levels "name" .text
      let kind ← Reader.defaulted fields levels "kind" default NodeKind.reader
      let state ← Reader.defaulted fields levels "state" default NodeState.reader
      let suspended ← Reader.defaulted fields levels "suspended" false .flag
      let attributes ← Reader.defaulted fields levels "attributes" .empty .table
      let children ← match fields "children" with
        | none => some []
        | some json => nodeListReader levels json
      some (.node { name, kind, state, suspended, attributes } children)

def nodeListReader : Nat → Json → Option (List Node)
  | levels + 1, .array items => items.mapM (nodeReader levels)
  | _, _ => none
end

def ServerFacts.reader : Reader ServerFacts :=
  .record ["state", "suspended", "host_port", "user_variables"] fun levels fields => do
    let state ← Reader.defaulted fields levels "state" default RunState.reader
    let suspended ← Reader.defaulted fields levels "suspended" false .flag
    let endpoint ← Reader.defaulted fields levels "host_port" none
      (.optional (.pair .text .text))
    let userVariables ← Reader.defaulted fields levels "user_variables" .empty .table
    some { state, suspended, endpoint, userVariables }

def Definition.reader : Reader Definition :=
  .record ["server", "suites"] fun levels fields => do
    let server ← Reader.defaulted fields levels "server" {} ServerFacts.reader
    let suites ← Reader.defaulted fields levels "suites" [] (.list nodeReader)
    some { server, suites }

def NodeUpdate.reader : Reader NodeUpdate :=
  .record ["path", "aspects", "state", "suspended", "attributes", "server_state"]
    fun levels fields => do
      let path ← Reader.required fields levels "path" .text
      let aspects ← Reader.defaulted fields levels "aspects" [] (.list Aspect.reader)
      let state ← Reader.defaulted fields levels "state" none (.optional NodeState.reader)
      let suspended ← Reader.defaulted fields levels "suspended" none (.optional .flag)
      let attributes ← Reader.defaulted fields levels "attributes" none (.optional .table)
      let serverState ← Reader.defaulted fields levels "server_state" none
        (.optional RunState.reader)
      some { path, aspects, state, suspended, attributes, serverState }

/-! ## Envelopes -/

/-- Within a tagged value a name may also stand beside an empty object. -/
def FileKind.reader : Reader FileKind :=
  .oneOf all name fun
    | .null => true
    | .object [] => true
    | _ => false

private def onPath (build : String → Request) : Reader Request :=
  .record ["path"] fun levels fields =>
    (Reader.required fields levels "path" .text).map build

def Request.variant : String → Option (Reader Request)
  | "news" => some (.unit .news)
  | "sync" => some (.unit .sync)
  | "reset" => some <| .record ["suites", "auto_add_new"] fun levels fields => do
      let suites ← Reader.required fields levels "suites" (.list .text)
      let autoAddNew ← Reader.required fields levels "auto_add_new" .flag
      some (.reset suites autoAddNew)
  | "command" => some <| .record ["args"] fun levels fields =>
      (Reader.required fields levels "args" (.list .text)).map .command
  | "file" => some <| .record ["path", "kind"] fun levels fields => do
      let path ← Reader.required fields levels "path" .text
      let kind ← Reader.required fields levels "kind" FileKind.reader
      some (.file path kind)
  | "history" => some (onPath .history)
  | "messages" => some (onPath .messages)
  | "stats" => some (.unit .stats)
  | "script_preprocess" => some (onPath .scriptPreprocess)
  | "script_edit" => some (onPath .scriptEdit)
  | "script_submit" => some <| .record ["path", "lines", "alias"] fun levels fields => do
      let path ← Reader.required fields levels "path" .text
      let lines ← Reader.required fields levels "lines" (.list .text)
      let asAlias ← Reader.required fields levels "alias" .flag
      some (.scriptSubmit path lines asAlias)
  | "suite_list" => some (.unit .suiteList)
  | "suite_auto_register" => some <| .record ["auto_add_new"] fun levels fields =>
      (Reader.required fields levels "auto_add_new" .flag).map .suiteAutoRegister
  | _ => none

def Request.reader : Reader Request := .tagged "type" variant

def Credential.variant : String → Option (Reader Credential)
  | "password" => some <| .record ["user", "password"] fun levels fields => do
      let user ← Reader.required fields levels "user" .text
      let password ← Reader.required fields levels "password" .text
      some (.password user password)
  | "token" => some <| .record ["token"] fun levels fields =>
      (Reader.required fields levels "token" .text).map .token
  | _ => none

def Credential.reader : Reader Credential := .tagged "scheme" variant

def Cursor.reader : Reader Cursor :=
  .record ["client_handle", "state_change_no", "modify_change_no"] fun levels fields => do
    let clientHandle ← Reader.required fields levels "client_handle" .word
    let stateChange ← Reader.required fields levels "state_change_no" .word
    let modifyChange ← Reader.required fields levels "modify_change_no" .word
    some { clientHandle, stateChange, modifyChange }

def Envelope.reader : Reader Envelope :=
  .record ["auth", "cursor", "request"] fun levels fields => do
    let credential ← Reader.required fields levels "auth" Credential.reader
    let cursor ← Reader.required fields levels "cursor" Cursor.reader
    let request ← Reader.required fields levels "request" Request.reader
    some { credential, cursor, request }

/-! ## Replies -/

def News.reader : Reader News := .choice all name

def ServerErrorKind.reader : Reader ServerErrorKind := .choice all name

def ServerError.reader : Reader ServerError :=
  .record ["kind", "message"] fun levels fields => do
    let kind ← Reader.required fields levels "kind" ServerErrorKind.reader
    let message ← Reader.required fields levels "message" .text
    some { kind, message }

def Stats.reader : Reader Stats :=
  .record ["version", "uptime_secs", "request_count", "job_count"] fun levels fields => do
    let version ← Reader.defaulted fields levels "version" "" .text
    let uptimeSeconds ← Reader.defaulted fields levels "uptime_secs" 0 .word
    let requests ← Reader.defaulted fields levels "request_count" 0 .word
    let jobs ← Reader.defaulted fields levels "job_count" 0 .word
    some { version, uptimeSeconds, requests, jobs }

def Reply.reader : Reader Reply :=
  .record ["news", "full_sync", "text", "lines", "defs", "changes", "stats", "cursor",
      "error"] fun levels fields => do
    let news ← Reader.defaulted fields levels "news" none (.optional News.reader)
    let fullSync ← Reader.defaulted fields levels "full_sync" false .flag
    let text ← Reader.defaulted fields levels "text" none (.optional .text)
    let lines ← Reader.defaulted fields levels "lines" [] (.list .text)
    let definition ← Reader.defaulted fields levels "defs" none (.optional Definition.reader)
    let changes ← Reader.defaulted fields levels "changes" [] (.list NodeUpdate.reader)
    let stats ← Reader.defaulted fields levels "stats" none (.optional Stats.reader)
    let cursor ← Reader.defaulted fields levels "cursor" none (.optional Cursor.reader)
    let error ← Reader.defaulted fields levels "error" none (.optional ServerError.reader)
    some { news, fullSync, text, lines, definition, changes, stats, cursor, error }

/-- The reply that a line from the server carries. Blanks at its end, the end of
the line among them, do not belong to it. -/
def Reply.ofLine? (line : String) : Option Reply :=
  decode? Reply.reader (String.ofList (Text.trimEnd line.toList))

/-! ## Filters -/

/-- The settings of a suite filter. The suites a server listed are no setting. -/
def SuiteFilter.reader : Reader SuiteFilter :=
  .strictRecord ["enabled", "auto_add_new", "suites"] fun levels fields => do
    let enabled ← Reader.defaulted fields levels "enabled" false .flag
    let autoAddNew ← Reader.defaulted fields levels "auto_add_new" false .flag
    let suites ← Reader.defaulted fields levels "suites" .empty .nameSet
    some { enabled, autoAddNew, suites }

end FlowClient
