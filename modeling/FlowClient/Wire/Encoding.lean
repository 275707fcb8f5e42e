import FlowClient.Json.Printer
import FlowClient.Wire

/-! The JSON form of what goes over the wire. Every field is written, in a fixed
order; what is absent is `null`. -/

namespace FlowClient

def Json.ofWord (value : UInt64) : Json := .natural value.toNat

def Json.ofTable (table : Table String) : Json :=
  .object (table.entries.map fun entry => (entry.1, .string entry.2))

/-! ## Definitions -/

def RunState.toJson (state : RunState) : Json := .string state.name

def NodeState.toJson (state : NodeState) : Json := .string state.name

def NodeKind.toJson (kind : NodeKind) : Json := .string kind.name

def Aspect.toJson (aspect : Aspect) : Json := .string aspect.name

mutual
def nodeJson : Node → Json
  | .node facts children =>
      .object [
        ("name", .string facts.name),
        ("kind", facts.kind.toJson),
        ("state", facts.state.toJson),
        ("suspended", .bool facts.suspended),
        ("attributes", Json.ofTable facts.attributes),
        ("children", .array (nodeListJson children))]

def nodeListJson : List Node → List Json
  | [] => []
  | node :: rest => nodeJson node :: nodeListJson rest
end

def ServerFacts.toJson (server : ServerFacts) : Json :=
  .object [
    ("state", server.state.toJson),
    ("suspended", .bool server.suspended),
    ("host_port", Json.ofOption
      (fun (host, port) => .array [.string host, .string port]) server.endpoint),
    ("user_variables", Json.ofTable server.userVariables)]

def Definition.toJson (definition : Definition) : Json :=
  .object [
    ("server", definition.server.toJson),
    ("suites", .array (nodeListJson definition.suites))]

def NodeUpdate.toJson (update : NodeUpdate) : Json :=
  .object [
    ("path", .string update.path),
    ("aspects", Json.ofList Aspect.toJson update.aspects),
    ("state", Json.ofOption NodeState.toJson update.state),
    ("suspended", Json.ofOption .bool update.suspended),
    ("attributes", Json.ofOption Json.ofTable update.attributes),
    ("server_state", Json.ofOption RunState.toJson update.serverState)]

/-! ## Envelopes -/

def FileKind.toJson (kind : FileKind) : Json := .string kind.name

def Request.fields : Request → List (String × Json)
  | news => []
  | sync => []
  | reset suites autoAddNew =>
      [("suites", Json.ofTexts suites), ("auto_add_new", .bool autoAddNew)]
  | command args => [("args", Json.ofTexts args)]
  | file path kind => [("path", .string path), ("kind", kind.toJson)]
  | history path => [("path", .string path)]
  | messages path => [("path", .string path)]
  | stats => []
  | scriptPreprocess path => [("path", .string path)]
  | scriptEdit path => [("path", .string path)]
  | scriptSubmit path lines asAlias =>
      [("path", .string path), ("lines", Json.ofTexts lines), ("alias", .bool asAlias)]
  | suiteList => []
  | suiteAutoRegister autoAddNew => [("auto_add_new", .bool autoAddNew)]

def Request.toJson (request : Request) : Json :=
  .object (("type", .string request.name) :: request.fields)

def Credential.toJson : Credential → Json
  | password user secret =>
      .object [("scheme", .string "password"), ("user", .string user),
        ("password", .string secret)]
  | token secret => .object [("scheme", .string "token"), ("token", .string secret)]

def Cursor.toJson (cursor : Cursor) : Json :=
  .object [
    ("client_handle", .ofWord cursor.clientHandle),
    ("state_change_no", .ofWord cursor.stateChange),
    ("modify_change_no", .ofWord cursor.modifyChange)]

def Envelope.toJson (envelope : Envelope) : Json :=
  .object [
    ("auth", envelope.credential.toJson),
    ("cursor", envelope.cursor.toJson),
    ("request", envelope.request.toJson)]

/-! ## Replies -/

def News.toJson (answer : News) : Json := .string answer.name

def ServerErrorKind.toJson (kind : ServerErrorKind) : Json := .string kind.name

def ServerError.toJson (error : ServerError) : Json :=
  .object [("kind", error.kind.toJson), ("message", .string error.message)]

def Stats.toJson (stats : Stats) : Json :=
  .object [
    ("version", .string stats.version),
    ("uptime_secs", .ofWord stats.uptimeSeconds),
    ("request_count", .ofWord stats.requests),
    ("job_count", .ofWord stats.jobs)]

def Reply.toJson (reply : Reply) : Json :=
  .object [
    ("news", Json.ofOption News.toJson reply.news),
    ("full_sync", .bool reply.fullSync),
    ("text", Json.ofOption .string reply.text),
    ("lines", Json.ofTexts reply.lines),
    ("defs", Json.ofOption Definition.toJson reply.definition),
    ("changes", Json.ofList NodeUpdate.toJson reply.changes),
    ("stats", Json.ofOption Stats.toJson reply.stats),
    ("cursor", Json.ofOption Cursor.toJson reply.cursor),
    ("error", Json.ofOption ServerError.toJson reply.error)]

/-! ## Lines -/

def Envelope.toLine (envelope : Envelope) : String := envelope.toJson.toText ++ "\n"

end FlowClient
