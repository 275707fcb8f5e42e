import FlowClient.Trial
import FlowClient.Wire.Decoding

/-! Descriptions of trials, as JSON: sessions and how they are set up, tasks and
targets, and servers with their scripts. What is missing or `null` has a usual
value. -/

namespace FlowClient

open Json

/-- A field with a usual value for when it is missing or `null`. -/
def Json.Reader.usual (fields : Reader.Fields) (levels : Nat) (name : String) (usual : α)
    (reader : Reader α) : Option α :=
  (Reader.defaulted fields levels name none (.optional reader)).map (·.getD usual)

def Json.Reader.number : Reader Nat
  | _, .natural value => some value
  | _, _ => none

def SuiteFilter.fullReader : Reader SuiteFilter :=
  .record ["enabled", "auto_add_new", "suites", "loaded"] fun levels fields => do
    let enabled ← Reader.usual fields levels "enabled" false .flag
    let autoAddNew ← Reader.usual fields levels "auto_add_new" false .flag
    let suites ← Reader.usual fields levels "suites" .empty .nameSet
    let loaded ← Reader.usual fields levels "loaded" [] (.list .text)
    some { enabled, autoAddNew, suites, loaded }

def SessionOptions.reader : Reader SessionOptions :=
  .record ["name", "host", "port", "refresh_ms", "suite_filter"] fun levels fields => do
    let name ← Reader.usual fields levels "name" "main" .text
    let host ← Reader.usual fields levels "host" "host" .text
    let port ← Reader.usual fields levels "port" "3141" .text
    let refreshInterval ← Reader.defaulted fields levels "refresh_ms" (some 60000)
      (.optional .number)
    let filter ← Reader.usual fields levels "suite_filter" {} SuiteFilter.fullReader
    some { name, host, port, refreshInterval, filter }

def Failure.reader : Reader Failure :=
  .record ["kind", "message", "server_kind"] fun levels fields => do
    let message ← Reader.usual fields levels "message" "" .text
    let cause ← match ← Reader.required fields levels "kind" .text with
      | "unreachable" => some FailureCause.unreachable
      | "timeout" => some .timeout
      | "protocol" => some .protocol
      | "authentication" => some .authentication
      | "tls" => some .tls
      | "rejected" =>
          (Reader.required fields levels "server_kind" ServerErrorKind.reader).map .rejected
      | _ => none
    some ⟨cause, message⟩

def outcomeReader : Reader Outcome := fun levels json =>
  match json.get? "fail" with
  | some failure => (Failure.reader levels failure).map .error
  | none => (Reply.reader levels json).map .ok

/-- A task: one that submits a script, or any other by its kind. Parameters are
set last. -/
def Task.reader : Reader Task :=
  .record ["submit", "lines", "alias", "kind", "args", "path", "params"]
    fun levels fields => do
      let made ← match ← Reader.usual fields levels "submit" none (.optional .text) with
        | some path => do
            let lines ← Reader.usual fields levels "lines" [] (.list .text)
            let asAlias ← Reader.usual fields levels "alias" false .flag
            some (Task.submission path lines asAlias)
        | none => do
            let kind ← (Reader.required fields levels "kind" .text).bind TaskKind.ofTitle?
            let args ← Reader.usual fields levels "args" [] (.list .text)
            let path ← Reader.usual fields levels "path" none (.optional .text)
            some { kind, args, params := { path } }
      let params ← Reader.usual fields levels "params" .empty .table
      some <| params.entries.foldl (fun task (name, value) =>
        match Param.ofName? name with
        | some param => task.setParam param value
        | none => task) made

def Target.reader : Reader Target :=
  .record ["server", "path"] fun levels fields => do
    let server ← Reader.required fields levels "server" .text
    let path ← Reader.usual fields levels "path" "/" .text
    some ⟨server, path⟩

def scriptReader : Reader (Table (List Outcome))
  | levels + 1, .object fields =>
      (fields.mapM fun field => (Reader.list outcomeReader levels field.2).map (field.1, ·)).map
        Table.ofList
  | _, _ => none

def ScriptedServer.reader : Reader ScriptedServer :=
  .record ["defs", "script", "always_fail", "gate_closed"] fun levels fields => do
    let definition ← Reader.usual fields levels "defs" sampleDefinition Definition.reader
    let script ← Reader.usual fields levels "script" .empty scriptReader
    let down ← Reader.usual fields levels "always_fail" none (.optional Failure.reader)
    let closed ← Reader.usual fields levels "gate_closed" false .flag
    some { definition, script, down, gate := if closed then some 0 else none }

end FlowClient
