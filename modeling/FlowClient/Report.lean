import FlowClient.Command
import FlowClient.ScriptedServer
import FlowClient.Session
import FlowClient.Wire.Encoding

/-! Reports: what a session knows and announces, as JSON. Unlike the values on the
wire these are only written, for tools that look into a client. -/

namespace FlowClient

/-! ## Failures -/

def FailureCause.title : FailureCause → String
  | authentication => "Authentication"
  | unreachable => "Unreachable"
  | timeout => "Timeout"
  | tls => "Tls"
  | protocol => "Protocol"
  | rejected kind => "Rejected(" ++ kind.title ++ ")"

def Failure.report (failure : Failure) : Json :=
  .object [
    ("error", .string failure.cause.title),
    ("message", .string failure.text),
    ("connection_level", .bool failure.isOfConnection)]

def MirrorError.report (problem : MirrorError) : Json :=
  let title := match problem with
    | .unknownNode _ => "UnknownNode"
    | .scanCountMismatch _ _ => "ScanCountMismatch"
  .object [("error", .string title), ("message", .string problem.message)]

def ClientError.title : ClientError → String
  | configuration _ => "ConfigError"
  | file _ => "IoError"
  | grammar _ => "TomlError"
  | serverNotFound _ => "ServerNotFound"
  | commandNotFound _ => "CommandNotFound"
  | failure _ => "Connection"
  | mirror _ => "Internal"
  | sessionClosed _ => "SessionClosed"
  | other _ => "Other"

/-- The report of an error. Where exactly a grammar is broken is left out. -/
def ClientError.report (error : ClientError) : Json :=
  .object <| ("error", .string error.title) :: match error with
    | .grammar _ => []
    | _ => [("message", .string error.message)]

/-! ## Mirrors -/

def SuiteFilter.report (filter : SuiteFilter) : Json :=
  .object [
    ("enabled", .bool filter.enabled),
    ("auto_add_new", .bool filter.autoAddNew),
    ("suites", Json.ofTexts filter.suites.names),
    ("loaded", Json.ofTexts filter.loaded)]

def FilterChange.report (change : FilterChange) : Json :=
  .object [
    ("enabled", .bool change.enabled),
    ("auto_add", .bool change.autoAdd),
    ("suites", .bool change.suites),
    ("any", .bool change.any),
    ("only_auto_add", .bool change.isOnlyAutoAdd)]

mutual
def mirrorNodeReport : MirrorNode → Json
  | .node facts children =>
      .object [
        ("path", .string facts.path),
        ("name", .string facts.name),
        ("kind", facts.kind.toJson),
        ("state", facts.state.toJson),
        ("suspended", .bool facts.suspended),
        ("attributes", Json.ofTable facts.attributes),
        ("num_of_children", .natural children.length),
        ("total_num", .natural (Tree.node facts children).size),
        ("children", .array (mirrorNodeReports children))]

def mirrorNodeReports : List MirrorNode → List Json
  | [] => []
  | node :: rest => mirrorNodeReport node :: mirrorNodeReports rest
end

def Mirror.report (mirror : Mirror) : Json :=
  .object [
    ("is_empty", .bool mirror.isEmpty),
    ("num_of_children", .natural mirror.suiteCount),
    ("total_num", .natural mirror.nodeCount),
    ("suite_names", Json.ofTexts mirror.suiteNames),
    ("suites", .array (mirrorNodeReports mirror.suites))]

def NodeChange.report (change : NodeChange) : Json :=
  .object [
    ("ignore", .bool change.ignore),
    ("cached_attr_num", .natural change.attributesBefore),
    ("attr_num", .natural change.attributesAfter)]

def ScanExtent.fields (extent : ScanExtent) : List (String × Json) :=
  [("suite_num", .natural extent.suites), ("total_num", .natural extent.nodes)]

/-! ## Tasks -/

def OnSuccess.title : OnSuccess → String
  | followNews => "HandleNews"
  | foldChanges => "HandleSync"
  | loadDefinition => "ResetFinished"
  | keepText => "StoreText"
  | keepLines => "StoreLines"
  | keepStats => "StoreStats"
  | keepTextAndAskNews => "StoreTextThenNews"
  | takeSuiteList => "UpdateLoadedSuites"
  | acknowledge => "Acknowledge"

def OnFailure.title : OnFailure → String
  | loseConnection => "ConnectionLost"
  | giveUpReset => "ResetFailed"
  | abortTask => "AbortTask"

def TaskKind.report (kind : TaskKind) : Json :=
  .object [
    ("display", .string kind.title),
    ("routable", .bool kind.isRoutable),
    ("client_par", Json.ofOption FileKind.toJson kind.fileKind?),
    ("on_success", .string kind.onSuccess.title),
    ("on_failure", .string kind.onFailure.title),
    ("reset_family", .bool kind.isReset)]

/-- The request of a task, or why there is none. -/
def requestReport : Except Failure Request → Json
  | .ok request => request.toJson
  | .error failure => failure.report

def TaskResult.report : TaskResult → Json
  | .nothing => .null
  | .text content => .object [("text", .string content)]
  | .lines content => .object [("lines", Json.ofTexts content)]

def Progress.endFields (progress : Progress) : List (String × Json) := [
  ("text", .string progress.result.asText),
  ("error_message", Json.ofOption .string progress.reason?)]

def Task.report (task : Task) : Json :=
  .object ([
    ("kind", .string task.kind.title),
    ("args", Json.ofTexts task.args),
    ("params", .object (Param.all.filterMap fun param =>
      (task.params.get? param).map fun value => (param.name, .string value))),
    ("status", .string task.progress.title),
    ("terminal", .bool task.isTerminal),
    ("result", task.progress.result.report),
    ("request", requestReport task.request)] ++ task.progress.endFields)

/-! ## Sessions -/

def Snapshot.fields (snapshot : Snapshot) : List (String × Json) := [
  ("name", .string snapshot.name),
  ("host", .string snapshot.host),
  ("port", .string snapshot.port),
  ("connect_state", .string snapshot.contact.name),
  ("connect_error", Json.ofOption .string snapshot.contact.reason?),
  ("activity", .string snapshot.activity.title),
  ("queue_state", .string snapshot.queueState.title),
  ("server_state", snapshot.serverState.toJson),
  ("node_state", snapshot.nodeState.toJson),
  ("suspended", .bool snapshot.suspended),
  ("mirrored_suites", Json.ofTexts snapshot.mirroredSuites),
  ("mirrored_nodes", .natural snapshot.mirroredNodes),
  ("suite_filter", snapshot.filter.report),
  ("timer_running", .bool snapshot.timerRunning)]

private def nodeChangeFields (title path : String) (aspects : List Aspect)
    (change : NodeChange) : List (String × Json) := [
  ("event", .string title),
  ("path", .string path),
  ("aspects", Json.ofList Aspect.toJson aspects),
  ("change", change.report)]

def Event.fields : Event → List (String × Json)
  | scanBegin extent => ("event", .string "ServerScanBegin") :: extent.fields
  | scanEnd => [("event", .string "ServerScanEnd")]
  | clearBegin => [("event", .string "ServerClearBegin")]
  | clearEnd => [("event", .string "ServerClearEnd")]
  | nodeChangeBegin path aspects change =>
      nodeChangeFields "NodeChangeBegin" path aspects change
  | nodeChangeEnd path aspects change => nodeChangeFields "NodeChangeEnd" path aspects change
  | contactChanged contact => [
      ("event", .string "ConnectStateChanged"),
      ("state", .string contact.name),
      ("error", Json.ofOption .string contact.reason?)]
  | activityChanged activity => [
      ("event", .string "ActivityChanged"),
      ("activity", .string activity.title)]
  | definitionChanged aspects => [
      ("event", .string "DefsChanged"),
      ("aspects", Json.ofList Aspect.toJson aspects)]
  | filterChanged => [("event", .string "SuiteFilterChanged")]
  | deleted => [("event", .string "ServerDeleted")]

/-- A notice as one of its observers heard it. -/
def Notice.report (notice : Notice) (server : String) (observer : ObserverId) : Json :=
  .object (notice.event.fields ++ [
    ("server", .string server),
    ("mirrored_suites", .natural notice.shown.length),
    ("observer", .natural observer)])

end FlowClient
