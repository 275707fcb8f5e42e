import FlowClient.Session.Calls

/-! What a session does when a task comes back: the reply or the failure is used
as the task's kind has it, and the task gets its end. -/

namespace FlowClient.Session

def handleNews (session : Session) (answer : Option News) : Session :=
  let session := session.contactGained
  match answer with
  | some .news => session.follow { kind := .sync }
  | some .doFullSync => session.reset
  | some .noNews => session
  | none => session

/-- The reply of a sync is folded in. The mirror is filled anew if the reply
replaces the definition, or if a change emptied it. -/
def syncSucceeded (session : Session) (id : TaskId) (reply : Reply) : Session :=
  let session := (session.applySync reply).advance id (.finished .nothing)
  let session :=
    if reply.fullSync || session.mirror.isEmpty then session.rescan.1 else session
  session.follow { kind := .suiteList }

def resetSucceeded (session : Session) (id : TaskId) (reply : Reply) : Session :=
  let session := { session with definition := reply.definition.getD {} }
  let (session, checked) := session.resetFinished
  let session := session.advance id <| match checked with
    | .ok () => .finished .nothing
    | .error problem => .aborted s!"internal error: {problem.message}"
  session.follow { kind := .suiteList }

def taskSucceeded (session : Session) (id : TaskId) (kind : TaskKind) (reply : Reply) :
    Session :=
  let kept : Progress := .finished (.ofReply kind.onSuccess reply)
  match kind.onSuccess with
  | .followNews => (session.advance id kept).handleNews reply.news
  | .foldChanges => session.syncSucceeded id reply
  | .loadDefinition => session.resetSucceeded id reply
  | .keepTextAndAskNews => (session.advance id kept).follow { kind := .news }
  | .takeSuiteList => (session.updateLoaded reply.lines).advance id kept
  | .keepText => session.advance id kept
  | .keepLines => session.advance id kept
  | .keepStats => session.advance id kept
  | .acknowledge => session.advance id kept

def taskFailed (session : Session) (id : TaskId) (kind : TaskKind) (failure : Failure) :
    Session :=
  let session := session.advance id (.aborted failure.text)
  match kind.onFailure with
  | .loseConnection => session.contactLost failure.text
  | .giveUpReset => session.resetFailed failure.text
  | .abortTask =>
      if failure.isOfConnection then session.contactLost failure.text else session

/-- Whether an outcome of this kind says nothing to the session any more: a
reset is to replace all it could bring, or nothing is wanted from the server. -/
def isSuperseded (session : Session) (kind : TaskKind) : Bool :=
  (session.queue.isResetting && !kind.isReset) || session.shuttingDown ||
    session.contact = .disconnected

/-- Give a task its end and let nothing else follow from it. -/
def recordOnly (session : Session) (id : TaskId) (kind : TaskKind) (outcome : Outcome) :
    Session :=
  let session := session.advance id <| match outcome with
    | .ok reply => .finished (.ofReply kind.onSuccess reply)
    | .error failure => .aborted failure.text
  let session :=
    if kind.isReset && session.activity = .loading then session.setActivity .idle else session
  session.finishIfIdle

def taskCompleted (session : Session) (id : TaskId) (outcome : Outcome) : Session :=
  match session.queue.kind? id with
  | none => session
  | some kind =>
      let session := { session with queue := (session.queue.complete id).1 }
      if session.isSuperseded kind then session.recordOnly id kind outcome
      else match outcome with
        | .ok reply => session.taskSucceeded id kind reply
        | .error failure => session.taskFailed id kind failure

end FlowClient.Session
