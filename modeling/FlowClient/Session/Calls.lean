import FlowClient.Session.Loading

/-! What callers, and the timer, ask of a session. -/

namespace FlowClient.Session

/-! ## Tasks -/

/-- Why a task is rejected that is run while nothing may be sent. -/
def disconnectedReason : String := "server disconnected"

def runCommand (session : Session) (args : List String) : Session × Option TaskId :=
  if session.contact = .disconnected then (session, none)
  else
    let (session, id) := session.enter (Task.command args)
    ({ session with queue := (session.queue.submit id).1 }, some id)

def run (session : Session) (id : TaskId) : Session :=
  match session.queue.kind? id with
  | none => session
  | some kind =>
      if session.contact = .disconnected then
        session.advance id (.rejected disconnectedReason)
      else if !kind.isRoutable then
        session.advance id (.rejected s!"{kind.title} tasks cannot be run directly")
      else
        let queue := match kind.fileKind? with
          | none => session.queue
          | some file => session.queue.changeTask id (·.setParam .clientPar file.name)
        { session with queue := (queue.submit id).1 }

/-! ## Polling -/

def update (session : Session) : Session × Option TaskId :=
  if session.contact = .disconnected then (session, none)
  else
    let (queue, id) := session.queue.add { kind := .news }
    ({ session with queue }, id)

def tick (session : Session) : Session := session.update.1

/-- Poll now, and let the timer wait its full period from here. -/
def refresh (session : Session) : Session := session.update.1.restartTimer

/-! ## Connecting -/

def disconnect (session : Session) : Session :=
  if session.contact = .disconnected then session
  else
    let session := session.setContact .disconnected
    { session with queue := session.queue.disable }.stopTimer

/-- Take up a connection that was given up. A mirror that is empty has to be
loaded; otherwise news are enough. -/
def connect (session : Session) : Session :=
  if session.contact != .disconnected || session.shuttingDown then session
  else
    let session := session.setContact (.lost none)
    let session := { session with queue := session.queue.enable }.restartTimer
    if session.mirror.isEmpty then session.reset else session.update.1

/-! ## The filter -/

def updateFilter (session : Session) (filter : SuiteFilter) : Session :=
  let change := session.filter.changeTo filter
  let session := { session with filter := session.filter.update filter }
  if !change.any then session
  else if change.isOnlyAutoAdd then
    session.follow (Task.autoRegister session.filter.autoAddNew)
  else session.reset

def updateLoaded (session : Session) (names : List String) : Session :=
  { session with filter := session.filter.setLoaded names }.announce .filterChanged

/-! ## The end -/

/-- The session is over once it is shutting down and nothing is in flight. -/
def finishIfIdle (session : Session) : Session :=
  if session.shuttingDown && !session.deleted && session.queue.inFlight.isNone then
    { session.announce .deleted with deleted := true }
  else session

/-- Accept nothing more. A task in flight is still waited for. -/
def shutdown (session : Session) : Session :=
  if session.shuttingDown then session
  else
    let session := { session with
      shuttingDown := true
      queue := session.queue.disable }
    session.stopTimer.finishIfIdle

end FlowClient.Session
