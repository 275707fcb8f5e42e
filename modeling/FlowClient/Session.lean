import FlowClient.Event
import FlowClient.Queue

/-! The session with one server: what the client knows of it and what it still has
to ask. A session does nothing by itself. It takes one input after the other,
announces what changes, and leaves commands for whoever drives it. -/

namespace FlowClient

/-! ## Options and commands -/

/-- The name of a session and where its server is. -/
structure SessionOptions where
  name : String
  host : String
  port : String
  /-- Milliseconds between two polls, if the server is polled at all. -/
  refreshInterval : Option Nat := some 60000
  filter : SuiteFilter := {}

def SessionOptions.longName (options : SessionOptions) : String :=
  options.host ++ "@" ++ options.port

inductive SessionCommand where
  /-- Send the task's request and bring back the outcome. -/
  | dispatch (id : TaskId)
  /-- Let the timer tick with this period, counted from now. -/
  | startTimer (period : Nat)
  | stopTimer
deriving DecidableEq, Repr

structure SessionStep where
  commands : List SessionCommand
  keepRunning : Bool

/-! ## Sessions -/

structure Session where
  options : SessionOptions
  contact : Contact := .lost none
  activity : Activity := .idle
  queue : Queue := {}
  definition : Definition := {}
  mirror : Mirror := {}
  filter : SuiteFilter := options.filter
  observers : List ObserverId := []
  subscriptions : Nat := 0
  timerRunning : Bool := false
  shuttingDown : Bool := false
  deleted : Bool := false
  commands : List SessionCommand := []
  notices : List Notice := []

namespace Session

/-- A session that has not asked its server for anything yet. -/
def new (options : SessionOptions) : Session := { options }

def name (session : Session) : String := session.options.name

/-! ## Observers -/

def subscribe (session : Session) : Session × ObserverId :=
  ({ session with
      observers := session.observers ++ [session.subscriptions]
      subscriptions := session.subscriptions + 1 }, session.subscriptions)

def unsubscribe (session : Session) (id : ObserverId) : Session × Bool :=
  ({ session with observers := session.observers.filter (· != id) },
    session.observers.contains id)

def announce (session : Session) (event : Event) : Session :=
  { session with
    notices := session.notices ++ [⟨event, session.mirror.suites, session.observers⟩] }

def withoutNotices (session : Session) : Session := { session with notices := [] }

/-! ## Tasks -/

def enter (session : Session) (task : Task) : Session × TaskId :=
  let (queue, id) := session.queue.enter task
  ({ session with queue }, id)

/-- Make a task and queue it, and do not mind if it is rejected. -/
def follow (session : Session) (task : Task) : Session :=
  { session with queue := (session.queue.add task).1 }

def advance (session : Session) (id : TaskId) (next : Progress) : Session :=
  { session with queue := session.queue.advance id next }

/-- Hand out what is to be done, and the next task if the queue has one. -/
def takeStep (session : Session) : Session × SessionStep :=
  let (queue, next) := session.queue.next
  let commands := session.commands ++ (next.map SessionCommand.dispatch).toList
  ({ session with queue, commands := [] }, ⟨commands, !session.deleted⟩)

/-! ## Timer and activity -/

def stopTimer (session : Session) : Session :=
  if session.timerRunning then
    { session with
      commands := session.commands ++ [.stopTimer]
      timerRunning := false }
  else session

/-- Start the timer anew, unless nothing may be sent any more. -/
def restartTimer (session : Session) : Session :=
  if session.contact = .disconnected || session.shuttingDown then session
  else match session.options.refreshInterval with
    | some period =>
        { session with
          commands := session.commands ++ [.startTimer period]
          timerRunning := true }
    | none => session.stopTimer

def setActivity (session : Session) (activity : Activity) : Session :=
  { session with activity }.announce (.activityChanged activity)

def setContact (session : Session) (contact : Contact) : Session :=
  { session with contact }.announce (.contactChanged contact)

/-! ## What is known -/

/-- Whether the definition at hand may be shown as the server's. -/
def isInformed (session : Session) : Bool :=
  session.contact = .normal && session.activity != .loading

/-- The state of the server, as far as it is known. -/
def serverState (session : Session) : RunState :=
  if session.isInformed then session.definition.server.state else .running

/-- The state of the nodes together, as far as it is known. -/
def nodeState (session : Session) : NodeState :=
  if session.isInformed then session.definition.state else .unknown

def suspended (session : Session) : Bool :=
  session.isInformed && session.definition.server.suspended

end Session

/-! ## Snapshots -/

structure Snapshot where
  name : String
  host : String
  port : String
  contact : Contact
  activity : Activity
  queueState : QueueState
  serverState : RunState
  nodeState : NodeState
  suspended : Bool
  mirroredSuites : List String
  mirroredNodes : Nat
  filter : SuiteFilter
  timerRunning : Bool
deriving DecidableEq

def Session.snapshot (session : Session) : Snapshot where
  name := session.options.name
  host := session.options.host
  port := session.options.port
  contact := session.contact
  activity := session.activity
  queueState := session.queue.state
  serverState := session.serverState
  nodeState := session.nodeState
  suspended := session.suspended
  mirroredSuites := session.mirror.suiteNames
  mirroredNodes := session.mirror.nodeCount
  filter := session.filter
  timerRunning := session.timerRunning

end FlowClient
