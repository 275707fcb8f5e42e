import FlowClient.Task

/-! The worker of a live session. It alone talks to the server: one request at a
time, in the order in which it is told, with changes of the credential between
the requests. -/

namespace FlowClient

inductive WorkerMessage where
  | run (id : TaskId)
  | setCredential (credential : Credential)
deriving DecidableEq, Repr

inductive ConnectionAction where
  /-- Send a request. Nothing else is done until its outcome is there. -/
  | send (request : Request)
  | setCredential (credential : Credential)
  | release
deriving DecidableEq, Repr

structure Worker where
  mailbox : List WorkerMessage := []
  /-- Whether more messages may come. -/
  isOpen : Bool := true
  busy : Option TaskId := none
  /-- What came of the tasks, until the session takes it. -/
  completions : List (TaskId × Outcome) := []
  isHeard : Bool := true
  running : Bool := true
  actions : List ConnectionAction := []

namespace Worker

def capacity : Nat := 8

def hasRoom (worker : Worker) : Bool := worker.mailbox.length < capacity

def tell (worker : Worker) (message : WorkerMessage) : Worker :=
  { worker with mailbox := worker.mailbox ++ [message] }

/-- Let no more messages come. -/
def close (worker : Worker) : Worker := { worker with isOpen := false }

def perform (worker : Worker) (action : ConnectionAction) : Worker :=
  { worker with actions := worker.actions ++ [action] }

/-- Give the connection up and end. What is left in the mailbox is lost. -/
def stop (worker : Worker) : Worker :=
  { worker with mailbox := [], busy := none, running := false }.perform .release

/-- Let no more messages come, and nobody take what comes of the tasks. -/
def desert (worker : Worker) : Worker :=
  { worker with isOpen := false, isHeard := false, completions := [] }

/-- Hand on what came of a task. A worker that is not heard any more stops. -/
def report (worker : Worker) (id : TaskId) (outcome : Outcome) : Worker :=
  if worker.isHeard then
    { worker with completions := worker.completions ++ [(id, outcome)] }
  else worker.stop

/-- Take up the next message, if no request is out. A task without a request
comes back at once. When no message is left and none may come, the worker stops. -/
def step? (worker : Worker) (ledger : Ledger) : Option Worker :=
  if worker.busy.isSome || !worker.running then none
  else match worker.mailbox with
    | .run id :: rest =>
        let worker := { worker with mailbox := rest }
        match (ledger.get? id).map Task.request with
        | some (.ok request) => some ({ worker with busy := some id }.perform (.send request))
        | some (.error failure) => some (worker.report id (.error failure))
        | none => some worker
    | .setCredential credential :: rest =>
        some ({ worker with mailbox := rest }.perform (.setCredential credential))
    | [] =>
        if worker.isOpen then none
        else some worker.stop

def finish (worker : Worker) (outcome : Outcome) : Worker :=
  match worker.busy with
  | some id => { worker with busy := none }.report id outcome
  | none => worker

def withoutActions (worker : Worker) : Worker := { worker with actions := [] }

end Worker

end FlowClient
