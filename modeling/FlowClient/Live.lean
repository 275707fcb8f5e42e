import FlowClient.ClientError
import FlowClient.Live.Worker
import FlowClient.Session.Completion

/-! A session that runs. Callers leave their calls in its mailbox, its worker
brings back the outcomes of requests, and its timer ticks. It takes one of these
at a time and then carries out what the session asks for. Which of several
inputs comes first is not laid down here: each step says only when it can be
taken. -/

namespace FlowClient

/-! ## Calls -/

inductive Call where
  | runCommand (args : List String)
  | run (id : TaskId)
  | refresh
  | reset
  | connect
  | disconnect
  | updateFilter (filter : SuiteFilter)
  | subscribe
  | unsubscribe (id : ObserverId)
  | setCredential (credential : Credential)
  | snapshot
  | shutdown
deriving DecidableEq

inductive CallAnswer where
  | command (id : Option TaskId)
  | subscription (id : ObserverId)
  | snapshot (snapshot : Snapshot)
deriving DecidableEq

abbrev Ticket := Nat

/-! ## Live sessions -/

/-- What a live session is about. -/
inductive Phase where
  | waiting
  /-- It waits until its worker has room for a task; the rest of the commands
  follows after. -/
  | handing (id : TaskId) (rest : List SessionCommand) (keepRunning again : Bool)
  | stopping
  | ended
  /-- It could not go on, and nothing was done in good order. -/
  | broken
deriving DecidableEq, Repr

structure Timer where
  period : Nat
  deadline : Nat
deriving DecidableEq, Repr

/-- Where the clock ends, so that no timer can be due then: 2 to the 63 seconds. -/
def clockEnd : Nat := 1000 <<< 63

/-- A timer that ticks for the first time after a period. It needs a period that is
not nothing, and its first tick has to come before the clock ends. -/
def Timer.start? (now period : Nat) : Option Timer :=
  if period = 0 || clockEnd ≤ now + period then none else some ⟨period, now + period⟩

/-- How late a tick may be without the next one being put off. -/
def Timer.tolerance : Nat := 5

def Timer.tick (timer : Timer) (now : Nat) : Timer :=
  { timer with
    deadline := (if timer.deadline + tolerance < now then now else timer.deadline) +
      timer.period }

structure LiveSession where
  session : Session
  serial : Nat := 0
  mailbox : List (Ticket × Call) := []
  calls : Nat := 0
  answers : List (Ticket × CallAnswer) := []
  hasCallers : Bool := true
  /-- Whether calls are still taken from the mailbox. -/
  isListening : Bool := true
  worker : Worker := {}
  timer : Option Timer := none
  phase : Phase := .waiting

def settlingSteps : Nat := 100000

namespace LiveSession

def name (live : LiveSession) : String := live.session.name

def capacity : Nat := 64

def isBroken (live : LiveSession) : Bool := live.phase == .broken

def isEnded (live : LiveSession) : Bool := live.phase == .ended || live.isBroken

/-- The session cannot go on. The calls that wait are lost, and its worker is left
alone. -/
def breakDown (live : LiveSession) : LiveSession :=
  { live with phase := .broken, mailbox := [], timer := none, worker := live.worker.desert }

/-! ## Commands -/

/-- What a task comes to that cannot be handed to the worker. -/
def workerGone : Outcome := .error ⟨.protocol, "dispatch worker stopped"⟩

/-- Carry out commands. `again` says whether the session was told something
meanwhile, so that it has to be asked again. A timer that cannot be started breaks
the session down. -/
def carryOut (now : Nat) (keepRunning : Bool) :
    List SessionCommand → Bool → LiveSession → LiveSession × Option Bool
  | [], again, live => (live, some again)
  | .startTimer period :: rest, again, live =>
      match Timer.start? now period with
      | some timer => carryOut now keepRunning rest again { live with timer := some timer }
      | none => (live.breakDown, none)
  | .stopTimer :: rest, again, live =>
      carryOut now keepRunning rest again { live with timer := none }
  | .dispatch id :: rest, again, live =>
      if !live.worker.running then
        carryOut now keepRunning rest true
          { live with session := live.session.taskCompleted id workerGone }
      else if live.worker.hasRoom then
        carryOut now keepRunning rest again { live with worker := live.worker.tell (.run id) }
      else ({ live with phase := .handing id rest keepRunning again }, none)

def afterRound (keepRunning again : Bool) (live : LiveSession) : LiveSession × Bool :=
  if !keepRunning then ({ live with phase := .stopping, worker := live.worker.close }, false)
  else ({ live with phase := .waiting }, again)

/-- Carry out what the session asks for, in at most `rounds` rounds. -/
def driveFor (now : Nat) : Nat → LiveSession → LiveSession
  | 0, live => live
  | rounds + 1, live =>
      let (session, step) := live.session.takeStep
      match carryOut now step.keepRunning step.commands false { live with session } with
      | (live, none) => live
      | (live, some again) =>
          match afterRound step.keepRunning again live with
          | (live, true) => driveFor now rounds live
          | (live, false) => live

/-- Carry out what the session asks for. Each round but the last takes a task
that was waiting, so there are no more rounds than those and one. -/
def drive (now : Nat) (live : LiveSession) : LiveSession :=
  driveFor now (live.session.queue.pending.length + 1) live

/-- Go on with a round once the worker has room. -/
def resume? (now : Nat) (live : LiveSession) : Option LiveSession :=
  match live.phase with
  | .handing id rest keepRunning again =>
      if live.worker.running && !live.worker.hasRoom then none
      else match carryOut now keepRunning (.dispatch id :: rest) again live with
        | (live, none) => some live
        | (live, some again) =>
            match afterRound keepRunning again live with
            | (live, true) => some (live.drive now)
            | (live, false) => some live
  | _ => none

/-- A live session loads the definition first of all. -/
def start (options : SessionOptions) (now : Nat) : LiveSession :=
  drive now { session := (Session.new options).reset }

/-! ## Calling -/

def enter (live : LiveSession) (task : Task) : LiveSession × TaskId :=
  let (session, id) := live.session.enter task
  ({ live with session }, id)

/-- Leave a call in the mailbox. There has to be room for it, and a session that
has ended takes none. -/
def call? (live : LiveSession) (call : Call) : Option (LiveSession × Ticket) :=
  if live.isEnded || capacity ≤ live.mailbox.length then none
  else some ({ live with
    mailbox := live.mailbox ++ [(live.calls, call)]
    calls := live.calls + 1 }, live.calls)

def answer? (live : LiveSession) (ticket : Ticket) : Option CallAnswer :=
  (live.answers.find? (·.1 == ticket)).map (·.2)

def dropCallers (live : LiveSession) : LiveSession := { live with hasCallers := false }

def reply (live : LiveSession) (ticket : Ticket) (answer : CallAnswer) : LiveSession :=
  { live with answers := live.answers ++ [(ticket, answer)] }

/-- Pass a credential on to the worker, or drop it if the worker has no room. -/
def forwardCredential (live : LiveSession) (credential : Credential) : LiveSession :=
  if live.worker.running && live.worker.hasRoom then
    { live with worker := live.worker.tell (.setCredential credential) }
  else live

/-- Do what a call asks. -/
def handle (live : LiveSession) (ticket : Ticket) : Call → LiveSession
  | .runCommand args =>
      let (session, id) := live.session.runCommand args
      { live with session }.reply ticket (.command id)
  | .run id => { live with session := live.session.run id }
  | .refresh => { live with session := live.session.refresh }
  | .reset => { live with session := live.session.reset }
  | .connect => { live with session := live.session.connect }
  | .disconnect => { live with session := live.session.disconnect }
  | .updateFilter filter => { live with session := live.session.updateFilter filter }
  | .subscribe =>
      let (session, id) := live.session.subscribe
      { live with session }.reply ticket (.subscription id)
  | .unsubscribe id => { live with session := (live.session.unsubscribe id).1 }
  | .setCredential credential => live.forwardCredential credential
  | .snapshot => live.reply ticket (.snapshot live.session.snapshot)
  | .shutdown => { live with session := live.session.shutdown }

/-! ## Steps -/

/-- Take the next call. When there is none and nobody is left to call, the
session is shut down. -/
def receive? (now : Nat) (live : LiveSession) : Option LiveSession :=
  if live.phase == .waiting && live.isListening then
    match live.mailbox with
    | (ticket, call) :: rest =>
        some (({ live with mailbox := rest }.handle ticket call).drive now)
    | [] =>
        if live.hasCallers then none
        else
          let session := live.session.shutdown
          some ({ live with session, isListening := false }.drive now)
  else none

def complete? (now : Nat) (live : LiveSession) : Option LiveSession :=
  if live.phase == .waiting then
    match live.worker.completions with
    | (id, outcome) :: rest =>
        let worker := { live.worker with completions := rest }
        let session := live.session.taskCompleted id outcome
        some ({ live with worker, session }.drive now)
    | [] => none
  else none

def tick? (now : Nat) (live : LiveSession) : Option LiveSession :=
  match live.phase, live.timer with
  | .waiting, some timer =>
      if timer.deadline ≤ now then
        let session := live.session.tick
        some ({ live with session, timer := some (timer.tick now) }.drive now)
      else none
  | _, _ => none

def work? (live : LiveSession) : Option LiveSession :=
  (live.worker.step? live.session.queue.ledger).map fun worker => { live with worker }

/-- End once the worker has ended. The calls that still wait are lost. -/
def stop? (live : LiveSession) : Option LiveSession :=
  if live.phase == .stopping && !live.worker.running then
    some { live with phase := .ended, mailbox := [] }
  else none

/-- One thing that the session or its worker can do now. -/
def step? (now : Nat) (live : LiveSession) : Option LiveSession :=
  live.resume? now <|> live.stop? <|> live.work? <|> live.complete? now <|>
    live.receive? now <|> live.tick? now

/-- Let the session do what it can, but no more than a given number of things. -/
def settleFor (now : Nat) : Nat → LiveSession → LiveSession
  | 0, live => live
  | steps + 1, live =>
      match live.step? now with
      | some next => settleFor now steps next
      | none => live

def settle (now : Nat) (live : LiveSession) : LiveSession := settleFor now settlingSteps live

/-- When the timer ticks next, unless it does not any more. -/
def deadline? (live : LiveSession) : Option Nat :=
  if live.isEnded then none else live.timer.map (·.deadline)

def finish (live : LiveSession) (outcome : Outcome) : LiveSession :=
  { live with worker := live.worker.finish outcome }

end LiveSession
end FlowClient
