import FlowClient.Task

/-! The queue: one server is given one task at a time, in the order in which they
were accepted. A reset goes before everything: it discards what waits and keeps
out what comes, until it is through. -/

namespace FlowClient

inductive QueueMode where
  | running
  | suspended
  | disabled
deriving DecidableEq, Repr

inductive QueueState where
  | idle
  | dispatching
  | reset
  | suspended
  | disabled
deriving DecidableEq, Repr

def QueueState.title : QueueState → String
  | idle => "Idle"
  | dispatching => "Dispatching"
  | reset => "ResetState"
  | suspended => "Suspended"
  | disabled => "Disabled"

/-- A queue and the tasks made for it. A new queue is suspended until its first
reset. -/
structure Queue where
  ledger : Ledger := {}
  mode : QueueMode := .suspended
  /-- The reset that is not through yet. -/
  resetting : Option TaskId := none
  pending : List TaskId := []
  inFlight : Option TaskId := none

instance : Inhabited Queue := ⟨{}⟩

namespace Queue

/-! ## Reasons -/

def disabledReason : String := "queue disabled"
def resettingReason : String := "reset in progress"
def discardedReason : String := "discarded by reset"

/-! ## Looking -/

def state (queue : Queue) : QueueState :=
  match queue.mode with
  | .disabled => .disabled
  | .suspended => if queue.resetting.isSome then .reset else .suspended
  | .running =>
      if queue.resetting.isSome then .reset
      else if queue.inFlight.isSome then .dispatching
      else .idle

def isResetting (queue : Queue) : Bool := queue.resetting.isSome

def task? (queue : Queue) (id : TaskId) : Option Task := queue.ledger.get? id

def kind? (queue : Queue) (id : TaskId) : Option TaskKind := (queue.task? id).map (·.kind)

/-! ## Tasks -/

/-- Enter a task in the ledger, without queueing it. -/
def enter (queue : Queue) (task : Task) : Queue × TaskId :=
  ({ queue with ledger := queue.ledger.add task }, queue.ledger.size)

def changeTask (queue : Queue) (id : TaskId) (change : Task → Task) : Queue :=
  { queue with ledger := queue.ledger.change id change }

def advance (queue : Queue) (id : TaskId) (next : Progress) : Queue :=
  { queue with ledger := queue.ledger.advance id next }

/-! ## Queueing -/

/-- Why a task is not accepted now. -/
def refusal? (queue : Queue) (id : TaskId) : Option String :=
  if queue.mode = .disabled then some disabledReason
  else if queue.isResetting && !(queue.kind? id).any TaskKind.isReset then some resettingReason
  else none

/-- Queue a task, or reject it. -/
def submit (queue : Queue) (id : TaskId) : Queue × Bool :=
  match queue.refusal? id with
  | some reason => (queue.advance id (.rejected reason), false)
  | none => ({ queue with pending := queue.pending ++ [id] }, true)

/-- Make a task and queue it. -/
def add (queue : Queue) (task : Task) : Queue × Option TaskId :=
  let (queue, id) := queue.enter task
  let (queue, accepted) := queue.submit id
  (queue, if accepted then some id else none)

def abortPending (queue : Queue) (reason : String) : Queue :=
  { queue with
    ledger := queue.ledger.advanceAll queue.pending (.aborted reason)
    pending := [] }

/-! ## Modes -/

def suspend (queue : Queue) : Queue :=
  if queue.mode = .running then { queue with mode := .suspended } else queue

def start (queue : Queue) : Queue :=
  if queue.mode = .suspended then { queue with mode := .running } else queue

def enable (queue : Queue) : Queue :=
  if queue.mode = .disabled then { queue with mode := .running } else queue

/-- Accept nothing more and abort what waits. A reset that is in flight is still
to come back; one that waited is gone. -/
def disable (queue : Queue) : Queue :=
  let queue := { queue with mode := .disabled }.abortPending disabledReason
  if queue.resetting.isSome && queue.inFlight == queue.resetting then queue
  else { queue with resetting := none }

/-- Discard what waits and let the given task alone go next. -/
def reset (queue : Queue) (id : TaskId) : Queue × Bool :=
  if queue.mode = .disabled then (queue.advance id (.rejected disabledReason), false)
  else
    let queue := queue.abortPending discardedReason
    ({ queue with mode := .running, resetting := some id, pending := [id] }, true)

/-! ## Dispatch -/

/-- Hand out the next task, if it is time for one. Tasks that came to an end
while they waited are passed over. -/
def next (queue : Queue) : Queue × Option TaskId :=
  if queue.mode = .running && queue.inFlight.isNone then
    match queue.pending.dropWhile queue.ledger.isTerminal with
    | [] => ({ queue with pending := [] }, none)
    | id :: rest =>
        ({ queue.advance id .submitted with pending := rest, inFlight := some id }, some id)
  else (queue, none)

/-- Take a task back. Only the task in flight can come back. -/
def complete (queue : Queue) (id : TaskId) : Queue × Bool :=
  if queue.inFlight = some id then
    ({ queue with
        inFlight := none
        resetting := if queue.resetting = some id then none else queue.resetting }, true)
  else (queue, false)

/-! ## Small facts -/

@[simp] theorem state_new : ({} : Queue).state = .suspended := rfl

theorem next_none_of_inFlight {queue : Queue} {id : TaskId}
    (busy : queue.inFlight = some id) : queue.next = (queue, none) := by
  simp [next, busy]

@[simp] theorem pending_abortPending (queue : Queue) (reason : String) :
    (queue.abortPending reason).pending = [] := rfl

@[simp] theorem mode_disable (queue : Queue) : queue.disable.mode = .disabled := by
  unfold disable
  simp only
  split <;> rfl

end Queue

end FlowClient
