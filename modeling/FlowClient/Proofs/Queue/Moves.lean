import FlowClient.Proofs.Queue.Ledger

/-! What one input of a session may do to its queue. First come adjustments, which leave
alone what waits and what is in flight; then at most one task is submitted, or a reset
takes the queue over. Only dispatches, returns and disabling are not of this kind. Of the
tasks that there are already, only those are touched that a caller names. -/

namespace FlowClient.Queue

/-! ## Moves -/

/-- Changes that leave alone what waits and what is in flight. -/
inductive Adjusts (named : List TaskId) (queue : Queue) : Queue → Prop
  | done : Adjusts named queue queue
  | enter {middle} (task : Task) : Adjusts named queue middle →
      Adjusts named queue (middle.enter task).1
  | setParam {middle} {id : TaskId} (param : Param) (value : String) (member : id ∈ named) :
      Adjusts named queue middle →
      Adjusts named queue (middle.changeTask id (·.setParam param value))
  | advance {middle} {id : TaskId} (next : Progress) (member : id ∈ named) :
      Adjusts named queue middle → Adjusts named queue (middle.advance id next)
  | start {middle} : Adjusts named queue middle → Adjusts named queue middle.start
  | enable {middle} : Adjusts named queue middle → Adjusts named queue middle.enable

/-- The one thing that an input may do to what waits: a named task is queued, or one that is
made for it. -/
inductive Acts (named : List TaskId) (made : Task → Prop) (queue : Queue) : Queue → Prop
  | nothing : Acts named made queue queue
  | submit {id kind} (member : id ∈ named) (known : queue.kind? id = some kind)
      (routable : kind.isRoutable = true) : Acts named made queue (queue.submit id).1
  | add {task} (isMade : made task) (ordinary : task.kind ≠ .reset) :
      Acts named made queue (queue.add task).1
  | load {task} (isMade : made task) (kind : task.kind = .reset) (ended : queue.state ≠ .reset) :
      Acts named made queue ((queue.enter task).1.reset queue.ledger.size).1

/-- What an input may do to a queue that is neither disabled nor stepped. -/
def Moves (named : List TaskId) (made : Task → Prop) (before after : Queue) : Prop :=
  ∃ middle, before.Adjusts named middle ∧ middle.Acts named made after

variable {queue before middle after : Queue} {id other : TaskId} {kind : TaskKind}
  {named : List TaskId} {made : Task → Prop}

theorem Moves.none (queue : Queue) : queue.Moves named made queue := ⟨queue, .done, .nothing⟩

theorem Adjusts.moves (adjusts : before.Adjusts named after) : before.Moves named made after :=
  ⟨after, adjusts, .nothing⟩

theorem Adjusts.trans (first : before.Adjusts named middle) (second : middle.Adjusts named after) :
    before.Adjusts named after := by
  induction second with
  | done => exact first
  | enter task _ induction => exact induction.enter task
  | setParam param value member _ induction => exact induction.setParam param value member
  | advance next member _ induction => exact induction.advance next member
  | start _ induction => exact induction.start
  | enable _ induction => exact induction.enable

theorem Adjusts.andMoves (first : before.Adjusts named middle)
    (second : middle.Moves named made after) : before.Moves named made after := by
  rcases second with ⟨last, adjusts, acts⟩
  exact ⟨last, first.trans adjusts, acts⟩

/-- Queueing goes on after a start, whether or not it was suspended for a while. -/
@[simp] theorem start_suspend (queue : Queue) : queue.suspend.start = queue.start := by
  rcases queue with ⟨ledger, mode, resetting, pending, inFlight⟩
  cases mode <;> rfl

/-- A reset takes the queue over, whether or not it was suspended before. -/
theorem load_suspend (queue : Queue) (task : Task) :
    ((queue.suspend.enter task).1.reset queue.suspend.ledger.size).1 =
      ((queue.enter task).1.reset queue.ledger.size).1 := by
  cases mode : queue.mode <;> simp [suspend, enter, reset, abortPending, mode]

theorem ne_reset_of_isRoutable (routable : kind.isRoutable = true) : kind ≠ .reset := by
  rintro rfl
  cases routable

/-! ## Kinds -/

theorem kind?_eq_some (known : queue.kind? id = some kind) :
    ∃ task, queue.ledger.get? id = some task ∧ task.kind = kind := by
  simpa [kind?, task?] using known

theorem kind?_extends (extended : before.ledger.Extends after.ledger)
    (known : before.kind? id = some kind) : after.kind? id = some kind := by
  rcases kind?_eq_some known with ⟨task, taskKnown, taskKind⟩
  rcases extended id task taskKnown with ⟨later, laterKnown, becomes⟩
  simp [kind?, task?, laterKnown, becomes.1, taskKind]

theorem kind?_unique (extended : before.ledger.Extends after.ledger) {later : TaskKind}
    (known : ∃ kind, before.kind? id = some kind) (laterKnown : after.kind? id = some later) :
    before.kind? id = some later := by
  rcases known with ⟨kind, known⟩
  have same := (kind?_extends extended known).symm.trans laterKnown
  rw [known, same]

@[simp] theorem kind?_enter_new (queue : Queue) (task : Task) :
    (queue.enter task).1.kind? (queue.enter task).2 = some task.kind := by
  simp [kind?, task?, enter]

/-! ## States -/

theorem state_eq_reset : queue.state = .reset ↔
    queue.mode ≠ .disabled ∧ queue.resetting.isSome = true := by
  cases mode : queue.mode <;> cases current : queue.resetting <;>
    cases flying : queue.inFlight <;> simp [state, mode, current, flying]

/-! ## The ledger -/

theorem extends_submit (queue : Queue) (id : TaskId) :
    queue.ledger.Extends (queue.submit id).1.ledger := by
  rw [submit]
  split
  · exact queue.ledger.extends_advance id _
  · exact .rfl

theorem extends_reset (queue : Queue) (id : TaskId) :
    queue.ledger.Extends (queue.reset id).1.ledger := by
  rw [reset]
  split
  · exact queue.ledger.extends_advance id _
  · exact queue.ledger.extends_advanceAll queue.pending _

@[simp] theorem complete_frame (queue : Queue) (id : TaskId) :
    (queue.complete id).1.ledger = queue.ledger ∧ (queue.complete id).1.pending = queue.pending := by
  rw [complete]
  split <;> exact ⟨rfl, rfl⟩

theorem resetting_completed (queue : Queue) (id : TaskId) :
    (queue.complete id).1.resetting = queue.resetting ∨
      (queue.complete id).1.resetting = none := by
  rw [complete]
  split
  · by_cases through : queue.resetting = some id <;> simp [through]
  · exact .inl rfl

@[simp] theorem suspend_frame (queue : Queue) :
    queue.suspend.ledger = queue.ledger ∧ queue.suspend.pending = queue.pending ∧
      queue.suspend.inFlight = queue.inFlight ∧ queue.suspend.resetting = queue.resetting := by
  rw [suspend]
  split <;> simp

@[simp] theorem start_frame (queue : Queue) :
    queue.start.ledger = queue.ledger ∧ queue.start.pending = queue.pending ∧
      queue.start.inFlight = queue.inFlight ∧ queue.start.resetting = queue.resetting := by
  rw [start]
  split <;> simp

@[simp] theorem enable_frame (queue : Queue) :
    queue.enable.ledger = queue.ledger ∧ queue.enable.pending = queue.pending ∧
      queue.enable.inFlight = queue.inFlight ∧ queue.enable.resetting = queue.resetting := by
  rw [enable]
  split <;> simp

@[simp] theorem submit_frame (queue : Queue) (id : TaskId) :
    (queue.submit id).1.mode = queue.mode ∧ (queue.submit id).1.inFlight = queue.inFlight ∧
      (queue.submit id).1.resetting = queue.resetting := by
  rw [submit]
  split <;> simp [advance]

@[simp] theorem add_frame (queue : Queue) (task : Task) :
    (queue.add task).1.mode = queue.mode ∧ (queue.add task).1.inFlight = queue.inFlight ∧
      (queue.add task).1.resetting = queue.resetting := by
  simp [add, enter]

theorem reset_frame (queue : Queue) (id : TaskId) (enabled : queue.mode ≠ .disabled) :
    (queue.reset id).1.mode = .running ∧ (queue.reset id).1.pending = [id] ∧
      (queue.reset id).1.inFlight = queue.inFlight ∧
      (queue.reset id).1.resetting = some id := by
  simp [reset, enabled, abortPending]

@[simp] theorem disable_frame (queue : Queue) :
    queue.disable.ledger = (queue.abortPending disabledReason).ledger ∧
      queue.disable.pending = [] ∧ queue.disable.inFlight = queue.inFlight := by
  simp only [disable]
  split <;> exact ⟨rfl, rfl, rfl⟩

theorem resetting_disable (queue : Queue) :
    queue.disable.resetting = queue.resetting ∨ queue.disable.resetting = none := by
  simp only [disable]
  split
  · exact .inl rfl
  · exact .inr rfl

/-- A step of the queue neither opens nor closes it, and ends no reset. -/
theorem next_frame (queue : Queue) :
    queue.next.1.mode = queue.mode ∧ queue.next.1.resetting = queue.resetting := by
  rw [next]
  split
  · split <;> exact ⟨rfl, rfl⟩
  · exact ⟨rfl, rfl⟩

theorem extends_disable (queue : Queue) : queue.ledger.Extends queue.disable.ledger := by
  rw [queue.disable_frame.1]
  exact queue.ledger.extends_advanceAll queue.pending (.aborted disabledReason)

theorem Adjusts.extends (adjusts : before.Adjusts named after) :
    before.ledger.Extends after.ledger := by
  induction adjusts with
  | done => exact .rfl
  | enter task _ induction => exact induction.trans (Ledger.extends_add _ task)
  | setParam param value member _ induction =>
      exact induction.trans (Ledger.extends_change _ _ fun task => task.becomes_setParam _ _)
  | advance next member _ induction => exact induction.trans (Ledger.extends_advance _ _ next)
  | start _ induction => simpa using induction
  | enable _ induction => simpa using induction

theorem extends_enter (queue : Queue) (task : Task) :
    queue.ledger.Extends (queue.enter task).1.ledger := queue.ledger.extends_add task

theorem Acts.extends (acts : before.Acts named made after) :
    before.ledger.Extends after.ledger := by
  cases acts with
  | nothing => exact .rfl
  | submit => exact before.extends_submit _
  | @add task => exact (before.extends_enter task).trans (extends_submit _ _)
  | @load task => exact (before.extends_enter task).trans (extends_reset _ _)

theorem Moves.extends (moves : before.Moves named made after) :
    before.ledger.Extends after.ledger := by
  rcases moves with ⟨middle, adjusts, acts⟩
  exact adjusts.extends.trans acts.extends

/-! ## What is in flight -/

theorem Adjusts.keeps (adjusts : before.Adjusts named after) :
    after.pending = before.pending ∧ after.inFlight = before.inFlight ∧
      after.resetting = before.resetting := by
  induction adjusts with
  | done => exact ⟨rfl, rfl, rfl⟩
  | enter _ _ induction => exact induction
  | setParam _ _ _ _ induction => exact induction
  | advance _ _ _ induction => exact induction
  | start _ induction => simpa using induction
  | enable _ induction => simpa using induction

theorem inFlight_reset (queue : Queue) (id : TaskId) :
    (queue.reset id).1.inFlight = queue.inFlight := by
  rw [reset]
  split <;> rfl

/-- A move neither dispatches a task nor takes one back. -/
theorem Moves.inFlight (moves : before.Moves named made after) :
    after.inFlight = before.inFlight := by
  rcases moves with ⟨middle, adjusts, acts⟩
  rw [← adjusts.keeps.2.1]
  cases acts with
  | nothing => rfl
  | submit => exact (middle.submit_frame _).2.1
  | @add task => exact (middle.add_frame task).2.1
  | load => exact inFlight_reset _ _

end FlowClient.Queue
