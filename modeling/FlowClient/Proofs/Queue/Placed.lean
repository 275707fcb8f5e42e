import FlowClient.Proofs.Queue.Waiting

/-! Where a task of a queue is: it waits, or is in flight, or has come to its end. What the
queue does never drops a task that is in one of these places, and what it makes is put
into one of them at once. -/

namespace FlowClient.Queue

variable {queue before middle after : Queue} {id : TaskId} {named : List TaskId}
  {made : Task → Prop}

/-! ## Places -/

def Placed (queue : Queue) (id : TaskId) : Prop :=
  queue.ledger.isTerminal id = true ∨ queue.inFlight = some id ∨ id ∈ queue.pending

/-- From `before` to `after` no task is dropped, and none is made that is not placed. -/
structure Places (before after : Queue) : Prop where
  old : ∀ id, before.Placed id → after.Placed id
  new : ∀ id, before.ledger.size ≤ id → id < after.ledger.size → after.Placed id

theorem Places.rfl : queue.Places queue :=
  ⟨fun _ placed => placed, fun _ old young => absurd young (Nat.not_lt.mpr old)⟩

theorem Places.trans (first : before.Places middle) (second : middle.Places after) :
    before.Places after where
  old := fun id placed => second.old id (first.old id placed)
  new := by
    intro id old young
    by_cases known : id < middle.ledger.size
    · exact second.old id (first.new id old known)
    · exact second.new id (Nat.le_of_not_lt known) young

/-- Nothing is made, nothing comes back, and all that leaves has come to its end. -/
theorem places_of_kept (extended : before.ledger.Extends after.ledger)
    (size : after.ledger.size = before.ledger.size) (inFlight : after.inFlight = before.inFlight)
    (pending : ∀ id ∈ before.pending, after.ledger.isTerminal id = true ∨ id ∈ after.pending) :
    before.Places after where
  old := by
    rintro id (ended | flying | waits)
    · exact .inl (extended.isTerminal ended)
    · exact .inr (.inl (inFlight.trans flying))
    · exact (pending id waits).imp_right .inr
  new := fun _ old young => absurd (size ▸ young) (Nat.not_lt.mpr old)

theorem size_advance (queue : Queue) (id : TaskId) (next : Progress) :
    (queue.advance id next).ledger.size = queue.ledger.size := by
  simp [advance, Ledger.advance]

theorem places_advance (queue : Queue) (id : TaskId) (next : Progress) :
    queue.Places (queue.advance id next) :=
  places_of_kept (queue.ledger.extends_advance id next) (queue.size_advance id next) (by rfl)
    fun _ waits => .inr waits

theorem places_setParam (queue : Queue) (id : TaskId) (param : Param) (value : String) :
    queue.Places (queue.changeTask id (·.setParam param value)) :=
  places_of_kept (queue.ledger.extends_change id fun task => task.becomes_setParam param value)
    (by simp [changeTask]) (by rfl) fun _ waits => .inr waits

theorem places_start (queue : Queue) : queue.Places queue.start :=
  places_of_kept (by simpa using .rfl) (by simp) (by simp) fun _ waits => .inr (by simpa using waits)

theorem places_enable (queue : Queue) : queue.Places queue.enable :=
  places_of_kept (by simpa using .rfl) (by simp) (by simp) fun _ waits => .inr (by simpa using waits)

/-! ## Tasks that are handed in -/

theorem size_submit (queue : Queue) (id : TaskId) :
    (queue.submit id).1.ledger.size = queue.ledger.size := by
  rw [submit]
  split
  · exact queue.size_advance id _
  · rfl

theorem places_submit (queue : Queue) (id : TaskId) : queue.Places (queue.submit id).1 := by
  rw [submit]
  split
  · exact queue.places_advance id _
  · exact places_of_kept .rfl (by rfl) (by rfl) fun _ waits => .inr (List.mem_append_left _ waits)

/-- A task that is handed in waits, or is rejected. -/
theorem placed_submit {task : Task} (known : queue.ledger.get? id = some task) :
    (queue.submit id).1.Placed id := by
  rw [submit]
  split
  · exact .inl (Ledger.isTerminal_advance known rfl)
  · exact .inr (.inr (by simp))

theorem size_enter (queue : Queue) (task : Task) :
    (queue.enter task).1.ledger.size = queue.ledger.size + 1 := by
  simp [enter, Ledger.add, Ledger.size]

theorem placed_enter (task : Task) (placed : queue.Placed id) :
    (queue.enter task).1.Placed id :=
  placed.imp_left (queue.extends_enter task).isTerminal

/-- One task is made, and placed at last. -/
theorem places_of_entered (task : Task) (size : after.ledger.size = queue.ledger.size + 1)
    (old : ∀ id, (queue.enter task).1.Placed id → after.Placed id)
    (new : after.Placed queue.ledger.size) : queue.Places after where
  old := fun id placed => old id (placed_enter task placed)
  new := by
    intro id old young
    have same : id = queue.ledger.size := by omega
    exact same ▸ new

theorem places_add (queue : Queue) (task : Task) : queue.Places (queue.add task).1 :=
  places_of_entered task
    ((size_submit (queue.enter task).1 queue.ledger.size).trans (queue.size_enter task))
    (places_submit (queue.enter task).1 queue.ledger.size).old
    (placed_submit (queue.ledger.get?_add_new task))

theorem size_abortPending (queue : Queue) (reason : String) :
    (queue.abortPending reason).ledger.size = queue.ledger.size := by
  simp only [abortPending]
  generalize queue.pending = ids
  induction ids generalizing queue with
  | nil => rfl
  | cons id ids induction =>
      exact (induction (queue.advance id (.aborted reason))).trans (queue.size_advance id _)

/-- A reset is loaded: all that waited comes to its end, and the reset waits. -/
theorem places_load (sound : queue.Sound) (task : Task) :
    queue.Places ((queue.enter task).1.reset queue.ledger.size).1 := by
  have known := queue.ledger.get?_add_new task
  rw [reset]
  split
  · exact places_of_entered task ((size_advance _ _ _).trans (queue.size_enter task))
      (places_advance _ _ _).old (.inl (Ledger.isTerminal_advance known rfl))
  · refine places_of_entered task ((size_abortPending _ _).trans (queue.size_enter task)) ?_
      (.inr (.inr (by simp)))
    rintro id (ended | flying | waits)
    · exact .inl ((Ledger.extends_advanceAll _ _ _).isTerminal ended)
    · exact .inr (.inl flying)
    · exact .inl (isTerminal_abortPending (sound.enter task).pending_known _ waits)

/-! ## Tasks that leave -/

theorem extends_next (queue : Queue) : queue.ledger.Extends queue.next.1.ledger := by
  have steps := queue.steps_next
  generalize queue.next = step at steps
  cases steps with
  | waits => exact .rfl
  | clears => exact .rfl
  | dispatches => exact queue.ledger.extends_advance _ _

theorem places_disable (sound : queue.Sound) : queue.Places queue.disable :=
  places_of_kept queue.extends_disable
    (by rw [queue.disable_frame.1, size_abortPending]) queue.disable_frame.2.2
    fun id waits => .inl (sound.waiting_disable.2 id waits)

theorem places_next (queue : Queue) : queue.Places queue.next.1 := by
  have steps := queue.steps_next
  generalize queue.next = step at steps
  cases steps with
  | waits => exact .rfl
  | clears ended =>
      exact places_of_kept .rfl (by rfl) (by rfl) fun id waits => .inl (ended id waits)
  | @dispatches skipped id rest free pending ended ready =>
      have extended := queue.ledger.extends_advance id .submitted
      refine ⟨?_, fun other old young => ?_⟩
      · rintro other (done | flying | waits)
        · exact .inl (extended.isTerminal done)
        · simp [free] at flying
        · rw [pending, List.mem_append, List.mem_cons] at waits
          rcases waits with passed | same | waits
          · exact .inl (extended.isTerminal (ended other passed))
          · exact .inr (.inl (congrArg some same.symm))
          · exact .inr (.inr waits)
      · exact absurd young (Nat.not_lt.mpr ((queue.size_advance id .submitted).symm ▸ old))

/-- What comes back comes to its end. -/
theorem places_returned (sound : queue.Sound) (flying : queue.inFlight = some id)
    {ending : Progress} (terminal : ending.isTerminal = true) :
    queue.Places ((queue.complete id).1.advance id ending) := by
  rcases queue.complete_frame id with ⟨ledger, pending⟩
  have extended : queue.ledger.Extends ((queue.complete id).1.advance id ending).ledger := by
    rw [advance, ledger]
    exact queue.ledger.extends_advance id ending
  refine ⟨?_, fun other old young => ?_⟩
  · rintro other (done | here | waits)
    · exact .inl (extended.isTerminal done)
    · rcases sound.inFlight_known id flying with ⟨kind, known⟩
      rcases kind?_eq_some known with ⟨task, taskKnown, -⟩
      rw [flying] at here
      rw [← Option.some.inj here]
      exact .inl (Ledger.isTerminal_advance (ledger ▸ taskKnown) terminal)
    · exact .inr (.inr (pending ▸ waits))
  · rw [size_advance, ledger] at young
    exact absurd young (Nat.not_lt.mpr old)

/-! ## Modes -/

/-- A queue that is disabled has nothing that waits. -/
def Tidy (queue : Queue) : Prop := queue.mode = .disabled → queue.pending = []

theorem Adjusts.mode (adjusts : before.Adjusts named after) :
    after.mode = before.mode ∨ after.mode = .running := by
  induction adjusts with
  | done => exact .inl rfl
  | enter _ _ induction => exact induction
  | setParam _ _ _ _ induction => exact induction
  | advance _ _ _ induction => exact induction
  | @start middle _ induction =>
      rw [Queue.start]
      split
      · exact .inr rfl
      · exact induction
  | @enable middle _ induction =>
      rw [Queue.enable]
      split
      · exact .inr rfl
      · exact induction

theorem Acts.mode (acts : before.Acts named made after) :
    after.mode = before.mode ∨ after.mode = .running := by
  cases acts with
  | nothing => exact .inl rfl
  | submit => exact .inl (before.submit_frame _).1
  | @add task => exact .inl (before.add_frame task).1
  | @load task =>
      rw [reset]
      split
      · exact .inl rfl
      · exact .inr rfl

/-- A move neither suspends the queue nor disables it. -/
theorem Moves.mode (moves : before.Moves named made after) :
    after.mode = before.mode ∨ after.mode = .running := by
  rcases moves with ⟨middle, adjusts, acts⟩
  rcases acts.mode with same | running
  · exact same ▸ adjusts.mode
  · exact .inr running

theorem submit_of_disabled (disabled : queue.mode = .disabled) (id : TaskId) :
    (queue.submit id).1.pending = queue.pending := by
  simp [submit, refusal?, disabled, advance]

theorem Acts.pending_of_disabled (acts : before.Acts named made after)
    (disabled : before.mode = .disabled) : after.pending = before.pending := by
  cases acts with
  | nothing => rfl
  | submit => exact submit_of_disabled disabled _
  | @add task => exact submit_of_disabled (show (before.enter task).1.mode = .disabled from disabled) _
  | @load task =>
      rw [reset, if_pos (show (before.enter task).1.mode = .disabled from disabled)]
      rfl

theorem Tidy.move (tidy : before.Tidy) (moves : before.Moves named made after) : after.Tidy := by
  intro disabled
  have kept : before.mode = .disabled := by
    rcases moves.mode with same | running
    · exact same.symm.trans disabled
    · rw [disabled] at running
      cases running
  rcases moves with ⟨middle, adjusts, acts⟩
  have middleDisabled : middle.mode = .disabled := by
    rcases acts.mode with same | running
    · exact same.symm.trans disabled
    · rw [disabled] at running
      cases running
  rw [acts.pending_of_disabled middleDisabled, adjusts.keeps.1]
  exact tidy kept

/-- After a step of a queue that is not suspended, tasks wait only for the one in flight. -/
theorem isSome_inFlight_next (unsuspended : queue.mode ≠ .suspended) (tidy : queue.Tidy)
    (waits : id ∈ queue.next.1.pending) : queue.next.1.inFlight.isSome = true := by
  cases mode : queue.mode with
  | suspended => exact absurd mode unsuspended
  | disabled => simp [next, mode, tidy mode] at waits
  | running =>
      cases flying : queue.inFlight with
      | some other => simp [next, mode, flying]
      | none =>
          rw [next, if_pos (by simp [mode, flying])] at waits ⊢
          split
          · rename_i found
            simp [found] at waits
          · rfl

end FlowClient.Queue
