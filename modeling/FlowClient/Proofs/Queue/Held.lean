import FlowClient.Proofs.Queue.Waiting

/-! Tasks that callers hold, and tasks that they do not. A caller can touch a task only if it
holds it, and nobody holds a reset before it is dispatched. So a reset that waits cannot
come to its end there, and a queue that waits for a reset does not wait in vain. -/

namespace FlowClient

/-- Whether a task tells the server what the filter is. Callers cannot have such tasks queued. -/
def TaskKind.tells (kind : TaskKind) : Bool := kind == .reset || kind == .autoRegister

theorem TaskKind.tells_of_isRoutable {kind : TaskKind} (routable : kind.isRoutable = true) :
    kind.tells = false := by
  cases kind <;> first | rfl | cases routable

namespace Queue

variable {queue before after : Queue} {id : TaskId} {held named : List TaskId}
  {made : Task → Prop}

/-- What holds of a queue of which callers hold these tasks. -/
structure Tended (queue : Queue) (held : List TaskId) : Prop where
  held_known : ∀ id ∈ held, id < queue.ledger.size
  inFlight_held : ∀ id, queue.inFlight = some id → id ∈ held
  /-- What nobody holds waits once. -/
  once : ∀ id, id ∉ held → queue.pending.count id ≤ 1
  unended : ∀ id ∈ queue.pending, id ∉ held → queue.ledger.isTerminal id = false
  /-- Nobody holds what is to tell the server of the filter. -/
  unheld : ∀ id ∈ queue.pending, ∀ kind, queue.kind? id = some kind → kind.tells = true → id ∉ held
  present : ∀ id, queue.resetting = some id → id ∈ queue.pending ∨ queue.inFlight = some id
  running : ∀ id, queue.resetting = some id → id ∈ queue.pending → queue.mode = .running

theorem tended_new : ({} : Queue).Tended [] := by
  constructor <;> simp

/-! ## Adjustments -/

theorem Adjusts.get?_eq (adjusts : before.Adjusts named after) (known : id < before.ledger.size)
    (unnamed : id ∉ named) : after.ledger.get? id = before.ledger.get? id := by
  induction adjusts with
  | done => rfl
  | enter task adjusts induction =>
      have within := Nat.lt_of_lt_of_le known adjusts.extends.size_le
      exact (Ledger.get?_add_old _ task within).trans induction
  | setParam param value member _ induction =>
      have different : id ≠ _ := fun same => unnamed (same ▸ member)
      exact (Ledger.get?_change_other _ _ different).trans induction
  | advance next member _ induction =>
      have different : id ≠ _ := fun same => unnamed (same ▸ member)
      exact (Ledger.get?_advance_other next different).trans induction
  | start _ induction => simpa using induction
  | enable _ induction => simpa using induction

/-- A task that nobody names, and that does not wait, is left as it is. -/
theorem Acts.get?_eq (acts : before.Acts named made after) (known : id < before.ledger.size)
    (unnamed : id ∉ named) (aside : id ∉ before.pending) :
    after.ledger.get? id = before.ledger.get? id := by
  have submitted {queue : Queue} {other : TaskId} (different : id ≠ other) :
      (queue.submit other).1.ledger.get? id = queue.ledger.get? id := by
    rw [Queue.submit]
    split
    · exact Ledger.get?_advance_other _ different
    · rfl
  have older (task : Task) : (before.enter task).1.ledger.get? id = before.ledger.get? id :=
    Ledger.get?_add_old _ task known
  cases acts with
  | nothing => rfl
  | submit member kindKnown routable => exact submitted fun same => unnamed (same ▸ member)
  | @add task isMade ordinary => exact (submitted (Nat.ne_of_lt known)).trans (older task)
  | @load task isMade kind ended =>
      refine .trans ?_ (older task)
      rw [Queue.reset]
      split
      · exact Ledger.get?_advance_other _ (Nat.ne_of_lt known)
      · exact Ledger.get?_advanceAll_other _ aside

theorem Moves.get?_eq (moves : before.Moves named made after) (known : id < before.ledger.size)
    (unnamed : id ∉ named) (aside : id ∉ before.pending) :
    after.ledger.get? id = before.ledger.get? id := by
  rcases moves with ⟨middle, adjusts, acts⟩
  have within := Nat.lt_of_lt_of_le known adjusts.extends.size_le
  exact (acts.get?_eq within unnamed (adjusts.keeps.1 ▸ aside)).trans
    (adjusts.get?_eq known unnamed)

theorem Adjusts.running (adjusts : before.Adjusts named after) (running : before.mode = .running) :
    after.mode = .running := by
  induction adjusts with
  | done => exact running
  | enter _ _ induction => exact induction
  | setParam _ _ _ _ induction => exact induction
  | advance _ _ _ induction => exact induction
  | start _ induction => simp [Queue.start, induction]
  | enable _ induction => simp [Queue.enable, induction]

theorem Tended.of_same (tended : before.Tended held) (sound : before.Sound)
    (extended : before.ledger.Extends after.ledger) (pending : after.pending = before.pending)
    (inFlight : after.inFlight = before.inFlight) (resetting : after.resetting = before.resetting)
    (running : before.mode = .running → after.mode = .running)
    (spared : ∀ id ∈ before.pending, id ∉ held → after.ledger.get? id = before.ledger.get? id) :
    after.Tended held where
  held_known := fun id member => Nat.lt_of_lt_of_le (tended.held_known id member) extended.size_le
  inFlight_held := by
    rw [inFlight]
    exact tended.inFlight_held
  once := by
    rw [pending]
    exact tended.once
  unended := by
    rw [pending]
    intro id member hidden
    exact (Ledger.isTerminal_congr (spared id member hidden)).trans (tended.unended id member hidden)
  unheld := by
    rw [pending]
    intro id member kind known
    exact tended.unheld id member kind (kind?_unique extended (sound.pending_known id member) known)
  present := by
    rw [pending, inFlight, resetting]
    exact tended.present
  running := by
    rw [pending, resetting]
    exact fun id current member => running (tended.running id current member)

theorem Tended.adjust (tended : before.Tended held) (sound : before.Sound)
    (adjusts : before.Adjusts named after) (given : ∀ id ∈ named, id ∈ held) :
    after.Tended held := by
  rcases adjusts.keeps with ⟨pending, inFlight, resetting⟩
  refine tended.of_same sound adjusts.extends pending inFlight resetting adjusts.running ?_
  intro id member hidden
  exact adjusts.get?_eq (sound.pending_lt id member) fun inNamed => hidden (given id inNamed)

theorem Tended.enter (tended : queue.Tended held) (sound : queue.Sound) (task : Task) :
    (queue.enter task).1.Tended held :=
  tended.adjust sound (.enter task .done : queue.Adjusts [] _) (by simp)

/-- A task that is brought to its end must not be one that waits and that nobody holds. -/
theorem Tended.advance (tended : queue.Tended held) (sound : queue.Sound) (next : Progress)
    (apart : ∀ other ∈ queue.pending, other ∉ held → other ≠ id) :
    (queue.advance id next).Tended held :=
  tended.of_same sound (queue.ledger.extends_advance id next) rfl rfl rfl (fun running => running)
    fun other member hidden => Ledger.get?_advance_other next (apart other member hidden)

/-! ## Acts -/

theorem Tended.submit (tended : queue.Tended held) (sound : queue.Sound)
    (apart : ∀ other ∈ queue.pending, other ∉ held → other ≠ id)
    (unended : id ∉ held → queue.ledger.isTerminal id = false)
    (unheld : ∀ kind, queue.kind? id = some kind → kind.tells = true → id ∉ held)
    (ordinary : queue.resetting ≠ some id) : (queue.submit id).1.Tended held := by
  rw [Queue.submit]
  split
  · exact tended.advance sound _ apart
  refine ⟨tended.held_known, tended.inFlight_held, ?_, ?_, ?_, ?_, ?_⟩
  · intro other hidden
    rw [List.count_append]
    by_cases new : other = id
    · subst new
      have absent : queue.pending.count other = 0 :=
        List.count_eq_zero.mpr fun member => apart other member hidden rfl
      simp [absent]
    · have old := tended.once other hidden
      simpa [Ne.symm new] using old
  · intro other member hidden
    rcases List.mem_append.mp member with old | new
    · exact tended.unended other old hidden
    · rw [List.mem_singleton.mp new] at hidden ⊢
      exact unended hidden
  · intro other member kind known tells
    rcases List.mem_append.mp member with old | new
    · exact tended.unheld other old kind known tells
    · rw [List.mem_singleton.mp new] at known ⊢
      exact unheld kind known tells
  · intro other current
    exact (tended.present other current).imp_left (List.mem_append_left [id])
  · intro other current member
    rcases List.mem_append.mp member with old | new
    · exact tended.running other current old
    · exact absurd (List.mem_singleton.mp new ▸ current) ordinary

/-- The number that a new task gets is not one that anybody has. -/
theorem Tended.fresh (tended : queue.Tended held) : queue.ledger.size ∉ held :=
  fun member => absurd (tended.held_known _ member) (Nat.lt_irrefl _)

theorem Sound.fresh (sound : queue.Sound) : queue.ledger.size ∉ queue.pending :=
  fun member => absurd (sound.pending_lt _ member) (Nat.lt_irrefl _)

theorem isTerminal_enter_new (queue : Queue) {task : Task} (unbegun : task.progress = .pending) :
    (queue.enter task).1.ledger.isTerminal queue.ledger.size = false := by
  simp [Ledger.isTerminal, Queue.enter, Task.isTerminal, unbegun, Progress.isTerminal]

theorem Tended.add (tended : queue.Tended held) (sound : queue.Sound) {task : Task}
    (unbegun : task.progress = .pending) : (queue.add task).1.Tended held := by
  refine (tended.enter sound task).submit (sound.enter task) ?_ ?_ ?_ ?_
  · rintro other member - rfl
    exact sound.fresh member
  · exact fun _ => queue.isTerminal_enter_new unbegun
  · exact fun _ _ _ => tended.fresh
  · intro current
    exact absurd (lt_size_of_kind? (sound.resetting_kind _ current)) (Nat.lt_irrefl _)

theorem Tended.load (tended : queue.Tended held) (sound : queue.Sound) {task : Task}
    (unbegun : task.progress = .pending) :
    ((queue.enter task).1.reset queue.ledger.size).1.Tended held := by
  have entered := tended.enter sound task
  rw [Queue.reset]
  split
  · refine entered.advance (sound.enter task) _ ?_
    rintro other member - rfl
    exact sound.fresh member
  have alive := queue.isTerminal_enter_new unbegun
  have untouched : ((queue.enter task).1.abortPending discardedReason).ledger.get?
      queue.ledger.size = (queue.enter task).1.ledger.get? queue.ledger.size :=
    Ledger.get?_advanceAll_other _ sound.fresh
  have extended := (queue.enter task).1.ledger.extends_advanceAll queue.pending
    (.aborted discardedReason)
  refine ⟨?_, tended.inFlight_held, ?_, ?_, ?_, ?_, ?_⟩
  · exact fun id member => Nat.lt_of_lt_of_le (entered.held_known id member) extended.size_le
  · exact fun id _ => List.count_le_length
  · intro id member _
    rw [List.mem_singleton.mp member]
    exact (Ledger.isTerminal_congr untouched).trans alive
  · intro id member _ _ _
    rw [List.mem_singleton.mp member]
    exact tended.fresh
  · intro id current
    exact .inl (Option.some.inj current ▸ List.mem_singleton_self _)
  · simp

/-! ## Moves -/

theorem Tended.move (tended : before.Tended held) (sound : before.Sound)
    (unbegun : ∀ task, made task → task.progress = .pending)
    (moves : before.Moves named made after) (given : ∀ id ∈ named, id ∈ held) :
    after.Tended held := by
  rcases moves with ⟨middle, adjusts, acts⟩
  have adjusted := tended.adjust sound adjusts given
  have middleSound := sound.adjust adjusts
  cases acts with
  | nothing => exact adjusted
  | @submit id kind member known routable =>
      refine adjusted.submit middleSound ?_ (absurd (given id member)) ?_ ?_
      · rintro other - hidden rfl
        exact hidden (given _ member)
      · intro other otherKnown tells
        have same : kind = other := Option.some.inj (known.symm.trans otherKnown)
        rw [← same, TaskKind.tells_of_isRoutable routable] at tells
        cases tells
      · intro current
        have reset := middleSound.resetting_kind id current
        exact ne_reset_of_isRoutable routable (Option.some.inj (known.symm.trans reset))
  | add isMade ordinary => exact adjusted.add middleSound (unbegun _ isMade)
  | load isMade kind ended => exact adjusted.load middleSound (unbegun _ isMade)

/-! ## Disabling, dispatches and returns -/

theorem Tended.disable (tended : queue.Tended held) : queue.disable.Tended held := by
  rcases queue.disable_frame with ⟨-, pending, inFlight⟩
  have size : queue.ledger.size ≤ queue.disable.ledger.size := queue.extends_disable.size_le
  refine ⟨?_, ?_, by simp, by simp, by simp, ?_, by simp⟩
  · exact fun id member => Nat.lt_of_lt_of_le (tended.held_known id member) size
  · rw [inFlight]
    exact tended.inFlight_held
  · intro id
    rw [inFlight]
    simp only [Queue.disable]
    split
    · rename_i flying
      intro current
      right
      simp only [Bool.and_eq_true, beq_iff_eq] at flying
      exact flying.2.trans current
    · intro current
      cases current

/-- A task that is dispatched is held by whoever dispatches it. -/
theorem Tended.next (tended : queue.Tended held) (sound : queue.Sound) :
    queue.next.1.Tended (held ++ queue.next.2.toList) := by
  have waiting : ∀ id, queue.resetting = some id → id ∈ queue.pending →
      queue.ledger.isTerminal id = false := by
    intro id current member
    have known := sound.resetting_kind id current
    exact tended.unended id member (tended.unheld id member .reset known rfl)
  have steps := queue.steps_next
  generalize queue.next = step at steps
  cases steps with
  | waits => simpa using tended
  | clears ended =>
      rw [Option.toList_none, List.append_nil]
      refine ⟨tended.held_known, tended.inFlight_held, by simp, by simp, by simp, ?_, by simp⟩
      intro id current
      rcases tended.present id current with member | flying
      · have through := ended id member
        rw [waiting id current member] at through
        cases through
      · exact .inr flying
  | @dispatches skipped id rest free pending ended ready =>
      have member : id ∈ queue.pending := by simp [pending]
      have later : ∀ other ∈ rest, other ∈ queue.pending := fun other inRest => by simp [pending, inRest]
      rw [Option.toList_some]
      refine ⟨?_, by simp, ?_, ?_, ?_, ?_, ?_⟩
      · intro other inHeld
        have known : other < queue.ledger.size := by
          rcases List.mem_append.mp inHeld with old | new
          · exact tended.held_known other old
          · exact List.mem_singleton.mp new ▸ sound.pending_lt id member
        simpa [Queue.advance, Ledger.advance] using known
      · intro other hidden
        have sublist : rest.Sublist queue.pending := pending ▸ by simp
        exact (sublist.count_le other).trans (tended.once other (hidden ∘ List.mem_append_left _))
      · intro other inRest hidden
        rw [List.mem_append, List.mem_singleton, not_or] at hidden
        exact (queue.ledger.isTerminal_submitted id other).trans
          (tended.unended other (later other inRest) hidden.1)
      · intro other inRest kind known tells
        have known := kind?_unique (queue.ledger.extends_advance id .submitted)
          (sound.pending_known other (later other inRest)) known
        have hidden := tended.unheld other (later other inRest) kind known tells
        -- It waits once, and so it is not the one that was just dispatched.
        have once := tended.once other hidden
        have different : other ≠ id := by
          rintro rfl
          have again : 0 < rest.count other := List.count_pos_iff.mpr inRest
          rw [pending, List.count_append, List.count_cons_self] at once
          omega
        simp [hidden, different]
      · intro other current
        rcases tended.present other current with inPending | flying
        · rw [pending, List.mem_append, List.mem_cons] at inPending
          rcases inPending with passed | same | inRest
          · have through := ended other passed
            rw [waiting other current (pending ▸ List.mem_append_left _ passed)] at through
            cases through
          · exact .inr (congrArg some same.symm)
          · exact .inl inRest
        · rw [free] at flying
          cases flying
      · exact fun other current inRest => tended.running other current (later other inRest)

theorem Tended.complete (tended : queue.Tended held) (flying : queue.inFlight = some id) :
    (queue.complete id).1.Tended held := by
  rw [Queue.complete]
  rw [if_pos flying]
  refine ⟨tended.held_known, by simp, tended.once, tended.unended, tended.unheld, ?_, ?_⟩
  · intro other current
    by_cases through : queue.resetting = some id
    · simp [through] at current
    · simp only [through, if_false] at current
      rcases tended.present other current with waits | here
      · exact .inl waits
      · exact absurd (current.trans (here.symm.trans flying)) through
  · intro other current member
    refine tended.running other ?_ member
    by_cases through : queue.resetting = some id
    · simp [through] at current
    · simpa [through] using current

/-- What comes back is held, and so it may be brought to its end. -/
theorem Tended.returned (tended : queue.Tended held) (sound : queue.Sound)
    (flying : queue.inFlight = some id) (ending : Progress) :
    ((queue.complete id).1.advance id ending).Tended held := by
  have holding := tended.inFlight_held id flying
  refine (tended.complete flying).advance (sound.complete flying) ending ?_
  exact fun other _ hidden same => hidden (same ▸ holding)

/-- Callers come to hold tasks that have just been made, and none that tells of the filter. -/
theorem Tended.share (tended : queue.Tended held) {shared : List TaskId}
    (known : ∀ id ∈ shared, id < queue.ledger.size)
    (silent : ∀ id ∈ shared, id ∈ queue.pending → ∀ kind, queue.kind? id = some kind →
      kind.tells = false) : queue.Tended (held ++ shared) where
  held_known := by
    intro id member
    exact (List.mem_append.mp member).elim (tended.held_known id) (known id)
  inFlight_held := fun id flying => List.mem_append_left _ (tended.inFlight_held id flying)
  once := fun id hidden => tended.once id (hidden ∘ List.mem_append_left _)
  unended := fun id member hidden => tended.unended id member (hidden ∘ List.mem_append_left _)
  unheld := by
    intro id member kind kindKnown tells inHeld
    rcases List.mem_append.mp inHeld with old | new
    · exact tended.unheld id member kind kindKnown tells old
    · rw [silent id new member kind kindKnown] at tells
      cases tells
  present := tended.present
  running := tended.running

/-! ## Resets -/

/-- The resets that are in flight or wait. -/
def resets (queue : Queue) : List TaskId :=
  (queue.inFlight.toList ++ queue.pending).filter (queue.kind? · == some .reset)

/-- There is no reset but the one that the queue waits for, and that one is there. -/
theorem Tended.resets_eq (tended : queue.Tended held) (sound : queue.Sound) :
    queue.resets = queue.resetting.toList := by
  have only {id : TaskId} (member : id ∈ queue.inFlight.toList ++ queue.pending)
      (reset : queue.kind? id = some .reset) : queue.resetting = some id := by
    rcases List.mem_append.mp member with flying | waits
    · exact sound.inFlight_reset id (Option.mem_toList.mp flying) reset
    · exact sound.pending_reset id waits reset
  cases current : queue.resetting with
  | none =>
      refine List.filter_eq_nil_iff.mpr fun id member reset => ?_
      simpa [current] using only member (beq_iff_eq.mp reset)
  | some id =>
      have kind := sound.resetting_kind id current
      rcases sound.alone id current with empty | ⟨single, apart⟩
      · have flying : queue.inFlight = some id := by
          simpa [empty] using tended.present id current
        simp [resets, empty, flying, kind]
      · cases flying : queue.inFlight with
        | none => simp [resets, single, flying, kind]
        | some other =>
            have ordinary : queue.kind? other ≠ some .reset := fun reset =>
              apart (flying.trans ((sound.inFlight_reset other flying reset).symm.trans current))
            simp [resets, single, flying, kind, ordinary]

end Queue

end FlowClient
