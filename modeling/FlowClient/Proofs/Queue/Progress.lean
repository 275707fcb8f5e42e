import FlowClient.Proofs.Queue.Held

/-! What a task has come to, and the places in which it can be. One task may be in flight
and wait again at the same time, since callers may hand in what they like more than
once. What was made for the queue, and never handed in by a caller, is in one place at most. -/

namespace FlowClient

/-! ## Ledgers -/

@[simp] theorem Progress.advance_advance (progress next : Progress) :
    (progress.advance next).advance next = progress.advance next := by
  cases ended : progress.isTerminal <;> cases nextEnds : next.isTerminal <;>
    simp [Progress.advance, ended, nextEnds]

namespace Ledger

def progress? (ledger : Ledger) (id : TaskId) : Option Progress :=
  (ledger.get? id).map (·.progress)

variable {ledger older newer : Ledger} {id : TaskId}

theorem isTerminal_eq_any (ledger : Ledger) (id : TaskId) :
    ledger.isTerminal id = (ledger.progress? id).any Progress.isTerminal := by
  rw [isTerminal, progress?, Option.any_map]
  rfl

theorem progress?_congr (same : newer.get? id = older.get? id) :
    newer.progress? id = older.progress? id := by
  rw [progress?, progress?, same]

theorem progress?_advance (ledger : Ledger) (id : TaskId) (next : Progress) :
    (ledger.advance id next).progress? id = (ledger.progress? id).map (·.advance next) := by
  simp only [progress?, advance, get?_change_same, Option.map_map]
  rfl

theorem progress?_advanceAll (ledger : Ledger) (ids : List TaskId) (id : TaskId)
    (next : Progress) : (ledger.advanceAll ids next).progress? id =
      if id ∈ ids then (ledger.progress? id).map (·.advance next) else ledger.progress? id := by
  induction ids generalizing ledger with
  | nil => rfl
  | cons head rest induction =>
      refine (induction (ledger.advance head next)).trans ?_
      by_cases same : id = head
      · subst same
        by_cases again : id ∈ rest <;>
          simp [again, progress?_advance, Option.map_map, Function.comp_def]
      · have other : (ledger.advance head next).progress? id = ledger.progress? id :=
          progress?_congr (get?_advance_other next same)
        simp [same, other]

theorem progress?_setParam (ledger : Ledger) (changed id : TaskId) (param : Param)
    (value : String) :
    (ledger.change changed (·.setParam param value)).progress? id = ledger.progress? id := by
  by_cases same : id = changed
  · subst same
    simp only [progress?, get?_change_same, Option.map_map]
    rfl
  · exact progress?_congr (get?_change_other _ _ same)

theorem progress?_extends (extended : older.Extends newer) {progress : Progress}
    (known : older.progress? id = some progress) (terminal : progress.isTerminal = true) :
    newer.progress? id = some progress := by
  rcases Option.map_eq_some_iff.mp known with ⟨task, taskKnown, rfl⟩
  rcases extended id task taskKnown with ⟨later, laterKnown, becomes⟩
  simp [progress?, laterKnown, becomes.2 terminal]

theorem lt_size_of_progress? {progress : Progress} (known : ledger.progress? id = some progress) :
    id < ledger.size := by
  rcases Option.map_eq_some_iff.mp known with ⟨task, taskKnown, -⟩
  exact (List.getElem?_eq_some_iff.mp taskKnown).1

end Ledger

namespace Queue

variable {queue before after : Queue} {id returned : TaskId} {named : List TaskId} {made : Task → Prop}

/-! ## Operations -/

theorem progress?_enter (task : Task) (known : id < queue.ledger.size) :
    (queue.enter task).1.ledger.progress? id = queue.ledger.progress? id :=
  Ledger.progress?_congr (queue.ledger.get?_add_old task known)

theorem progress?_submit (queue : Queue) (id : TaskId) :
    (queue.submit id).1.ledger.progress? id = match queue.refusal? id with
      | some reason => (queue.ledger.progress? id).map (·.advance (.rejected reason))
      | none => queue.ledger.progress? id := by
  rw [submit]
  cases queue.refusal? id with
  | some reason => exact queue.ledger.progress?_advance id _
  | none => rfl

theorem progress?_submit_other (submitted : TaskId) (different : id ≠ submitted) :
    (queue.submit submitted).1.ledger.progress? id = queue.ledger.progress? id := by
  rw [submit]
  cases queue.refusal? submitted with
  | some reason => exact Ledger.progress?_congr (Ledger.get?_advance_other _ different)
  | none => rfl

theorem progress?_add (task : Task) (known : id < queue.ledger.size) :
    (queue.add task).1.ledger.progress? id = queue.ledger.progress? id :=
  (progress?_submit_other _ (Nat.ne_of_lt known)).trans (progress?_enter task known)

theorem mode_start (queue : Queue) : queue.start.mode = .disabled ↔ queue.mode = .disabled := by
  cases mode : queue.mode <;> simp [start, mode]

/-- A queue that is open takes what is made for it. -/
theorem add_of_open (queue : Queue) (task : Task) (enabled : queue.mode ≠ .disabled)
    (ended : queue.resetting = none) : (queue.add task).1 =
      { queue with
        ledger := queue.ledger.add task
        pending := queue.pending ++ [queue.ledger.size] } := by
  simp [add, enter, submit, refusal?, isResetting, enabled, ended]

theorem progress?_abortPending (queue : Queue) (reason : String) (id : TaskId) :
    (queue.abortPending reason).ledger.progress? id =
      if id ∈ queue.pending then (queue.ledger.progress? id).map (·.advance (.aborted reason))
      else queue.ledger.progress? id :=
  queue.ledger.progress?_advanceAll queue.pending id _

theorem progress?_disable (queue : Queue) (id : TaskId) : queue.disable.ledger.progress? id =
    if id ∈ queue.pending then
      (queue.ledger.progress? id).map (·.advance (.aborted disabledReason))
    else queue.ledger.progress? id := by
  rw [queue.disable_frame.1]
  exact queue.progress?_abortPending disabledReason id

/-- What waits is discarded when a new reset takes the queue over. -/
theorem progress?_load (task : Task) (known : id < queue.ledger.size)
    (enabled : queue.mode ≠ .disabled) :
    ((queue.enter task).1.reset queue.ledger.size).1.ledger.progress? id =
      if id ∈ queue.pending then
        (queue.ledger.progress? id).map (·.advance (.aborted discardedReason))
      else queue.ledger.progress? id := by
  have entered : (queue.enter task).1.mode ≠ .disabled := enabled
  rw [reset, if_neg entered, ← progress?_enter task known]
  exact (queue.enter task).1.progress?_abortPending discardedReason id

/-! ## Places -/

/-- All places that are taken: the one in flight, and those that wait. -/
def places (queue : Queue) : List TaskId := queue.inFlight.toList ++ queue.pending

/-- That a task is in one place at most. -/
def Single (queue : Queue) (id : TaskId) : Prop := queue.places.count id ≤ 1

theorem Single.of_count (single : before.Single id)
    (fewer : after.places.count id ≤ before.places.count id) : after.Single id :=
  Nat.le_trans fewer single

theorem Single.of_same (single : before.Single id) (pending : after.pending = before.pending)
    (inFlight : after.inFlight = before.inFlight) : after.Single id := by
  simpa [Single, places, pending, inFlight] using single

/-- A task that is in flight and in no second place does not wait. -/
theorem Single.not_waiting (single : queue.Single id) (flying : queue.inFlight = some id) :
    id ∉ queue.pending := by
  intro waits
  have again := List.count_pos_iff.mpr waits
  simp only [Single, places, flying, Option.toList_some, List.cons_append, List.nil_append,
    List.count_cons_self] at single
  omega

/-- A new task is nowhere yet. -/
theorem Sound.count_places_of_new (sound : queue.Sound) (new : queue.ledger.size ≤ id) :
    queue.places.count id = 0 := by
  rw [List.count_eq_zero, places, List.mem_append, not_or]
  constructor
  · intro flying
    rcases sound.inFlight_known id (Option.mem_toList.mp flying) with ⟨kind, known⟩
    exact absurd (lt_size_of_kind? known) (Nat.not_lt.mpr new)
  · intro waits
    exact absurd (sound.pending_lt id waits) (Nat.not_lt.mpr new)

theorem single_new (id : TaskId) : ({} : Queue).Single id := by
  simp [Single, places]

theorem count_places_submit (queue : Queue) (submitted : TaskId) :
    (queue.submit submitted).1.places.count id ≤
      queue.places.count id + if id = submitted then 1 else 0 := by
  rw [submit]
  split
  · exact Nat.le_add_right _ _
  · by_cases same : id = submitted
    · simp [places, same, Nat.add_assoc]
    · simp [places, same, Ne.symm same]

theorem count_places_reset (queue : Queue) (taking : TaskId) :
    (queue.reset taking).1.places.count id ≤
      queue.places.count id + if id = taking then 1 else 0 := by
  by_cases disabled : queue.mode = .disabled
  · rw [reset, if_pos disabled]
    exact Nat.le_add_right _ _
  · rcases queue.reset_frame taking disabled with ⟨-, pending, inFlight, -⟩
    rw [places, pending, inFlight, places, List.count_append, List.count_append]
    by_cases same : id = taking
    · simp [same]
    · simp [same, Ne.symm same]

theorem count_places_disable (queue : Queue) :
    queue.disable.places.count id ≤ queue.places.count id := by
  simp [places]

theorem count_places_complete (queue : Queue) (returned : TaskId) :
    (queue.complete returned).1.places.count id ≤ queue.places.count id := by
  rw [Queue.complete]
  split
  · simp [places]
  · exact Nat.le_refl _

theorem count_places_next (queue : Queue) :
    queue.next.1.places.count id ≤ queue.places.count id := by
  have steps := queue.steps_next
  generalize queue.next = step at steps
  cases steps with
  | waits => exact Nat.le_refl _
  | clears ended => simp [places]
  | @dispatches skipped other rest free pending ended ready =>
      simp only [places, free, pending, Option.toList_some, Option.toList_none,
        List.nil_append, List.count_append, List.cons_append]
      exact Nat.le_add_left _ _

/-- A move brings a task to a second place only if a caller hands it in. -/
theorem Single.move (single : before.Single id) (sound : before.Sound)
    (moves : before.Moves named made after)
    (spared : id ∈ named → ∀ kind, after.kind? id = some kind → kind.isRoutable = false) :
    after.Single id := by
  rcases moves with ⟨middle, adjusts, acts⟩
  have middleSingle : middle.Single id := single.of_same adjusts.keeps.1 adjusts.keeps.2.1
  have middleSound := sound.adjust adjusts
  -- The task that is made now is nowhere yet, so that it may be put somewhere.
  have room : middle.places.count id + (if id = middle.ledger.size then 1 else 0) ≤ 1 := by
    split
    · rename_i new
      rw [middleSound.count_places_of_new (Nat.le_of_eq new.symm)]
    · exact middleSingle
  cases acts with
  | nothing => exact middleSingle
  | @submit submitted kind member known routable =>
      have different : id ≠ submitted := by
        rintro rfl
        have later := kind?_extends (extends_submit middle id) known
        rw [spared member kind later] at routable
        cases routable
      have counted : (middle.submit submitted).1.places.count id ≤
          middle.places.count id + if id = submitted then 1 else 0 :=
        count_places_submit middle submitted
      exact middleSingle.of_count (by simpa [different] using counted)
  | @add task isMade ordinary =>
      exact Nat.le_trans (count_places_submit (middle.enter task).1 middle.ledger.size) room
  | @load task isMade kind ended =>
      exact Nat.le_trans (count_places_reset (middle.enter task).1 middle.ledger.size) room

theorem Single.disable (single : queue.Single id) : queue.disable.Single id :=
  single.of_count queue.count_places_disable

theorem Single.complete (single : queue.Single id) (returned : TaskId) :
    (queue.complete returned).1.Single id :=
  single.of_count (queue.count_places_complete returned)

theorem Single.next (single : queue.Single id) : queue.next.1.Single id :=
  single.of_count queue.count_places_next

end Queue

end FlowClient
