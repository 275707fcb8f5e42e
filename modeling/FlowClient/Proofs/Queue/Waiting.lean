import FlowClient.Proofs.Queue.Sound
import Mathlib.Data.List.TakeWhile

/-! Which tasks come to wait in a queue and which leave it, seen from what waits before and
what waits after. A queue takes away at the front and adds at the end, so what still
waits is an end of what waited. -/

namespace FlowClient.Queue

/-! ## Arrivals and departures -/

/-- What still waits: the longest end of what waited with which what waits now begins. -/
def stillWaiting : List TaskId → List TaskId → List TaskId
  | [], _ => []
  | id :: rest, after =>
      if (id :: rest).isPrefixOf after then id :: rest else stillWaiting rest after

/-- What came to wait. -/
def arrivals (before after : Queue) : List TaskId :=
  after.pending.drop (stillWaiting before.pending after.pending).length

/-- What waits no more. -/
def departures (before after : Queue) : List TaskId :=
  before.pending.take
    (before.pending.length - (stillWaiting before.pending after.pending).length)

theorem stillWaiting_ends (before after : List TaskId) : stillWaiting before after <:+ before := by
  induction before with
  | nil => exact List.suffix_rfl
  | cons id rest induction =>
      rw [stillWaiting]
      split
      · exact List.suffix_rfl
      · exact induction.trans (List.suffix_cons id rest)

theorem stillWaiting_begins (before after : List TaskId) : stillWaiting before after <+: after := by
  induction before with
  | nil => exact List.nil_prefix
  | cons id rest induction =>
      rw [stillWaiting]
      split
      · rename_i begins
        exact List.isPrefixOf_iff_prefix.mp begins
      · exact induction

theorem stillWaiting_of_begins {before after : List TaskId} (begins : before <+: after) :
    stillWaiting before after = before := by
  cases before with
  | nil => rfl
  | cons id rest => rw [stillWaiting, if_pos (List.isPrefixOf_iff_prefix.mpr begins)]

theorem stillWaiting_of_ends {before after : List TaskId} (ends : after <:+ before) :
    stillWaiting before after = after := by
  induction before with
  | nil => rw [List.suffix_nil.mp ends, stillWaiting]
  | cons id rest induction =>
      rw [stillWaiting]
      rcases List.suffix_cons_iff.mp ends with same | shorter
      · rw [if_pos (List.isPrefixOf_iff_prefix.mpr (same ▸ List.prefix_rfl)), same]
      · have longer : ¬ (id :: rest).isPrefixOf after = true := by
          intro begins
          have := (List.isPrefixOf_iff_prefix.mp begins).length_le
          have := shorter.length_le
          simp only [List.length_cons] at *
          omega
        rw [if_neg longer, induction shorter]

theorem stillWaiting_fresh {before : List TaskId} {id : TaskId} (fresh : id ∉ before) :
    stillWaiting before [id] = [] := by
  have ends := stillWaiting_ends before [id]
  have begins := stillWaiting_begins before [id]
  rcases List.prefix_cons_iff.mp begins with none | ⟨rest, same, -⟩
  · exact none
  · exact absurd (ends.subset (same ▸ List.mem_cons_self)) fresh

variable {before after : Queue} {named : List TaskId} {made : Task → Prop}

/-- What waited has left or still waits. -/
theorem departures_append (before after : Queue) :
    before.departures after ++ stillWaiting before.pending after.pending = before.pending :=
  List.suffix_iff_eq_append.mp (stillWaiting_ends before.pending after.pending)

theorem append_arrivals (before after : Queue) :
    stillWaiting before.pending after.pending ++ before.arrivals after = after.pending :=
  List.prefix_iff_eq_append.mp (stillWaiting_begins before.pending after.pending)

theorem departures_of_begins (begins : before.pending <+: after.pending) :
    before.departures after = [] := by
  simp [departures, stillWaiting_of_begins begins]

theorem arrivals_of_ends (ends : after.pending <:+ before.pending) :
    before.arrivals after = [] := by
  simp [arrivals, stillWaiting_of_ends ends]

/-- The queue accepts a task just if the task comes to wait. -/
theorem arrivals_submit (queue : Queue) (id : TaskId) :
    queue.arrivals (queue.submit id).1 = if (queue.submit id).2 then [id] else [] := by
  rw [submit]
  split
  · exact arrivals_of_ends List.suffix_rfl
  · simp [arrivals, stillWaiting_of_begins]

theorem departures_congr {other : Queue} (pending : other.pending = before.pending)
    (after : Queue) : other.departures after = before.departures after := by
  simp [departures, pending]

theorem arrivals_congr {other : Queue} (pending : other.pending = before.pending)
    (after : Queue) : other.arrivals after = before.arrivals after := by
  simp [arrivals, pending]

theorem arrivals_of_fresh {id : TaskId} (fresh : id ∉ before.pending)
    (pending : after.pending = [id]) : before.arrivals after = [id] := by
  simp [arrivals, pending, stillWaiting_fresh fresh]

/-! ## Moves -/

/-- Why the tasks that waited are gone: a reset has taken the queue over, and is alone. -/
def TakenOver (queue : Queue) : Prop :=
  ∃ id, queue.resetting = some id ∧ queue.pending = [id]

theorem departures_of_fresh {id : TaskId} (fresh : id ∉ before.pending)
    (pending : after.pending = [id]) : before.departures after = before.pending := by
  simp [departures, pending, stillWaiting_fresh fresh]

theorem isTerminal_abortPending (known : ∀ id ∈ before.pending, ∃ kind, before.kind? id = some kind)
    (reason : String) {id : TaskId} (member : id ∈ before.pending) :
    (before.abortPending reason).ledger.isTerminal id = true := by
  rcases known id member with ⟨kind, kindKnown⟩
  rcases kind?_eq_some kindKnown with ⟨task, taskKnown, -⟩
  exact Ledger.isTerminal_advanceAll taskKnown member rfl

theorem departures_submit (queue : Queue) (id : TaskId) :
    queue.departures (queue.submit id).1 = [] := by
  apply departures_of_begins
  rw [submit]
  split
  · exact List.prefix_rfl
  · exact List.prefix_append _ _

/-- What arrives and leaves when a queue moves: at most one task joins the others, or a
reset has brought them all to their end. -/
theorem Sound.waiting (sound : before.Sound) (moves : before.Moves named made after) :
    before.departures after = [] ∨
      before.departures after = before.pending ∧ after.TakenOver ∧
        ∀ id ∈ before.pending, after.ledger.isTerminal id = true := by
  rcases moves with ⟨middle, adjusts, acts⟩
  have middleSound := sound.adjust adjusts
  rcases adjusts.keeps with ⟨pending, -, -⟩
  cases acts with
  | nothing => exact .inl (departures_of_begins (pending ▸ List.prefix_rfl))
  | submit => exact .inl ((departures_congr pending _).symm.trans (middle.departures_submit _))
  | @add task =>
      exact .inl ((departures_congr pending _).symm.trans ((middle.enter task).1.departures_submit _))
  | @load task isMade kind ended =>
      by_cases disabled : middle.mode = .disabled
      · left
        apply departures_of_begins
        rw [← pending]
        rw [Queue.reset]
        rw [if_pos (show (middle.enter task).1.mode = .disabled from disabled)]
        exact List.prefix_rfl
      · rcases reset_frame (middle.enter task).1 middle.ledger.size disabled with
            ⟨-, waiting, -, current⟩
        have fresh : middle.ledger.size ∉ before.pending := by
          intro member
          exact absurd (middleSound.pending_lt _ (pending ▸ member)) (Nat.lt_irrefl _)
        refine .inr ⟨departures_of_fresh fresh waiting, ⟨_, current, waiting⟩, ?_⟩
        intro other member
        rw [Queue.reset]
        rw [if_neg (show (middle.enter task).1.mode ≠ .disabled from disabled)]
        exact isTerminal_abortPending (middleSound.enter task).pending_known _ (pending ▸ member)

theorem Sound.waiting_disable (sound : before.Sound) :
    before.departures before.disable = before.pending ∧
      ∀ id ∈ before.pending, before.disable.ledger.isTerminal id = true := by
  refine ⟨by simp [departures, stillWaiting_of_ends], ?_⟩
  intro id member
  rw [before.disable_frame.1]
  exact isTerminal_abortPending sound.pending_known _ member

/-! ## Dispatches -/

inductive Steps (queue : Queue) : Queue × Option TaskId → Prop
  | waits : Steps queue (queue, none)
  | clears (ended : ∀ id ∈ queue.pending, queue.ledger.isTerminal id = true) :
      Steps queue ({ queue with pending := [] }, none)
  /-- The first task that has not come to its end is dispatched. -/
  | dispatches {skipped id rest} (free : queue.inFlight = none)
      (pending : queue.pending = skipped ++ id :: rest)
      (ended : ∀ id ∈ skipped, queue.ledger.isTerminal id = true)
      (ready : queue.ledger.isTerminal id = false) :
      Steps queue
        ({ queue.advance id .submitted with pending := rest, inFlight := some id }, some id)

theorem steps_next (queue : Queue) : queue.Steps queue.next := by
  have parts : queue.pending.takeWhile queue.ledger.isTerminal ++
      queue.pending.dropWhile queue.ledger.isTerminal = queue.pending :=
    List.takeWhile_append_dropWhile
  have ended : ∀ id ∈ queue.pending.takeWhile queue.ledger.isTerminal,
      queue.ledger.isTerminal id = true := fun id member => List.mem_takeWhile_imp member
  have ready := List.head?_dropWhile_not queue.ledger.isTerminal queue.pending
  rw [next]
  split
  · rename_i free
    split
    · rename_i none
      rw [none, List.append_nil] at parts
      exact .clears (parts ▸ ended)
    · rename_i id rest found
      rw [found] at parts ready
      simp only [Bool.and_eq_true, Option.isNone_iff_eq_none] at free
      exact .dispatches free.2 parts.symm ended ready
  · exact .waits

/-- A step of the queue only takes tasks away: those it passes over, which have come to
their end, and the one it dispatches. -/
theorem Steps.waiting {step : Queue × Option TaskId} (steps : before.Steps step) :
    before.arrivals step.1 = [] ∧
      ∃ skipped, before.departures step.1 = skipped ++ step.2.toList ∧
        ∀ id ∈ skipped, before.ledger.isTerminal id = true := by
  have conserved := before.departures_append step.1
  cases steps with
  | waits =>
      exact ⟨arrivals_of_ends List.suffix_rfl, [], departures_of_begins List.prefix_rfl, by simp⟩
  | clears ended =>
      have ends : [] <:+ before.pending := List.nil_suffix
      refine ⟨arrivals_of_ends ends, before.pending, ?_, ended⟩
      simpa [stillWaiting_of_ends ends] using conserved
  | @dispatches skipped id rest free pending ended ready =>
      have ends : rest <:+ before.pending := pending ▸ ⟨skipped ++ [id], by simp⟩
      refine ⟨arrivals_of_ends ends, skipped, ?_, ended⟩
      rw [stillWaiting_of_ends ends] at conserved
      apply List.append_cancel_right
      apply conserved.trans
      simp [pending]

end FlowClient.Queue
