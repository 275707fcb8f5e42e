import FlowClient.Proofs.Queue.Placed

/-! What a task was made for. Its parameters may be set later, and its progress changes; its
arguments stay what they were when it was made, so that what a reset asks for is what the
filter selected when it set out. -/

namespace FlowClient

/-! ## Ledgers -/

namespace Ledger

def args? (ledger : Ledger) (id : TaskId) : Option (List String) :=
  (ledger.get? id).map (·.args)

variable {ledger older newer newest : Ledger} {id : TaskId}

/-- Every task of the older ledger has the same arguments in the newer one. -/
def KeepsArgs (older newer : Ledger) : Prop :=
  ∀ id args, older.args? id = some args → newer.args? id = some args

theorem KeepsArgs.rfl : ledger.KeepsArgs ledger := fun _ _ known => known

theorem KeepsArgs.trans (first : older.KeepsArgs newer) (second : newer.KeepsArgs newest) :
    older.KeepsArgs newest :=
  fun id args known => second id args (first id args known)

theorem keepsArgs_add (ledger : Ledger) (task : Task) : ledger.KeepsArgs (ledger.add task) := by
  intro id args known
  rcases Option.map_eq_some_iff.mp known with ⟨old, found, -⟩
  rw [args?, ledger.get?_add_old task (List.getElem?_eq_some_iff.mp found).1]
  exact known

theorem keepsArgs_change (ledger : Ledger) (id : TaskId) {change : Task → Task}
    (kept : ∀ task, (change task).args = task.args) : ledger.KeepsArgs (ledger.change id change) := by
  intro other args known
  by_cases same : other = id
  · subst same
    rw [args?, get?_change_same, Option.map_map]
    simp only [Function.comp_def, kept]
    exact known
  · rw [args?, get?_change_other ledger change same]
    exact known

theorem keepsArgs_advance (ledger : Ledger) (id : TaskId) (next : Progress) :
    ledger.KeepsArgs (ledger.advance id next) :=
  ledger.keepsArgs_change id fun _ => Eq.refl _

theorem keepsArgs_advanceAll (ledger : Ledger) (ids : List TaskId) (next : Progress) :
    ledger.KeepsArgs (ledger.advanceAll ids next) := by
  induction ids generalizing ledger with
  | nil => exact .rfl
  | cons id ids induction => exact (ledger.keepsArgs_advance id next).trans (induction _)

end Ledger

namespace Queue

variable {queue before after : Queue} {id : TaskId} {named : List TaskId} {made : Task → Prop}

/-! ## Operations -/

theorem keepsArgs_submit (queue : Queue) (id : TaskId) :
    queue.ledger.KeepsArgs (queue.submit id).1.ledger := by
  rw [submit]
  split
  · exact queue.ledger.keepsArgs_advance id _
  · exact .rfl

theorem keepsArgs_reset (queue : Queue) (id : TaskId) :
    queue.ledger.KeepsArgs (queue.reset id).1.ledger := by
  rw [reset]
  split
  · exact queue.ledger.keepsArgs_advance id _
  · exact queue.ledger.keepsArgs_advanceAll queue.pending _

theorem keepsArgs_disable (queue : Queue) : queue.ledger.KeepsArgs queue.disable.ledger := by
  rw [queue.disable_frame.1]
  exact queue.ledger.keepsArgs_advanceAll queue.pending _

theorem keepsArgs_next (queue : Queue) : queue.ledger.KeepsArgs queue.next.1.ledger := by
  have steps := queue.steps_next
  generalize queue.next = step at steps
  cases steps with
  | waits => exact .rfl
  | clears ended => exact .rfl
  | dispatches free pending ended ready => exact queue.ledger.keepsArgs_advance _ _

/-! ## Moves -/

theorem Adjusts.keepsArgs (adjusts : before.Adjusts named after) :
    before.ledger.KeepsArgs after.ledger := by
  induction adjusts with
  | done => exact .rfl
  | enter task _ induction => exact induction.trans (Ledger.keepsArgs_add _ task)
  | setParam param value member _ induction =>
      exact induction.trans (Ledger.keepsArgs_change _ _ fun _ => rfl)
  | advance next member _ induction => exact induction.trans (Ledger.keepsArgs_advance _ _ next)
  | start _ induction => simpa using induction
  | enable _ induction => simpa using induction

theorem Acts.keepsArgs (acts : before.Acts named made after) :
    before.ledger.KeepsArgs after.ledger := by
  cases acts with
  | nothing => exact .rfl
  | submit => exact before.keepsArgs_submit _
  | @add task => exact (before.ledger.keepsArgs_add task).trans (keepsArgs_submit (before.enter task).1 _)
  | @load task => exact (before.ledger.keepsArgs_add task).trans (keepsArgs_reset (before.enter task).1 _)

theorem Moves.keepsArgs (moves : before.Moves named made after) :
    before.ledger.KeepsArgs after.ledger := by
  rcases moves with ⟨middle, adjusts, acts⟩
  exact adjusts.keepsArgs.trans acts.keepsArgs

/-- The reset that is waited for after a move was so before, or the move made it. -/
theorem Moves.resetting_cases (moves : before.Moves named made after) :
    after.resetting = before.resetting ∨
      ∃ id task, made task ∧ task.kind = .reset ∧ after.resetting = some id ∧
        after.ledger.args? id = some task.args := by
  rcases moves with ⟨middle, adjusts, acts⟩
  rw [← adjusts.keeps.2.2]
  cases acts with
  | nothing => exact .inl rfl
  | submit => exact .inl (middle.submit_frame _).2.2
  | @add task => exact .inl (middle.add_frame task).2.2
  | @load task isMade kind ended =>
      by_cases disabled : middle.mode = .disabled
      · left
        simp [reset, enter, disabled, advance]
      · have enabled : (middle.enter task).1.mode ≠ .disabled := disabled
        refine .inr ⟨middle.ledger.size, task, isMade, kind, (reset_frame _ _ enabled).2.2.2, ?_⟩
        apply keepsArgs_reset (middle.enter task).1
        simp [Ledger.args?, enter]

end Queue

end FlowClient
