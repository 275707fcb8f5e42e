import FlowClient.Queue

/-! How the ledger of a queue grows. A task that was entered stays, keeps its kind, and
once it has come to its end it keeps that too. -/

namespace FlowClient

namespace Task

def Becomes (task later : Task) : Prop :=
  later.kind = task.kind ∧ (task.isTerminal = true → later.progress = task.progress)

theorem Becomes.rfl {task : Task} : task.Becomes task := ⟨Eq.refl _, fun _ => Eq.refl _⟩

theorem Becomes.trans {task later last : Task} (first : task.Becomes later)
    (second : later.Becomes last) : task.Becomes last := by
  refine ⟨second.1.trans first.1, ?_⟩
  intro terminal
  have same := first.2 terminal
  have laterTerminal : later.isTerminal = true := by
    rw [isTerminal, same]
    exact terminal
  exact (second.2 laterTerminal).trans same

theorem becomes_advance (task : Task) (next : Progress) : task.Becomes (task.advance next) := by
  refine ⟨Eq.refl _, ?_⟩
  intro terminal
  have stays : task.progress.isTerminal = true := terminal
  simp [advance, Progress.advance, stays]

theorem becomes_setParam (task : Task) (param : Param) (value : String) :
    task.Becomes (task.setParam param value) := ⟨Eq.refl _, fun _ => Eq.refl _⟩

theorem isTerminal_advance (task : Task) {next : Progress} (terminal : next.isTerminal = true) :
    (task.advance next).isTerminal = true :=
  Progress.advance_isTerminal terminal

end Task

namespace Ledger

variable {ledger older newer newest : Ledger}

/-- Every task of the older ledger is still in the newer one. -/
def Extends (older newer : Ledger) : Prop :=
  ∀ id task, older.get? id = some task →
    ∃ later, newer.get? id = some later ∧ task.Becomes later

theorem Extends.rfl : ledger.Extends ledger := fun _ task known => ⟨task, known, .rfl⟩

theorem Extends.trans (first : older.Extends newer) (second : newer.Extends newest) :
    older.Extends newest := by
  intro id task known
  rcases first id task known with ⟨later, laterKnown, toLater⟩
  rcases second id later laterKnown with ⟨last, lastKnown, toLast⟩
  exact ⟨last, lastKnown, toLater.trans toLast⟩

theorem extends_add (ledger : Ledger) (task : Task) : ledger.Extends (ledger.add task) := by
  intro id old known
  have within : id < ledger.size := by
    have := List.getElem?_eq_some_iff.mp known
    exact this.1
  exact ⟨old, (ledger.get?_add_old task within).trans known, .rfl⟩

theorem extends_change (ledger : Ledger) (id : TaskId) {change : Task → Task}
    (allowed : ∀ task : Task, task.Becomes (change task)) : ledger.Extends (ledger.change id change) := by
  intro other task known
  by_cases same : other = id
  · subst same
    exact ⟨change task, by simp [known], allowed task⟩
  · exact ⟨task, (ledger.get?_change_other change same).trans known, .rfl⟩

theorem extends_advance (ledger : Ledger) (id : TaskId) (next : Progress) :
    ledger.Extends (ledger.advance id next) :=
  ledger.extends_change id fun task => task.becomes_advance next

theorem extends_advanceAll (ledger : Ledger) (ids : List TaskId) (next : Progress) :
    ledger.Extends (ledger.advanceAll ids next) := by
  induction ids generalizing ledger with
  | nil => exact .rfl
  | cons id ids induction => exact (ledger.extends_advance id next).trans (induction _)

theorem Extends.size_le (extended : older.Extends newer) : older.size ≤ newer.size := by
  refine Nat.le_of_not_lt fun shrunk => ?_
  have within : newer.size < older.tasks.length := shrunk
  rcases extended newer.size _ (List.getElem?_eq_getElem within) with ⟨later, known, -⟩
  exact absurd (List.getElem?_eq_some_iff.mp known).1 (Nat.lt_irrefl _)

theorem get?_advance_other {id other : TaskId} (next : Progress) (different : other ≠ id) :
    (ledger.advance id next).get? other = ledger.get? other :=
  ledger.get?_change_other _ different

theorem get?_advanceAll_other {ids : List TaskId} {id : TaskId} (next : Progress)
    (absent : id ∉ ids) : (ledger.advanceAll ids next).get? id = ledger.get? id := by
  induction ids generalizing ledger with
  | nil => rfl
  | cons head rest induction =>
      rw [List.mem_cons, not_or] at absent
      exact (induction absent.2).trans (get?_advance_other next absent.1)

theorem isTerminal_congr {id : TaskId} (same : newer.get? id = older.get? id) :
    newer.isTerminal id = older.isTerminal id := by
  rw [isTerminal, isTerminal, same]

/-- A change of a task that leaves its progress leaves what has come to its end. -/
theorem isTerminal_change (ledger : Ledger) (id other : TaskId) {change : Task → Task}
    (kept : ∀ task, (change task).isTerminal = task.isTerminal) :
    (ledger.change id change).isTerminal other = ledger.isTerminal other := by
  by_cases same : other = id
  · subst same
    simp [isTerminal, Option.any_map, kept]
  · exact isTerminal_congr (ledger.get?_change_other change same)

/-- A step that is not an end neither brings a task to its end nor takes its end from it. -/
theorem isTerminal_advance_going (ledger : Ledger) (id other : TaskId) {next : Progress}
    (going : next.isTerminal = false) :
    (ledger.advance id next).isTerminal other = ledger.isTerminal other := by
  refine ledger.isTerminal_change id other fun task => ?_
  cases ended : task.progress.isTerminal <;>
    simp [Task.isTerminal, Task.advance, Progress.advance, ended, going]

theorem isTerminal_submitted (ledger : Ledger) (id other : TaskId) :
    (ledger.advance id .submitted).isTerminal other = ledger.isTerminal other :=
  ledger.isTerminal_advance_going id other rfl

theorem isTerminal_iff {id : TaskId} : ledger.isTerminal id = true ↔
    ∃ task, ledger.get? id = some task ∧ task.isTerminal = true := by
  simp [Ledger.isTerminal, Option.any_eq_true]

theorem Extends.isTerminal (extended : older.Extends newer) {id : TaskId}
    (terminal : older.isTerminal id = true) : newer.isTerminal id = true := by
  rcases isTerminal_iff.mp terminal with ⟨task, known, ended⟩
  rcases extended id task known with ⟨later, laterKnown, becomes⟩
  refine isTerminal_iff.mpr ⟨later, laterKnown, ?_⟩
  rw [Task.isTerminal, becomes.2 ended]
  exact ended

/-- A known task that is brought to an end has come to one. -/
theorem isTerminal_advance {id : TaskId} {next : Progress} {task : Task}
    (known : ledger.get? id = some task) (terminal : next.isTerminal = true) :
    (ledger.advance id next).isTerminal id = true := by
  simp [Ledger.isTerminal, advance, known, task.isTerminal_advance terminal]

theorem isTerminal_advanceAll {ids : List TaskId} {id : TaskId} {next : Progress} {task : Task}
    (known : ledger.get? id = some task) (member : id ∈ ids)
    (terminal : next.isTerminal = true) :
    (ledger.advanceAll ids next).isTerminal id = true := by
  induction ids generalizing ledger task with
  | nil => cases member
  | cons head rest induction =>
      rcases List.mem_cons.mp member with same | later
      · subst same
        have ended := isTerminal_advance known terminal
        exact (extends_advanceAll _ rest next).isTerminal ended
      · rcases ledger.extends_advance head next id task known with ⟨after, afterKnown, -⟩
        exact induction afterKnown later

end Ledger

end FlowClient
