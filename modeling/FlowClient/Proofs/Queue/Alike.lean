import FlowClient.Proofs.Queue.Moves

/-! Queues that differ in the end of one task alone. A queue looks at its tasks to see of
what kind they are and which of them have come to their end. It never looks at how they
ended, so queues that are alike stay so, whatever is done to both. -/

namespace FlowClient

/-- The task with another end. -/
def Task.endedBy (task : Task) (ending : Progress) : Task := { task with progress := ending }

namespace Ledger

/-- Ledgers of the same tasks. One of them has come to its end in both, and not
necessarily to the same. -/
structure Alike (id : TaskId) (one two : Ledger) : Prop where
  size : two.size = one.size
  others : ∀ other, other ≠ id → two.get? other = one.get? other
  ended : ∃ task ending, one.get? id = some task ∧ two.get? id = some (task.endedBy ending) ∧
    task.isTerminal = true ∧ ending.isTerminal = true

variable {id : TaskId} {one two : Ledger}

theorem Alike.isTerminal (alike : one.Alike id two) : two.isTerminal = one.isTerminal := by
  funext other
  by_cases same : other = id
  · subst same
    rcases alike.ended with ⟨task, ending, oneKnown, twoKnown, oneEnded, twoEnded⟩
    have oneProgress : task.progress.isTerminal = true := oneEnded
    simp [Ledger.isTerminal, oneKnown, twoKnown, Task.endedBy, Task.isTerminal, oneProgress, twoEnded]
  · exact isTerminal_congr (alike.others other same)

theorem Alike.kind (alike : one.Alike id two) (other : TaskId) :
    (two.get? other).map (·.kind) = (one.get? other).map (·.kind) := by
  by_cases same : other = id
  · subst same
    rcases alike.ended with ⟨task, ending, oneKnown, twoKnown, -, -⟩
    simp [oneKnown, twoKnown, Task.endedBy]
  · rw [alike.others other same]

theorem Alike.add (alike : one.Alike id two) (task : Task) :
    (one.add task).Alike id (two.add task) where
  size := by
    have size : two.tasks.length = one.tasks.length := alike.size
    simp [Ledger.size, Ledger.add, size]
  others := by
    intro other different
    have size : two.tasks.length = one.tasks.length := alike.size
    have others : two.tasks[other]? = one.tasks[other]? := alike.others other different
    simp [Ledger.get?, Ledger.add, List.getElem?_append, size, others]
  ended := by
    rcases alike.ended with ⟨old, ending, oneKnown, twoKnown, ended⟩
    have within {ledger : Ledger} {task : Task} (known : ledger.get? id = some task) :
        id < ledger.size := (List.getElem?_eq_some_iff.mp known).1
    exact ⟨old, ending, (one.get?_add_old task (within oneKnown)).trans oneKnown,
      (two.get?_add_old task (within twoKnown)).trans twoKnown, ended⟩

/-- A change that is blind to how a task ended makes no difference. -/
theorem Alike.change (alike : one.Alike id two) (changed : TaskId) {change : Task → Task}
    (blind : ∀ (task : Task) (ending : Progress),
      task.isTerminal = true → ending.isTerminal = true →
        (change task).isTerminal = true ∧ change (task.endedBy ending) = (change task).endedBy ending) :
    (one.change changed change).Alike id (two.change changed change) where
  size := by simpa using alike.size
  others := by
    intro other different
    by_cases same : other = changed
    · subst same
      simp [alike.others other different]
    · rw [get?_change_other _ change same, get?_change_other _ change same,
        alike.others other different]
  ended := by
    rcases alike.ended with ⟨task, ending, oneKnown, twoKnown, oneEnded, twoEnded⟩
    by_cases same : id = changed
    · subst same
      rcases blind task ending oneEnded twoEnded with ⟨ended, commutes⟩
      exact ⟨change task, ending, by simp [oneKnown], by simp [twoKnown, commutes], ended, twoEnded⟩
    · exact ⟨task, ending, (one.get?_change_other change same).trans oneKnown,
        (two.get?_change_other change same).trans twoKnown, oneEnded, twoEnded⟩

/-- What has come to its end takes no further step. -/
theorem Alike.advance (alike : one.Alike id two) (advanced : TaskId) (next : Progress) :
    (one.advance advanced next).Alike id (two.advance advanced next) := by
  refine alike.change advanced ?_
  intro task ending taskEnded ended
  have stays : task.progress.isTerminal = true := taskEnded
  simp [Task.advance, Progress.advance, Task.endedBy, Task.isTerminal, stays, ended]

theorem Alike.advanceAll (alike : one.Alike id two) (ids : List TaskId) (next : Progress) :
    (one.advanceAll ids next).Alike id (two.advanceAll ids next) := by
  induction ids generalizing one two with
  | nil => exact alike
  | cons head rest induction => exact induction (alike.advance head next)

/-- A task that has not come to its end yet may come to either of two. -/
theorem alike_advance (ledger : Ledger) {task : Task} (known : ledger.get? id = some task)
    {first second : Progress} (firstEnds : first.isTerminal = true)
    (secondEnds : second.isTerminal = true) :
    (ledger.advance id first).Alike id (ledger.advance id second) where
  size := by simp [advance]
  others := by
    intro other different
    rw [get?_advance_other _ different, get?_advance_other _ different]
  ended := by
    refine ⟨task.advance first, task.progress.advance second, ?_, ?_, ?_, ?_⟩
    · simp [advance, known]
    · simp [advance, known, Task.advance, Task.endedBy]
    · exact task.isTerminal_advance firstEnds
    · exact Progress.advance_isTerminal secondEnds

end Ledger

namespace Queue

/-- Queues that differ in the end of one task alone. -/
def Alike (id : TaskId) (one two : Queue) : Prop :=
  ∃ ledger, one.ledger.Alike id ledger ∧ two = { one with ledger }

variable {id : TaskId} {one two : Queue}

/-! ## What is looked at -/

theorem Alike.ledger (alike : one.Alike id two) : one.ledger.Alike id two.ledger := by
  rcases alike with ⟨ledger, ledgers, rfl⟩
  exact ledgers

theorem Alike.frame (alike : one.Alike id two) :
    two.mode = one.mode ∧ two.resetting = one.resetting ∧ two.pending = one.pending ∧
      two.inFlight = one.inFlight := by
  rcases alike with ⟨ledger, -, rfl⟩
  exact ⟨rfl, rfl, rfl, rfl⟩

theorem Alike.state (alike : one.Alike id two) : two.state = one.state := by
  rcases alike with ⟨ledger, -, rfl⟩
  rfl

theorem Alike.kind? (alike : one.Alike id two) : two.kind? = one.kind? :=
  funext fun other => alike.ledger.kind other

theorem Alike.refusal? (alike : one.Alike id two) (other : TaskId) :
    two.refusal? other = one.refusal? other := by
  have kinds := alike.kind?
  rcases alike with ⟨ledger, -, rfl⟩
  simp only [Queue.refusal?, isResetting, kinds]
  rfl

/-! ## What is done -/

theorem Alike.enter (alike : one.Alike id two) (task : Task) :
    (one.enter task).1.Alike id (two.enter task).1 ∧ (two.enter task).2 = (one.enter task).2 := by
  rcases alike with ⟨ledger, ledgers, rfl⟩
  exact ⟨⟨ledger.add task, ledgers.add task, rfl⟩, ledgers.size⟩

theorem Alike.setParam (alike : one.Alike id two) (changed : TaskId) (param : Param)
    (value : String) : (one.changeTask changed (·.setParam param value)).Alike id
      (two.changeTask changed (·.setParam param value)) := by
  rcases alike with ⟨ledger, ledgers, rfl⟩
  refine ⟨_, ledgers.change changed ?_, rfl⟩
  exact fun task ending ended _ => ⟨ended, rfl⟩

theorem Alike.advance (alike : one.Alike id two) (advanced : TaskId) (next : Progress) :
    (one.advance advanced next).Alike id (two.advance advanced next) := by
  rcases alike with ⟨ledger, ledgers, rfl⟩
  exact ⟨_, ledgers.advance advanced next, rfl⟩

theorem Alike.submit (alike : one.Alike id two) (submitted : TaskId) :
    (one.submit submitted).1.Alike id (two.submit submitted).1 ∧
      (two.submit submitted).2 = (one.submit submitted).2 := by
  have refusal := alike.refusal? submitted
  unfold Queue.submit
  cases refused : one.refusal? submitted with
  | some reason =>
      rw [refused] at refusal
      rw [refusal]
      exact ⟨alike.advance submitted _, rfl⟩
  | none =>
      rw [refused] at refusal
      rw [refusal]
      rcases alike with ⟨ledger, ledgers, rfl⟩
      exact ⟨⟨ledger, ledgers, rfl⟩, rfl⟩

theorem Alike.add (alike : one.Alike id two) (task : Task) :
    (one.add task).1.Alike id (two.add task).1 ∧ (two.add task).2 = (one.add task).2 := by
  rcases alike.enter task with ⟨entered, number⟩
  rcases entered.submit (one.enter task).2 with ⟨submitted, accepted⟩
  simp only [Queue.add, number, accepted]
  exact ⟨submitted, trivial⟩

theorem Alike.abortPending (alike : one.Alike id two) (reason : String) :
    (one.abortPending reason).Alike id (two.abortPending reason) := by
  rcases alike with ⟨ledger, ledgers, rfl⟩
  exact ⟨_, ledgers.advanceAll one.pending _, rfl⟩

theorem Alike.suspend (alike : one.Alike id two) : one.suspend.Alike id two.suspend := by
  rcases alike with ⟨ledger, ledgers, rfl⟩
  refine ⟨ledger, by simpa using ledgers, ?_⟩
  by_cases running : one.mode = .running <;> simp [Queue.suspend, running]

theorem Alike.start (alike : one.Alike id two) : one.start.Alike id two.start := by
  rcases alike with ⟨ledger, ledgers, rfl⟩
  refine ⟨ledger, by simpa using ledgers, ?_⟩
  by_cases suspended : one.mode = .suspended <;> simp [Queue.start, suspended]

theorem Alike.enable (alike : one.Alike id two) : one.enable.Alike id two.enable := by
  rcases alike with ⟨ledger, ledgers, rfl⟩
  refine ⟨ledger, by simpa using ledgers, ?_⟩
  by_cases disabled : one.mode = .disabled <;> simp [Queue.enable, disabled]

theorem Alike.disable (alike : one.Alike id two) : one.disable.Alike id two.disable := by
  rcases alike.abortPending disabledReason with ⟨aborted, ledgers, same⟩
  refine ⟨aborted, by simpa using ledgers, ?_⟩
  rcases alike with ⟨ledger, -, rfl⟩
  have tasks : (Queue.abortPending { one with ledger } disabledReason).ledger = aborted :=
    congrArg Queue.ledger same
  subst tasks
  by_cases waited : one.resetting.isSome && one.inFlight == one.resetting <;>
    simp [Queue.disable, Queue.abortPending, waited]

theorem Alike.reset (alike : one.Alike id two) (resetId : TaskId) :
    (one.reset resetId).1.Alike id (two.reset resetId).1 := by
  by_cases disabled : one.mode = .disabled
  · have alsoDisabled : two.mode = .disabled := alike.frame.1.trans disabled
    simpa [Queue.reset, disabled, alsoDisabled] using alike.advance resetId _
  · have enabled : two.mode ≠ .disabled := by rwa [alike.frame.1]
    rcases alike.abortPending discardedReason with ⟨aborted, ledgers, same⟩
    simp only [Queue.reset, disabled, enabled, if_false, same]
    exact ⟨aborted, ledgers, rfl⟩

theorem Alike.complete (alike : one.Alike id two) (returned : TaskId) :
    (one.complete returned).1.Alike id (two.complete returned).1 := by
  rcases alike with ⟨ledger, ledgers, rfl⟩
  refine ⟨ledger, by simpa using ledgers, ?_⟩
  by_cases flying : one.inFlight = some returned <;> simp [Queue.complete, flying]

/-- The next task is the same, since the same tasks are passed over. -/
theorem Alike.next (alike : one.Alike id two) :
    one.next.1.Alike id two.next.1 ∧ two.next.2 = one.next.2 := by
  have ended := alike.ledger.isTerminal
  rcases alike.frame with ⟨mode, -, pending, inFlight⟩
  simp only [Queue.next, ended, mode, pending, inFlight]
  split
  · split
    · rcases alike with ⟨ledger, ledgers, rfl⟩
      exact ⟨⟨ledger, ledgers, rfl⟩, rfl⟩
    · rcases alike.advance _ .submitted with ⟨ledger, ledgers, same⟩
      rw [same]
      exact ⟨⟨ledger, ledgers, rfl⟩, rfl⟩
  · exact ⟨alike, rfl⟩

end Queue

end FlowClient
