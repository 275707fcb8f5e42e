import FlowClient.Proofs.Queue.Placed
import FlowClient.Proofs.Queue.Progress
import Mathlib.Data.List.Induction
import Mathlib.Data.List.Nodup

/-! The time during which a reset has a queue to itself: from the moment in which it takes the
queue over, until it is through. What waited is discarded and what comes is kept out, but
what is in flight is left alone and comes back when it does; and nothing is dispatched
meanwhile but the reset, once. -/

namespace FlowClient.Queue

/-! ## Calls -/

/-- One thing that is done to a queue, or to a task that is made for it. -/
inductive Call where
  /-- Somebody makes a task, and does not hand it in yet. -/
  | make (task : Task)
  | setParam (id : TaskId) (param : Param) (value : String)
  /-- Somebody else brings a task further than it is. -/
  | advance (id : TaskId) (next : Progress)
  | submit (id : TaskId)
  | add (task : Task)
  | suspend
  | start
  | enable
  | disable
  | reset (id : TaskId)
  | next
  | complete (id : TaskId)

def take (queue : Queue) : Call → Queue
  | .make task => (queue.enter task).1
  | .setParam id param value => queue.changeTask id (·.setParam param value)
  | .advance id next => queue.advance id next
  | .submit id => (queue.submit id).1
  | .add task => (queue.add task).1
  | .suspend => queue.suspend
  | .start => queue.start
  | .enable => queue.enable
  | .disable => queue.disable
  | .reset id => (queue.reset id).1
  | .next => queue.next.1
  | .complete id => (queue.complete id).1

def takeAll (queue : Queue) (calls : List Call) : Queue := calls.foldl take queue

/-- A call, and the queue that it finds. -/
structure Step where
  before : Queue
  call : Call

namespace Step

def after (step : Step) : Queue := step.before.take step.call

/-- The tasks that a call hands in. -/
def handsIn (step : Step) : List TaskId :=
  match step.call with
  | .submit id => [id]
  | .add _ => [step.before.ledger.size]
  | .reset id => [id]
  | _ => []

/-- The tasks that a call takes out to be sent. -/
def dispatches (step : Step) : List TaskId :=
  match step.call with
  | .next => step.before.next.2.toList
  | _ => []

/-- Whether a call ends the time that the reset `id` has to itself: the reset comes back or comes
to an end elsewhere, another one takes the queue over, or nothing is wanted any more. -/
def closes (step : Step) (id : TaskId) : Bool :=
  match step.call with
  | .disable => true
  | .reset _ => true
  | .complete returned => returned == id && step.before.inFlight == some id
  | .advance other next => other == id && next.isTerminal
  | _ => false

end Step

/-- The calls to a queue, each with the queue that it finds. -/
def steps (queue : Queue) : List Call → List Step
  | [] => []
  | call :: calls => ⟨queue, call⟩ :: (queue.take call).steps calls

variable {queue : Queue} {id other : TaskId} {call : Call} {calls : List Call}

@[simp] theorem takeAll_concat (queue : Queue) (calls : List Call) (call : Call) :
    queue.takeAll (calls ++ [call]) = (queue.takeAll calls).take call := by
  simp [takeAll]

@[simp] theorem steps_concat (queue : Queue) (calls : List Call) (call : Call) :
    queue.steps (calls ++ [call]) = queue.steps calls ++ [⟨queue.takeAll calls, call⟩] := by
  induction calls generalizing queue with
  | nil => rfl
  | cons head calls induction =>
      rw [List.cons_append, steps, induction]
      rfl

/-! ## What was handed in -/

/-- No task is in more places than it was handed in times. -/
theorem count_places_take (queue : Queue) (call : Call) (id : TaskId) :
    (queue.take call).places.count id ≤
      queue.places.count id + (Step.handsIn ⟨queue, call⟩).count id := by
  have single (handed : TaskId) :
      (if id = handed then 1 else 0) = List.count id [handed] := by
    by_cases same : id = handed
    · simp [same]
    · simp [same, Ne.symm same]
  cases call with
  | make task => exact Nat.le_add_right _ _
  | setParam id param value => exact Nat.le_add_right _ _
  | advance id next => exact Nat.le_add_right _ _
  | submit handed => exact single handed ▸ queue.count_places_submit handed
  | add task =>
      exact single queue.ledger.size ▸ (queue.enter task).1.count_places_submit queue.ledger.size
  | suspend => simp [take, places]
  | start => simp [take, places]
  | enable => simp [take, places]
  | disable => exact Nat.le_add_right_of_le queue.count_places_disable
  | reset handed => exact single handed ▸ queue.count_places_reset handed
  | next => exact Nat.le_add_right_of_le queue.count_places_next
  | complete returned => exact Nat.le_add_right_of_le (queue.count_places_complete returned)

/-- The tasks that were handed in by these calls, in order. -/
def handedIn (queue : Queue) (calls : List Call) : List TaskId :=
  (queue.steps calls).flatMap Step.handsIn

theorem count_places_takeAll (calls : List Call) (id : TaskId) :
    (takeAll {} calls).places.count id ≤ (handedIn {} calls).count id := by
  induction calls using List.reverseRecOn with
  | nil => simp [takeAll, places]
  | append_singleton calls call induction =>
      have counted := (takeAll {} calls).count_places_take call id
      rw [takeAll_concat, handedIn, steps_concat, List.flatMap_append, List.flatMap_singleton,
        List.count_append]
      exact Nat.le_trans counted (Nat.add_le_add_right induction _)

/-- Of tasks that are handed in once, none is in flight and waits as well. -/
theorem single_takeAll (once : (handedIn {} calls).Nodup) (id : TaskId) :
    (takeAll {} calls).Single id :=
  Nat.le_trans (count_places_takeAll calls id) (List.nodup_iff_count_le_one.mp once id)

theorem not_mem_places_takeAll (fresh : id ∉ handedIn {} calls) :
    id ∉ (takeAll {} calls).places := by
  have counted := count_places_takeAll calls id
  rw [List.count_eq_zero.mpr fresh] at counted
  exact List.count_eq_zero.mp (Nat.le_zero.mp counted)

/-! ## The moment of a reset -/

/-- What a reset does to a queue that is not disabled. -/
structure TakesOver (queue : Queue) (id : TaskId) : Prop where
  accepted : (queue.reset id).2 = true
  discarded : ∀ other ∈ queue.pending, ∀ task, queue.task? other = some task →
    task.isTerminal = false →
      (queue.reset id).1.ledger.progress? other = some (.aborted discardedReason)
  /-- What has come to its end keeps it. -/
  kept : ∀ other, queue.ledger.isTerminal other = true →
    (queue.reset id).1.ledger.progress? other = queue.ledger.progress? other
  others : ∀ other ∉ queue.pending, (queue.reset id).1.task? other = queue.task? other
  flying : (queue.reset id).1.inFlight = queue.inFlight ∧ ∀ other, queue.inFlight = some other →
    (queue.reset id).1.task? other = queue.task? other
  alone : (queue.reset id).1.pending = [id]
  state : (queue.reset id).1.state = .reset

/-- What a reset does to a queue that is disabled. -/
structure Refused (queue : Queue) (id : TaskId) : Prop where
  unaccepted : (queue.reset id).2 = false
  rejected : (queue.reset id).1.ledger.progress? id = some (.rejected disabledReason)
  same : (queue.reset id).1 = queue.advance id (.rejected disabledReason)

theorem progress?_of_advance {ledger : Ledger} {task : Task} {next : Progress}
    (known : ledger.get? id = some task) (going : task.isTerminal = false) :
    (ledger.progress? id).map (·.advance next) = some next := by
  have unended : task.progress.isTerminal = false := going
  simp [Ledger.progress?, known, Progress.advance, unended]

theorem takesOver_of_single (id : TaskId) (enabled : queue.mode ≠ .disabled)
    (single : ∀ other, queue.inFlight = some other → queue.Single other) :
    queue.TakesOver id := by
  rcases queue.reset_frame id enabled with ⟨mode, pending, inFlight, resetting⟩
  have ledger : (queue.reset id).1.ledger = (queue.abortPending discardedReason).ledger := by
    rw [reset, if_neg enabled]
  have others : ∀ other ∉ queue.pending, (queue.reset id).1.task? other = queue.task? other := by
    intro other absent
    rw [task?, ledger]
    exact Ledger.get?_advanceAll_other _ absent
  refine ⟨by rw [reset, if_neg enabled], ?_, ?_, others, ⟨inFlight, ?_⟩, pending, ?_⟩
  · intro other waits task known going
    rw [ledger, progress?_abortPending, if_pos waits]
    exact progress?_of_advance known going
  · intro other terminal
    rcases Ledger.isTerminal_iff.mp terminal with ⟨task, known, ended⟩
    have before : queue.ledger.progress? other = some task.progress := by
      simp [Ledger.progress?, known]
    rw [before]
    exact Ledger.progress?_extends (queue.extends_reset id) before ended
  · intro other flies
    exact others other ((single other flies).not_waiting flies)
  · exact state_eq_reset.mpr ⟨by simp [mode], by simp [resetting]⟩

theorem refused_of_disabled {task : Task} (disabled : queue.mode = .disabled)
    (known : queue.task? id = some task) (going : task.isTerminal = false) : queue.Refused id := by
  have same : queue.reset id = (queue.advance id (.rejected disabledReason), false) := by
    rw [reset, if_pos disabled]
  refine ⟨by rw [same], ?_, by rw [same]⟩
  rw [same]
  exact (queue.ledger.progress?_advance id _).trans (progress?_of_advance known going)

/-! ## The time after it -/

/-- What holds of a queue that a reset has to itself: either the reset is the first that waits, or
it was dispatched and is in flight. -/
structure Reserved (queue : Queue) (id : TaskId) (dispatched : List TaskId) : Prop where
  enabled : queue.mode ≠ .disabled
  resetting : queue.resetting = some id
  known : queue.kind? id = some .reset
  placed : (dispatched = [] ∧ queue.inFlight ≠ some id ∧ queue.ledger.isTerminal id = false ∧
      ∃ rest, queue.pending = id :: rest) ∨
    (dispatched = [id] ∧ queue.inFlight = some id)

variable {dispatched : List TaskId}

/-- Resets apart, nothing is accepted. -/
theorem Reserved.refusal? (reserved : queue.Reserved id dispatched) {task : Task}
    (known : queue.task? other = some task) (ordinary : task.kind ≠ .reset) :
    queue.refusal? other = some resettingReason := by
  have notReset : task.kind.isReset = false := by simpa [TaskKind.isReset] using ordinary
  simp [Queue.refusal?, reserved.enabled, isResetting, reserved.resetting, kind?, known, notReset]

theorem Reserved.accepts (reserved : queue.Reserved id dispatched) : queue.refusal? id = none := by
  simp [Queue.refusal?, reserved.enabled, reserved.known, TaskKind.isReset]

section Keeping

variable {before after : Queue}

theorem Reserved.keep (reserved : before.Reserved id dispatched) (enabled : after.mode ≠ .disabled)
    (resetting : after.resetting = before.resetting)
    (extended : before.ledger.Extends after.ledger)
    (inFlight : after.inFlight = some id ↔ before.inFlight = some id)
    (unended : before.ledger.isTerminal id = false → after.ledger.isTerminal id = false)
    (pending : before.pending <+: after.pending) : after.Reserved id dispatched where
  enabled := enabled
  resetting := resetting.trans reserved.resetting
  known := kind?_extends extended reserved.known
  placed := by
    rcases reserved.placed with ⟨unsent, grounded, alive, rest, first⟩ | ⟨sent, flying⟩
    · refine .inl ⟨unsent, mt inFlight.mp grounded, unended alive, ?_⟩
      rw [first] at pending
      rcases pending with ⟨more, grown⟩
      exact ⟨rest ++ more, grown.symm⟩
    · exact .inr ⟨sent, inFlight.mpr flying⟩

/-- What does not touch the ledger, nor what waits and what is in flight, keeps it all. -/
theorem Reserved.of_frame (reserved : before.Reserved id dispatched)
    (enabled : after.mode ≠ .disabled)
    (frame : after.ledger = before.ledger ∧ after.pending = before.pending ∧
      after.inFlight = before.inFlight ∧ after.resetting = before.resetting) :
    after.Reserved id dispatched := by
  rcases frame with ⟨ledger, pending, inFlight, resetting⟩
  refine reserved.keep enabled resetting (ledger ▸ .rfl) (by rw [inFlight]) ?_ ?_
  · rw [ledger]
    exact fun unended => unended
  · exact pending ▸ List.prefix_rfl

end Keeping

theorem Reserved.enter (reserved : queue.Reserved id dispatched) (task : Task) :
    (queue.enter task).1.Reserved id dispatched := by
  have same := queue.ledger.get?_add_old task (lt_size_of_kind? reserved.known)
  refine reserved.keep reserved.enabled rfl (queue.extends_enter task) .rfl ?_ List.prefix_rfl
  exact (Ledger.isTerminal_congr same).trans

theorem Reserved.setParam (reserved : queue.Reserved id dispatched) (changed : TaskId)
    (param : Param) (value : String) :
    (queue.changeTask changed (·.setParam param value)).Reserved id dispatched := by
  have kept (task : Task) : (task.setParam param value).isTerminal = task.isTerminal := rfl
  have extended := queue.ledger.extends_change changed fun task => task.becomes_setParam param value
  refine reserved.keep reserved.enabled rfl extended .rfl ?_ List.prefix_rfl
  exact (queue.ledger.isTerminal_change changed id kept).trans

theorem Reserved.advance (reserved : queue.Reserved id dispatched) {next : Progress}
    (spared : other = id → next.isTerminal = false) :
    (queue.advance other next).Reserved id dispatched := by
  refine reserved.keep reserved.enabled rfl (queue.ledger.extends_advance other next) .rfl ?_
    List.prefix_rfl
  by_cases same : other = id
  · exact (queue.ledger.isTerminal_advance_going other id (spared same)).trans
  · exact (Ledger.isTerminal_congr (Ledger.get?_advance_other next (Ne.symm same))).trans

theorem Reserved.submit (reserved : queue.Reserved id dispatched) (other : TaskId) :
    (queue.submit other).1.Reserved id dispatched := by
  rw [Queue.submit]
  cases refused : queue.refusal? other with
  | some reason =>
      refine reserved.advance fun same => ?_
      rw [same, reserved.accepts] at refused
      cases refused
  | none =>
      exact reserved.keep reserved.enabled rfl .rfl .rfl (fun unended => unended)
        (List.prefix_append _ _)

/-- While one reset is on its way, the queue hands out nothing else, and that one once. -/
theorem Reserved.next (reserved : queue.Reserved id dispatched) :
    queue.next.1.Reserved id (dispatched ++ queue.next.2.toList) := by
  rcases reserved.placed with ⟨unsent, grounded, unended, rest, first⟩ | ⟨sent, flying⟩
  · have steps := queue.steps_next
    generalize queue.next = step at steps
    cases steps with
    | waits => simpa using reserved
    | clears ended =>
        rw [ended id (first ▸ List.mem_cons_self)] at unended
        cases unended
    | @dispatches skipped other later free pending ended ready =>
        have head : skipped = [] ∧ other = id := by
          rw [first] at pending
          cases skipped with
          | nil => exact ⟨rfl, (List.cons.inj pending).1.symm⟩
          | cons head skipped =>
              rw [ended id ((List.cons.inj pending).1 ▸ List.mem_cons_self)] at unended
              cases unended
        rcases head with ⟨rfl, rfl⟩
        have known : (queue.advance other .submitted).kind? other = some .reset :=
          (reserved.advance fun _ => rfl).known
        exact ⟨reserved.enabled, reserved.resetting, known, .inr ⟨by simp [unsent], rfl⟩⟩
  · rw [next_none_of_inFlight flying]
    simpa using reserved

theorem Reserved.complete (reserved : queue.Reserved id dispatched) (returned : TaskId)
    (awaited : returned = id → queue.inFlight ≠ some id) :
    (queue.complete returned).1.Reserved id dispatched := by
  rw [Queue.complete]
  split
  · rename_i flying
    have different : returned ≠ id := fun same => awaited same (same ▸ flying)
    have kept : queue.resetting ≠ some returned := by
      rw [reserved.resetting]
      exact fun same => different (Option.some.inj same).symm
    refine reserved.keep reserved.enabled (if_neg kept) .rfl ?_ (fun unended => unended)
      List.prefix_rfl
    simp [flying, different]
  · exact reserved

/-- What dispatches nothing leaves what was dispatched as it is. -/
theorem Reserved.append_nil (reserved : queue.Reserved id dispatched) :
    queue.Reserved id (dispatched ++ []) := by
  rwa [List.append_nil]

/-- One call, if it does not end the time that the reset has to itself. -/
theorem Reserved.take (reserved : queue.Reserved id dispatched) (call : Call)
    (goesOn : Step.closes ⟨queue, call⟩ id = false) :
    (queue.take call).Reserved id (dispatched ++ Step.dispatches ⟨queue, call⟩) := by
  cases call with
  | next => exact reserved.next
  | make task => exact (reserved.enter task).append_nil
  | setParam changed param value => exact (reserved.setParam changed param value).append_nil
  | advance other next =>
      have spared (same : other = id) : next.isTerminal = false := by
        simpa [Step.closes, same] using goesOn
      exact (reserved.advance spared).append_nil
  | submit other => exact (reserved.submit other).append_nil
  | add task => exact ((reserved.enter task).submit queue.ledger.size).append_nil
  | suspend =>
      have enabled : queue.suspend.mode ≠ .disabled := by
        rw [Queue.suspend]
        split
        · simp
        · exact reserved.enabled
      exact (reserved.of_frame enabled queue.suspend_frame).append_nil
  | start =>
      have enabled : queue.start.mode ≠ .disabled := mt queue.mode_start.mp reserved.enabled
      exact (reserved.of_frame enabled queue.start_frame).append_nil
  | enable =>
      have enabled : queue.enable.mode ≠ .disabled := by
        rw [Queue.enable, if_neg reserved.enabled]
        exact reserved.enabled
      exact (reserved.of_frame enabled queue.enable_frame).append_nil
  | disable => cases goesOn
  | reset other => cases goesOn
  | complete returned =>
      have awaited (same : returned = id) : queue.inFlight ≠ some id := by
        intro flying
        simp [Step.closes, same, flying] at goesOn
      exact (reserved.complete returned awaited).append_nil

/-- Any calls that do not end that time. -/
theorem Reserved.takeAll (reserved : queue.Reserved id dispatched) {calls : List Call}
    (goesOn : ∀ step ∈ queue.steps calls, step.closes id = false) :
    (queue.takeAll calls).Reserved id
        (dispatched ++ (queue.steps calls).flatMap Step.dispatches) ∧
      ∀ step ∈ queue.steps calls, ∃ sent, step.before.Reserved id sent := by
  induction calls using List.reverseRecOn with
  | nil => simpa [Queue.takeAll, Queue.steps] using reserved
  | append_singleton calls call induction =>
      rw [steps_concat] at goesOn
      rcases induction fun step member => goesOn step (List.mem_append_left _ member) with
        ⟨before, throughout⟩
      rw [takeAll_concat, steps_concat, List.flatMap_append, List.flatMap_singleton, ← List.append_assoc]
      refine ⟨before.take call (goesOn _ (by simp)), fun step member => ?_⟩
      rcases List.mem_append.mp member with earlier | last
      · exact throughout step earlier
      · rw [List.mem_singleton.mp last]
        exact ⟨_, before⟩

/-- What is kept of the queue and what is kept out of it, while the reset `id` has it to itself. -/
structure Guarded (queue : Queue) (id : TaskId) (calls : List Call) : Prop where
  dispatches : (queue.steps calls).flatMap Step.dispatches = [] ∨
    (queue.steps calls).flatMap Step.dispatches = [id]
  refuses : ∀ step ∈ queue.steps calls, ∀ other, step.call = .submit other →
    ∀ task, step.before.task? other = some task → task.kind ≠ .reset →
      (step.before.submit other).2 = false ∧
        step.after.task? other = some (task.advance (.rejected resettingReason))
  refusesNew : ∀ step ∈ queue.steps calls, ∀ task, step.call = .add task → task.kind ≠ .reset →
    (step.before.add task).2 = none ∧
      step.after.task? step.before.ledger.size = some (task.advance (.rejected resettingReason))

theorem Reserved.submit_refused (reserved : queue.Reserved id dispatched) {task : Task}
    (known : queue.task? other = some task) (ordinary : task.kind ≠ .reset) :
    (queue.submit other).2 = false ∧
      (queue.submit other).1.task? other = some (task.advance (.rejected resettingReason)) := by
  have stored : queue.ledger.get? other = some task := known
  rw [Queue.submit, reserved.refusal? known ordinary]
  exact ⟨rfl, by simp [Queue.advance, Ledger.advance, task?, stored]⟩

theorem guarded_of_reserved (reserved : queue.Reserved id [])
    (goesOn : ∀ step ∈ queue.steps calls, step.closes id = false) : queue.Guarded id calls := by
  rcases reserved.takeAll goesOn with ⟨after, throughout⟩
  refine ⟨?_, ?_, ?_⟩
  · exact after.placed.imp (fun waits => waits.1) (fun flies => flies.1)
  · rintro ⟨before, call⟩ member other rfl task known ordinary
    rcases throughout _ member with ⟨sent, reserved⟩
    exact reserved.submit_refused known ordinary
  · rintro ⟨before, call⟩ member task rfl ordinary
    rcases throughout _ member with ⟨sent, reserved⟩
    have known : (before.enter task).1.task? before.ledger.size = some task :=
      before.ledger.get?_add_new task
    rcases (reserved.enter task).submit_refused known ordinary with ⟨refused, rejected⟩
    exact ⟨if_neg (ne_true_of_eq_false refused), rejected⟩

/-- A reset of a queue to which no task was handed in twice, by a task that was not handed in yet:
if the queue is not disabled, the reset takes it over and has it to itself until it is through;
else it is refused. -/
theorem reset_of_handedOnce {calls : List Call} (once : (handedIn {} calls).Nodup) {task : Task}
    (known : (takeAll {} calls).task? id = some task) (kind : task.kind = .reset)
    (going : task.isTerminal = false) (fresh : id ∉ handedIn {} calls) :
    ((takeAll {} calls).mode ≠ .disabled → (takeAll {} calls).TakesOver id ∧
      ∀ later, (∀ step ∈ ((takeAll {} calls).reset id).1.steps later, step.closes id = false) →
        ((takeAll {} calls).reset id).1.Guarded id later) ∧
    ((takeAll {} calls).mode = .disabled → (takeAll {} calls).Refused id) := by
  have single := single_takeAll once
  have nowhere := not_mem_places_takeAll fresh
  generalize takeAll {} calls = queue at *
  refine ⟨fun enabled => ?_, fun disabled => refused_of_disabled disabled known going⟩
  have takesOver := takesOver_of_single id enabled fun other _ => single other
  refine ⟨takesOver, fun later goesOn => guarded_of_reserved ?_ goesOn⟩
  rcases queue.reset_frame id enabled with ⟨mode, pending, inFlight, resetting⟩
  have apart : queue.inFlight ≠ some id ∧ id ∉ queue.pending := by
    simpa [places] using nowhere
  have same : (queue.reset id).1.task? id = some task := (takesOver.others id apart.2).trans known
  have stored : (queue.reset id).1.ledger.get? id = some task := same
  refine ⟨by simp [mode], resetting, by simp [kind?, same, kind], .inl ⟨rfl, ?_, ?_, [], pending⟩⟩
  · exact inFlight ▸ apart.1
  · simp [Ledger.isTerminal, stored, going]

/-- A load is through, a poll is in flight and a sync waits, when somebody asks for another load. -/
def callsBeforeReset : List Call :=
  [.make (Task.reset [] false), .reset 0, .next, .complete 0, .add { kind := .news },
    .add { kind := .sync }, .next, .make (Task.reset [] false)]

/-- The poll comes back, and then it is the turn of the load; another poll is kept out. -/
theorem reset_of_callsBeforeReset :
    (handedIn {} callsBeforeReset).Nodup ∧ 3 ∉ handedIn {} callsBeforeReset ∧
      (takeAll {} callsBeforeReset).task? 3 = some (Task.reset [] false) ∧
      (takeAll {} callsBeforeReset).inFlight = some 1 ∧
      (takeAll {} callsBeforeReset).pending = [2] ∧
      (takeAll {} callsBeforeReset).TakesOver 3 ∧
      ((takeAll {} callsBeforeReset).reset 3).1.Guarded 3
        [.next, .add { kind := .news }, .complete 1, .suspend, .start, .next, .next] :=
  have once : (handedIn {} callsBeforeReset).Nodup := by decide +kernel
  have fresh : 3 ∉ handedIn {} callsBeforeReset := by decide +kernel
  have known : (takeAll {} callsBeforeReset).task? 3 = some (Task.reset [] false) := by
    decide +kernel
  have enabled : (takeAll {} callsBeforeReset).mode ≠ .disabled := by decide +kernel
  have ⟨takesOver, guarded⟩ := (reset_of_handedOnce once known rfl rfl fresh).1 enabled
  ⟨once, fresh, known, by decide +kernel, by decide +kernel, takesOver,
    guarded _ (by decide +kernel)⟩

end FlowClient.Queue
