import FlowClient.Proofs.Queue.Progress
import FlowClient.Proofs.Session.Loading
import FlowClient.Proofs.Session.Released

/-! What becomes of a task while it is in flight. Nobody takes it back, but there is one task
for all who hold it: whoever hands it in once more may have it rejected, and while it also
waits it may be aborted with what waits. The first of these stays, whatever the reply. -/

namespace FlowClient.Session

variable {session : Session} {turns : List Turn} {input : Input} {id : TaskId}

/-! ## Cancellations -/

/-- Why a task is rejected that is handed to `run`. -/
def runRefusal? (session : Session) (id : TaskId) : Option String :=
  match session.queue.kind? id with
  | none => none
  | some kind =>
      if session.contact = .disconnected then some disconnectedReason
      else if !kind.isRoutable then some s!"{kind.title} tasks cannot be run directly"
      else session.queue.refusal? id

/-- Why a turn aborts what waits. -/
def Turn.sweeps? (turn : Turn) : Option String :=
  match turn.input with
  | .disconnect => some Queue.disabledReason
  | .shutdown => some Queue.disabledReason
  | .reset => if turn.setsOut then some Queue.discardedReason else none
  | .updateFilter _ => if turn.setsOut then some Queue.discardedReason else none
  | _ => none

/-- What a turn makes of a task while that is in flight. -/
def Turn.cancellation? (turn : Turn) (id : TaskId) : Option Progress :=
  match turn.input with
  | .run handed => if handed = id then (turn.before.runRefusal? id).map .rejected else none
  | _ => if id ∈ turn.before.queue.pending then turn.sweeps?.map .aborted else none

/-- What was first made of a task after it was dispatched. -/
def cancellation? (turns : List Turn) (id : TaskId) : Option Progress :=
  turns.foldl (fun cancelled turn =>
    if id ∈ turn.dispatched then none else cancelled.or (turn.cancellation? id)) none

@[simp] theorem cancellation?_concat (turns : List Turn) (turn : Turn) (id : TaskId) :
    cancellation? (turns ++ [turn]) id = if id ∈ turn.dispatched then none
      else (cancellation? turns id).or (turn.cancellation? id) := by
  simp [cancellation?]

theorem isTerminal_of_cancels {turn : Turn} {cancelled : Progress}
    (found : turn.cancellation? id = some cancelled) : cancelled.isTerminal = true := by
  unfold Turn.cancellation? at found
  split at found
  · split at found
    · rcases Option.map_eq_some_iff.mp found with ⟨reason, -, rfl⟩
      rfl
    · cases found
  · split at found
    · rcases Option.map_eq_some_iff.mp found with ⟨reason, -, rfl⟩
      rfl
    · cases found

theorem isTerminal_of_cancellation? {cancelled : Progress}
    (found : cancellation? turns id = some cancelled) : cancelled.isTerminal = true := by
  induction turns using List.reverseRecOn with
  | nil => cases found
  | append_singleton turns turn induction =>
      rw [cancellation?_concat] at found
      split at found
      · cases found
      · rcases Option.or_eq_some_iff.mp found with earlier | ⟨-, now⟩
        · exact induction earlier
        · exact isTerminal_of_cancels now

/-! ## What calls do to tasks -/

section Calls

variable {progress : Progress}

theorem progress?_update (known : id < session.queue.ledger.size) :
    session.update.1.queue.ledger.progress? id = session.queue.ledger.progress? id := by
  rw [update]
  split
  · rfl
  · exact Queue.progress?_add _ known

theorem progress?_runCommand (args : List String) (known : id < session.queue.ledger.size) :
    (session.runCommand args).1.queue.ledger.progress? id = session.queue.ledger.progress? id := by
  rw [runCommand]
  split
  · rfl
  · exact Queue.progress?_add (Task.command args) known

theorem progress?_run_other {handed : TaskId} (different : handed ≠ id) :
    (session.run handed).queue.ledger.progress? id = session.queue.ledger.progress? id := by
  have rejected (reason : String) : (session.queue.advance handed (.rejected reason)).ledger.progress? id =
      session.queue.ledger.progress? id :=
    Ledger.progress?_congr (Ledger.get?_advance_other _ (Ne.symm different))
  rw [run]
  split
  · rfl
  split
  · exact rejected _
  split
  · exact rejected _
  · simp only
    split
    · exact Queue.progress?_submit_other handed (Ne.symm different)
    · exact (Queue.progress?_submit_other handed (Ne.symm different)).trans
        (session.queue.ledger.progress?_setParam handed id _ _)

theorem refusal?_setParam (queue : Queue) (changed id : TaskId) (param : Param) (value : String) :
    (queue.changeTask changed (·.setParam param value)).refusal? id = queue.refusal? id := by
  have kind : (queue.changeTask changed (·.setParam param value)).kind? id = queue.kind? id := by
    by_cases same : id = changed
    · subst same
      simp only [Queue.kind?, Queue.task?, Queue.changeTask, Ledger.get?_change_same, Option.map_map]
      rfl
    · simp [Queue.kind?, Queue.task?, Queue.changeTask, Ledger.get?_change_other _ _ same]
  simp only [Queue.refusal?, kind]
  rfl

/-- A task that is handed to `run` is rejected, or nothing comes of it yet. -/
theorem progress?_run (session : Session) (id : TaskId) :
    (session.run id).queue.ledger.progress? id = match session.runRefusal? id with
      | some reason => (session.queue.ledger.progress? id).map (·.advance (.rejected reason))
      | none => session.queue.ledger.progress? id := by
  have rejected (reason : String) : (session.queue.advance id (.rejected reason)).ledger.progress? id =
      (session.queue.ledger.progress? id).map (·.advance (.rejected reason)) :=
    session.queue.ledger.progress?_advance id _
  unfold run runRefusal?
  cases session.queue.kind? id with
  | none => rfl
  | some kind =>
      simp only
      split
      · exact rejected _
      split
      · exact rejected _
      · simp only
        split
        · exact session.queue.progress?_submit id
        · rename_i file _
          have submitted := Queue.progress?_submit
            (session.queue.changeTask id (·.setParam .clientPar file.name)) id
          have same : (session.queue.changeTask id
              (·.setParam .clientPar file.name)).ledger.progress? id =
                session.queue.ledger.progress? id :=
            session.queue.ledger.progress?_setParam id id _ _
          rw [refusal?_setParam, same] at submitted
          exact submitted

/-- A reset that sets out aborts what waits. -/
theorem progress?_reset (enabled : session.contact ≠ .disconnected →
    session.shuttingDown = false → session.queue.mode ≠ .disabled)
    (known : id < session.queue.ledger.size) :
    session.reset.queue.ledger.progress? id =
      if (!session.queue.isResetting && session.reset.queue.isResetting) = true ∧
          id ∈ session.queue.pending then
        (session.queue.ledger.progress? id).map (·.advance (.aborted Queue.discardedReason))
      else session.queue.ledger.progress? id := by
  rcases session.reset_cases with ⟨-, stays⟩ | ⟨ended, connected, going, setsOut⟩
  · simp [stays]
  · have enabled := enabled connected going
    have idle : session.queue.isResetting = false := by
      simpa [Queue.isResetting, Queue.state_eq_reset, enabled] using ended
    have loaded := Queue.progress?_load session.loadTask known enabled
    have resetting := (Queue.reset_frame (session.queue.enter session.loadTask).1
      session.queue.ledger.size enabled).2.2.2
    have queue : session.reset.queue =
        ((session.queue.enter session.loadTask).1.reset session.queue.ledger.size).1 := by
      rw [setsOut]
      exact session.queue.load_suspend session.loadTask
    have begun : session.reset.queue.isResetting = true := by
      rw [queue, Queue.isResetting, resetting]
      rfl
    rw [begun, idle, queue, loaded]
    simp

theorem progress?_updateFilter (coherent : session.Coherent)
    (known : id < session.queue.ledger.size) (filter : SuiteFilter) :
    (session.updateFilter filter).queue.ledger.progress? id =
      if (!session.queue.isResetting && (session.updateFilter filter).queue.isResetting) = true ∧
          id ∈ session.queue.pending then
        (session.queue.ledger.progress? id).map (·.advance (.aborted Queue.discardedReason))
      else session.queue.ledger.progress? id := by
  let changed : Session := { session with filter := session.filter.update filter }
  simp only [updateFilter]
  split
  · simp
  split
  · rename_i autoAdd
    let task := Task.autoRegister (session.filter.update filter).autoAddNew
    have still : (session.queue.add task).1.isResetting = session.queue.isResetting := by
      rw [Queue.isResetting, (session.queue.add_frame task).2.2, Queue.isResetting]
    have added := Queue.progress?_add task known
    simpa [follow, task, still] using added
  · exact changed.progress?_reset coherent.enabled known

/-- Nothing waits while the session is disconnected, so that nothing is lost when it connects. -/
theorem progress?_connect (coherent : session.Coherent) (tidy : session.queue.Tidy)
    (known : id < session.queue.ledger.size) :
    session.connect.queue.ledger.progress? id = session.queue.ledger.progress? id := by
  rw [connect]
  split
  · rfl
  · rename_i acts
    have disconnected : session.contact = .disconnected := by
      by_contra connected
      simp [connected] at acts
    have empty : session.queue.pending = [] := by
      apply tidy
      simpa [standing, disconnected] using coherent.disabled
    have ledger : session.reconnected.queue.ledger = session.queue.ledger := by simp
    have pending : session.reconnected.queue.pending = [] := by simpa using empty
    have enabled : session.reconnected.queue.mode ≠ .disabled := by
      simpa [standing] using congrArg Standing.disabled session.standing_reconnected
    rw [← ledger] at known ⊢
    show (if session.reconnected.mirror.isEmpty then session.reconnected.reset
      else session.reconnected.update.1).queue.ledger.progress? id = _
    split
    · have loaded := session.reconnected.progress?_reset (fun _ _ => enabled) known
      rw [loaded, pending]
      simp
    · exact progress?_update known

/-- Nothing waits in a session that is disconnected or shut down already. -/
theorem progress?_disconnect (coherent : session.Coherent) (tidy : session.queue.Tidy) :
    session.disconnect.queue.ledger.progress? id =
      if id ∈ session.queue.pending then
        (session.queue.ledger.progress? id).map (·.advance (.aborted Queue.disabledReason))
      else session.queue.ledger.progress? id := by
  rw [disconnect]
  split
  · rename_i disconnected
    have empty : session.queue.pending = [] := by
      apply tidy
      simpa [standing, disconnected] using coherent.disabled
    simp [empty]
  · simpa using session.queue.progress?_disable id

theorem progress?_shutdown (coherent : session.Coherent) (tidy : session.queue.Tidy) :
    session.shutdown.queue.ledger.progress? id =
      if id ∈ session.queue.pending then
        (session.queue.ledger.progress? id).map (·.advance (.aborted Queue.disabledReason))
      else session.queue.ledger.progress? id := by
  rw [shutdown]
  split
  · rename_i closing
    have empty : session.queue.pending = [] := by
      apply tidy
      simpa [standing, closing] using coherent.disabled
    simp [empty]
  · simpa using session.queue.progress?_disable id

/-! ## One turn -/

/-- What a call makes of a task is its cancellation, or nothing. -/
theorem progress_of_call (coherent : session.Coherent) (tidy : session.queue.Tidy)
    (call : input.isCall = true) (known : session.queue.ledger.progress? id = some progress) :
    (session.receive input).queue.ledger.progress? id =
      some ((Turn.cancellation? ⟨session, input⟩ id).elim progress progress.advance) := by
  have size := Ledger.lt_size_of_progress? known
  have untouched (same : (session.receive input).queue.ledger.progress? id =
      session.queue.ledger.progress? id) (spared : Turn.cancellation? ⟨session, input⟩ id = none) :
      (session.receive input).queue.ledger.progress? id =
        some ((Turn.cancellation? ⟨session, input⟩ id).elim progress progress.advance) := by
    rw [same, spared, known]
    rfl
  have swept (reason : String) (sweeps : Bool)
      (cancelled : Turn.cancellation? ⟨session, input⟩ id =
        if id ∈ session.queue.pending then
          (if sweeps then some reason else none).map .aborted else none)
      (aborted : (session.receive input).queue.ledger.progress? id =
        if sweeps = true ∧ id ∈ session.queue.pending then
          (session.queue.ledger.progress? id).map (·.advance (.aborted reason))
        else session.queue.ledger.progress? id) :
      (session.receive input).queue.ledger.progress? id =
        some ((Turn.cancellation? ⟨session, input⟩ id).elim progress progress.advance) := by
    rw [cancelled, aborted, known]
    cases sweeps <;> by_cases waits : id ∈ session.queue.pending <;> simp [waits]
  have idles (idle : Turn.sweeps? ⟨session, input⟩ = none) (unran : ∀ handed, input ≠ .run handed) :
      Turn.cancellation? ⟨session, input⟩ id = none := by
    cases input <;> simp_all [Turn.cancellation?]
  cases input with
  | make kind args params => exact untouched (Queue.progress?_enter _ size) (idles rfl (by simp))
  | setParam changed param value =>
      exact untouched (session.queue.ledger.progress?_setParam changed id param value)
        (idles rfl (by simp))
  | runCommand args => exact untouched (progress?_runCommand args size) (idles rfl (by simp))
  | run handed =>
      by_cases same : handed = id
      · subst same
        have ran := session.progress?_run handed
        simp only [Turn.cancellation?, if_true]
        rw [receive, ran, known]
        cases session.runRefusal? handed <;> rfl
      · exact untouched (progress?_run_other same) (by simp [Turn.cancellation?, same])
  | update => exact untouched (progress?_update size) (idles rfl (by simp))
  | tick => exact untouched (progress?_update size) (idles rfl (by simp))
  | refresh =>
      have polled : (session.receive .refresh).queue.ledger = session.update.1.queue.ledger := by
        simp [receive, refresh]
      exact untouched (polled ▸ progress?_update size) (idles rfl (by simp))
  | reset => exact swept _ _ rfl (progress?_reset coherent.enabled size)
  | connect => exact untouched (progress?_connect coherent tidy size) (idles rfl (by simp))
  | disconnect =>
      exact swept _ true rfl (by simpa [receive] using progress?_disconnect coherent tidy)
  | updateFilter filter => exact swept _ _ rfl (progress?_updateFilter coherent size filter)
  | subscribe => exact untouched rfl (idles rfl (by simp))
  | unsubscribe observer => exact untouched rfl (idles rfl (by simp))
  | shutdown => exact swept _ true rfl (by simpa [receive] using progress?_shutdown coherent tidy)
  | takeStep => cases call
  | complete outcome => cases call

/-- What comes back ends its task as the outcome has it, unless the task has its end already. -/
theorem progress_complete (flying : session.queue.inFlight = some id) {kind : TaskKind}
    (kindKnown : session.queue.kind? id = some kind)
    (known : session.queue.ledger.progress? id = some progress) (outcome : Outcome) :
    (session.receive (.complete outcome)).queue.ledger.progress? id =
      some (progress.advance (kind.ending outcome)) := by
  have extended := (endsAs_taskCompleted kindKnown outcome).extends
  rw [receive_complete flying]
  apply Ledger.progress?_extends extended
  · refine (Ledger.progress?_advance _ id _).trans ?_
    simp [takenBack, known]
  · exact Progress.advance_isTerminal (kind.isTerminal_ending outcome)

end Calls

/-! ## Runs -/

theorem progress_of_dispatched (coherent : session.Coherent)
    (earlier : ∀ id, session.queue.inFlight = some id →
      session.queue.ledger.progress? id = some ((cancellation? turns id).getD .submitted))
    (flying : (session.receive .takeStep).queue.inFlight = some id) :
    (session.receive .takeStep).queue.ledger.progress? id =
      some ((cancellation? (turns ++ [⟨session, .takeStep⟩]) id).getD .submitted) := by
  have dispatched := dispatched_takeStep coherent
  have after : (session.receive .takeStep).queue = session.queue.next.1 := rfl
  have spared : Turn.cancellation? ⟨session, .takeStep⟩ id = none := by
    simp [Turn.cancellation?, Turn.sweeps?]
  rw [cancellation?_concat, dispatched, spared, Option.or_none]
  rw [after] at flying ⊢
  have steps := session.queue.steps_next
  generalize session.queue.next = step at steps flying
  cases steps with
  | waits => simpa using earlier id flying
  | clears ended => simpa using earlier id flying
  | @dispatches skipped next rest free pending ended ready =>
      have same : next = id := Option.some.inj flying
      subst same
      rcases coherent.sound.pending_known next (by simp [pending]) with ⟨kind, known⟩
      rcases Queue.kind?_eq_some known with ⟨task, taskKnown, -⟩
      have alive : task.progress.isTerminal = false := by
        simpa [Ledger.isTerminal, taskKnown, Task.isTerminal] using ready
      have submitted : (session.queue.ledger.advance next .submitted).progress? next =
          some .submitted := by
        rw [Ledger.progress?_advance]
        simp [Ledger.progress?, taskKnown, Progress.advance, alive]
      rw [if_pos (by simp)]
      exact submitted

theorem progress_of_called (coherent : session.Coherent) (tidy : session.queue.Tidy)
    (call : input.isCall = true)
    (earlier : session.queue.ledger.progress? id =
      some ((cancellation? turns id).getD .submitted)) :
    (session.receive input).queue.ledger.progress? id =
      some ((cancellation? (turns ++ [⟨session, input⟩]) id).getD .submitted) := by
  rw [progress_of_call coherent tidy call earlier, cancellation?_concat,
    dispatched_of_call call, if_neg List.not_mem_nil]
  cases before : cancellation? turns id with
  | none => cases Turn.cancellation? ⟨session, input⟩ id <;> rfl
  | some cancelled =>
      have stays : cancelled.isTerminal = true := isTerminal_of_cancellation? before
      cases Turn.cancellation? ⟨session, input⟩ id <;> simp [Progress.advance, stays]

/-- A task in flight is submitted, until a turn cancels it. -/
theorem progress_of_flying (options : SessionOptions) (inputs : List Input) :
    ∀ id, ((new options).receiveAll inputs).queue.inFlight = some id →
      ((new options).receiveAll inputs).queue.ledger.progress? id =
        some ((cancellation? ((new options).turns inputs) id).getD .submitted) := by
  induction inputs using List.reverseRecOn with
  | nil => exact fun id flying => by cases flying
  | append_singleton inputs input induction =>
      have coherent := coherent_receiveAll options inputs
      have tidy := tidy_receiveAll options inputs
      intro id
      rw [receiveAll_concat, turns_concat]
      by_cases call : input.isCall = true
      · rw [inFlight_of_call coherent.sound input call]
        exact fun flying => progress_of_called coherent tidy call (induction id flying)
      · cases input with
        | takeStep => exact progress_of_dispatched coherent induction
        | complete outcome =>
            rw [inFlight_complete coherent.sound outcome]
            exact nofun
        | _ => exact absurd rfl call

/-! ## Tasks that nobody hands in again -/

theorem single_receive (sound : session.queue.Sound) (single : session.queue.Single id)
    (input : Input) (spared : input = .run id →
      ∀ kind, (session.receive input).queue.kind? id = some kind → kind.isRoutable = false) :
    (session.receive input).queue.Single id := by
  by_cases sets : ∃ changed param value, input = .setParam changed param value
  · rcases sets with ⟨changed, param, value, rfl⟩
    exact single.of_same rfl rfl
  cases queueing_receive sound input with
  | moves call moves =>
      refine single.move sound moves fun named => spared ?_
      cases input with
      | setParam changed param value => exact absurd ⟨changed, param, value, rfl⟩ sets
      | run handed => rw [List.mem_singleton.mp named]
      | _ => cases named
  | disconnects same => exact same ▸ single.disable
  | closes same => exact same ▸ single.disable
  | dispatches same => exact same ▸ single.next
  | idles free same => exact same ▸ single
  | returns other ending flying terminal moves =>
      have back : ((session.queue.complete other).1.advance other ending).Single id :=
        single.complete other
      exact back.move ((sound.complete flying).advance other ending) moves nofun

/-- A task that was not handed to `run`, or must not be, is in one place at most. -/
theorem single_receiveAll (options : SessionOptions) (inputs : List Input) (id : TaskId)
    (spared : ∀ turn ∈ (new options).turns inputs, turn.input = .run id → ∀ kind,
      ((new options).receiveAll inputs).queue.kind? id = some kind → kind.isRoutable = false) :
    ((new options).receiveAll inputs).queue.Single id := by
  induction inputs using List.reverseRecOn with
  | nil => exact Queue.single_new id
  | append_singleton inputs input induction =>
      rw [receiveAll_concat, turns_concat] at *
      have sound := (coherent_receiveAll options inputs).sound
      have extended := extends_receive sound input
      have single : ((new options).receiveAll inputs).queue.Single id := by
        refine induction fun turn member ran kind known => ?_
        exact spared turn (List.mem_append_left _ member) ran kind (Queue.kind?_extends extended known)
      exact single_receive sound single input
        (spared _ (List.mem_append_right _ (List.mem_singleton_self _)))

/-- Nothing cancels a task that waits nowhere and that is not run. -/
theorem cancels_of_single (unran : input ≠ .run id) (single : session.queue.Single id)
    (flying : session.queue.inFlight = some id) :
    Turn.cancellation? ⟨session, input⟩ id = none := by
  have aside := single.not_waiting flying
  cases input with
  | run handed =>
      have different : handed ≠ id := fun same => unran (congrArg Input.run same)
      simp [Turn.cancellation?, different]
  | _ => simp [Turn.cancellation?, aside]

/-- What is in flight after a turn set out in it, or was in flight before. -/
theorem dispatched_or_flying (coherent : session.Coherent)
    (flying : (session.receive input).queue.inFlight = some id) :
    id ∈ Turn.dispatched ⟨session, input⟩ ∨ session.queue.inFlight = some id := by
  by_cases call : input.isCall = true
  · exact .inr ((inFlight_of_call coherent.sound input call).symm.trans flying)
  · cases input with
    | takeStep =>
        rw [dispatched_takeStep coherent]
        have after : (session.receive .takeStep).queue = session.queue.next.1 := rfl
        rw [after] at flying
        have steps := session.queue.steps_next
        generalize session.queue.next = step at steps flying
        cases steps with
        | waits => exact .inr flying
        | clears ended => exact .inr flying
        | dispatches free pending ended ready =>
            exact .inl (Option.mem_toList.mpr flying)
    | complete outcome =>
        rw [inFlight_complete coherent.sound outcome] at flying
        cases flying
    | _ => exact absurd rfl call

/-- What holds when a task sets out, and is kept by each turn that leaves it in flight, holds
for as long as the task is in flight. -/
@[elab_as_elim]
theorem flying_induction (options : SessionOptions) {motive : List Input → Prop}
    (sets : ∀ inputs input, id ∈ Turn.dispatched ⟨(new options).receiveAll inputs, input⟩ →
      motive (inputs ++ [input]))
    (stays : ∀ inputs input, ((new options).receiveAll inputs).queue.inFlight = some id →
      id ∉ Turn.dispatched ⟨(new options).receiveAll inputs, input⟩ → motive inputs →
      motive (inputs ++ [input]))
    (inputs : List Input) (flying : ((new options).receiveAll inputs).queue.inFlight = some id) :
    motive inputs := by
  induction inputs using List.reverseRecOn with
  | nil => cases flying
  | append_singleton inputs input induction =>
      rw [receiveAll_concat] at flying
      by_cases now : id ∈ Turn.dispatched ⟨(new options).receiveAll inputs, input⟩
      · exact sets inputs input now
      · have before := (dispatched_or_flying (coherent_receiveAll options inputs) flying).resolve_left now
        exact stays inputs input before now (induction before)

theorem cancellation?_of_unran (options : SessionOptions) (inputs : List Input)
    (flying : ((new options).receiveAll inputs).queue.inFlight = some id) :
    (∀ turn ∈ (new options).turns inputs, turn.input ≠ .run id) →
      cancellation? ((new options).turns inputs) id = none := by
  refine flying_induction options ?_ ?_ inputs flying
  · intro inputs input now _
    rw [turns_concat, cancellation?_concat, if_pos now]
  · intro inputs input before now earlier unran
    rw [turns_concat] at unran ⊢
    have unranBefore : ∀ turn ∈ (new options).turns inputs, turn.input ≠ .run id :=
      fun turn member => unran turn (List.mem_append_left _ member)
    have single := single_receiveAll options inputs id fun turn member ran =>
      absurd ran (unranBefore turn member)
    have last := unran _ (List.mem_append_right _ (List.mem_singleton_self _))
    rw [cancellation?_concat, if_neg now, earlier unranBefore, cancels_of_single last single before]
    rfl

/-! ## Tasks that may not be run -/

/-- That a task was handed to `run` while it was in flight. -/
def RanInFlight (turns : List Turn) (id : TaskId) : Prop :=
  ∃ turn ∈ turns, turn.before.queue.inFlight = some id ∧ turn.input = .run id

theorem ranInFlight_concat (turns : List Turn) (turn : Turn) (id : TaskId) :
    RanInFlight (turns ++ [turn]) id ↔ RanInFlight turns id ∨
      turn.before.queue.inFlight = some id ∧ turn.input = .run id := by
  simp [RanInFlight, or_and_right, exists_or]

/-- What is in flight has set out. -/
theorem Dispatching.mem_of_flying (dispatching : Dispatching turns session)
    (flying : session.queue.inFlight = some id) : id ∈ turns.flatMap Turn.dispatched := by
  rcases dispatching.alternate with ⟨done, marks⟩
  have last : Mark.dispatched id ∈ turns.flatMap Turn.marks := by
    rw [marks, flying]
    exact List.mem_append_right _ (List.mem_singleton_self _)
  rcases List.mem_flatMap.mp last with ⟨turn, member, marked⟩
  refine List.mem_flatMap.mpr ⟨turn, member, ?_⟩
  simpa [Turn.marks] using marked

/-- A task that sets out now was not in flight before, as it sets out once. -/
theorem not_ranInFlight_of_dispatched (options : SessionOptions) (inputs : List Input)
    (now : id ∈ Turn.dispatched ⟨(new options).receiveAll inputs, input⟩) :
    ¬RanInFlight ((new options).turns inputs) id := by
  rintro ⟨turn, member, flying, -⟩
  rcases List.append_of_mem member with ⟨earlier, later, split⟩
  rcases turns_split split with ⟨before, after, -, rfl, same, -⟩
  rw [same] at flying
  have out := (dispatching_receiveAll options before).mem_of_flying flying
  have once := (dispatching_receiveAll options (inputs ++ [input])).once
  rw [turns_concat, split, List.flatMap_append, List.flatMap_append, List.append_assoc] at once
  refine (List.nodup_append.mp once).2.2 id out id ?_ rfl
  exact List.mem_append_right _ (by simpa using now)

theorem runRefusal?_of_unroutable {kind : TaskKind}
    (known : session.queue.kind? id = some kind) (unroutable : kind.isRoutable = false) :
    ∃ reason, session.runRefusal? id = some reason := by
  simp only [runRefusal?, known, unroutable]
  split <;> simp

/-- A task in flight has its kind already. -/
theorem kind?_of_flying (sound : session.queue.Sound) (flying : session.queue.inFlight = some id)
    {kind : TaskKind} (known : (session.receive input).queue.kind? id = some kind) :
    session.queue.kind? id = some kind := by
  rcases sound.inFlight_known id flying with ⟨earlier, earlierKnown⟩
  have later := Queue.kind?_extends (extends_receive sound input) earlierKnown
  rw [earlierKnown, ← later, known]

/-- All that can be made of a task in flight that may not be run is that it is rejected, by
whoever runs it. -/
theorem cancellation?_of_unroutable (options : SessionOptions) (inputs : List Input)
    {kind : TaskKind} (flying : ((new options).receiveAll inputs).queue.inFlight = some id)
    (known : ((new options).receiveAll inputs).queue.kind? id = some kind)
    (unroutable : kind.isRoutable = false) :
    (cancellation? ((new options).turns inputs) id = none ∧
        ¬RanInFlight ((new options).turns inputs) id) ∨
      ∃ reason, cancellation? ((new options).turns inputs) id = some (.rejected reason) ∧
        RanInFlight ((new options).turns inputs) id := by
  revert known
  refine flying_induction options ?_ ?_ inputs flying
  · intro inputs input now _
    have unran : input ≠ .run id := by
      rintro rfl
      cases now
    rw [turns_concat, cancellation?_concat, ranInFlight_concat, if_pos now]
    exact .inl ⟨rfl, fun ran => ran.elim (not_ranInFlight_of_dispatched options inputs now)
      fun last => unran last.2⟩
  · intro inputs input before now earlier known
    rw [receiveAll_concat] at known
    have knownBefore := kind?_of_flying (coherent_receiveAll options inputs).sound before known
    rw [turns_concat, cancellation?_concat, ranInFlight_concat, if_neg now]
    by_cases ran : input = .run id
    · subst ran
      rcases runRefusal?_of_unroutable knownBefore unroutable with ⟨reason, refused⟩
      right
      rcases earlier knownBefore with ⟨spared, -⟩ | ⟨first, rejected, -⟩
      · exact ⟨reason, by simp [spared, Turn.cancellation?, refused], .inr ⟨before, rfl⟩⟩
      · exact ⟨first, by simp [rejected], .inr ⟨before, rfl⟩⟩
    · have single := single_receiveAll options inputs id fun _ _ _ other otherKnown => by
        rw [Option.some.inj (otherKnown.symm.trans knownBefore)]
        exact unroutable
      simpa [cancels_of_single ran single before, ran] using earlier knownBefore

/-! ## What a task in flight comes to -/

/-- What has become, and what will become, of the task that is in flight after these turns. -/
structure Fate (turns : List Turn) (session : Session) (id : TaskId) (kind : TaskKind) :
    Prop where
  now : session.queue.ledger.progress? id = some ((cancellation? turns id).getD .submitted)
  /-- Once it comes back, its end is the one that the outcome gives it, but for a cancellation.
  That end it keeps. -/
  later : ∀ outcome inputs,
    ((session.receive (.complete outcome)).receiveAll inputs).queue.ledger.progress? id =
      some ((cancellation? turns id).getD (kind.ending outcome))
  /-- A task that nobody handed to `run` is not cancelled. -/
  spared : (∀ turn ∈ turns, turn.input ≠ .run id) → cancellation? turns id = none

theorem fate_of_flying (options : SessionOptions) (inputs : List Input) {kind : TaskKind}
    (flying : ((new options).receiveAll inputs).queue.inFlight = some id)
    (known : ((new options).receiveAll inputs).queue.kind? id = some kind) :
    Fate ((new options).turns inputs) ((new options).receiveAll inputs) id kind := by
  have now := progress_of_flying options inputs id flying
  refine ⟨now, ?_, cancellation?_of_unran options inputs flying⟩
  intro outcome later
  have sound := sound_receive (coherent_receiveAll options inputs).sound (.complete outcome)
  have terminal := kind.isTerminal_ending outcome
  have ended := progress_complete flying known now outcome
  apply Ledger.progress?_extends (extends_receiveAll sound later)
  · rw [ended]
    cases found : cancellation? ((new options).turns inputs) id with
    | none => rfl
    | some cancelled =>
        have stays := isTerminal_of_cancellation? found
        simp [Progress.advance, stays]
  · cases found : cancellation? ((new options).turns inputs) id with
    | none => exact terminal
    | some cancelled => exact isTerminal_of_cancellation? found

/-- An output that is asked for twice, and is in flight when the session is disconnected. -/
def asksTwice : List Input :=
  .reset :: loads ++ [.make (.file .jobout) [] { path := some "/s1" }, .run 2, .run 2, .takeStep,
    .disconnect]

/-- It is aborted with what waits, though it is in flight, and the reply does not change that. -/
theorem fate_of_asksTwice :
    ((new sampleOptions).receiveAll asksTwice).queue.inFlight = some 2 ∧
      ((new sampleOptions).receiveAll asksTwice).queue.kind? 2 = some (.file .jobout) ∧
      cancellation? ((new sampleOptions).turns asksTwice) 2 =
        some (.aborted "queue disabled") ∧
      Fate ((new sampleOptions).turns asksTwice) ((new sampleOptions).receiveAll asksTwice) 2
        (.file .jobout) :=
  have flying : ((new sampleOptions).receiveAll asksTwice).queue.inFlight = some 2 := by
    decide +kernel
  have known : ((new sampleOptions).receiveAll asksTwice).queue.kind? 2 =
      some (.file .jobout) := by
    decide +kernel
  ⟨flying, known, by decide +kernel, fate_of_flying sampleOptions asksTwice flying known⟩

end FlowClient.Session
