import FlowClient.Proofs.Queue.Sound
import FlowClient.Proofs.Session.Standing

/-! What an input of a session does to its queue. Callers and the timer move it. A task
that comes back leaves it and comes to its end; what follows from its outcome is one
move more. The tasks that a session makes have not begun, and they say of the filter what
it is. -/

namespace FlowClient

/-! ## Queueing -/

/-- That a task can be one that a session makes while it has this filter. -/
structure Task.Reports (filter : SuiteFilter) (task : Task) : Prop where
  unbegun : task.progress = .pending
  reset : task.kind = .reset → task = Task.reset filter.registered filter.autoAddNew
  autoRegister : task.kind = .autoRegister → task = Task.autoRegister filter.autoAddNew

theorem Task.reports_of_kind {filter : SuiteFilter} {task : Task}
    (unbegun : task.progress = .pending) (notReset : task.kind ≠ .reset)
    (notRegister : task.kind ≠ .autoRegister) : task.Reports filter :=
  ⟨unbegun, fun reset => absurd reset notReset, fun register => absurd register notRegister⟩

/-- How an outcome ends a task of this kind. -/
def TaskKind.ending (kind : TaskKind) : Outcome → Progress
  | .ok reply => .finished (.ofReply kind.onSuccess reply)
  | .error failure => .aborted failure.text

theorem TaskKind.isTerminal_ending (kind : TaskKind) (outcome : Outcome) :
    (kind.ending outcome).isTerminal = true := by
  cases outcome <;> rfl

theorem Queue.moves_add {named : List TaskId} {made : Task → Prop} (queue : Queue) {task : Task}
    (isMade : made task) (ordinary : task.kind ≠ .reset) :
    queue.Moves named made (queue.add task).1 :=
  ⟨queue, .done, .add isMade ordinary⟩

namespace Session

section Moves

variable (session : Session) {named : List TaskId} {made : Task → Prop}

@[simp] theorem queue_follow (task : Task) :
    (session.follow task).queue = (session.queue.add task).1 := rfl

@[simp] theorem queue_advance (id : TaskId) (next : Progress) :
    (session.advance id next).queue = session.queue.advance id next := rfl

theorem moves_follow {task : Task} (isMade : made task) (ordinary : task.kind ≠ .reset) :
    session.queue.Moves named made (session.follow task).queue :=
  session.queue.moves_add isMade ordinary

theorem moves_update (filter : SuiteFilter) :
    session.queue.Moves named (Task.Reports filter) session.update.1.queue := by
  rw [update]
  split
  · exact .none _
  · exact session.queue.moves_add (Task.reports_of_kind rfl (by simp) (by simp)) (by simp)

/-! ## Resets -/

theorem reports_loadTask : session.loadTask.Reports session.filter where
  unbegun := rfl
  reset := fun _ => rfl
  autoRegister := by simp [loadTask, Task.reset]

/-- A reset queues the task that loads everything, if it does anything at all. -/
theorem moves_load (isMade : made session.loadTask) :
    session.queue.Moves named made session.reset.queue := by
  rcases session.reset_cases with ⟨-, stays⟩ | ⟨ended, -, -, setsOut⟩
  · rw [stays]
    exact .none _
  · rw [setsOut, Queue.load_suspend]
    exact ⟨session.queue, .done, .load isMade rfl ended⟩

theorem moves_reset :
    session.queue.Moves named (Task.Reports session.filter) session.reset.queue :=
  session.moves_load session.reports_loadTask

@[simp] theorem filter_reset : session.reset.filter = session.filter := by
  rcases session.reset_cases with ⟨-, stays⟩ | ⟨-, -, -, setsOut⟩
  · rw [stays]
  · rw [setsOut]
    simp [emptied]

/-! ## Calls -/

theorem moves_runCommand (args : List String) (filter : SuiteFilter) :
    session.queue.Moves named (Task.Reports filter) (session.runCommand args).1.queue := by
  rw [runCommand]
  split
  · exact .none _
  · exact session.queue.moves_add (Task.reports_of_kind rfl nofun nofun)
      (show (Task.command args).kind ≠ .reset from nofun)

theorem moves_run (id : TaskId) : session.queue.Moves [id] made (session.run id).queue := by
  have member : id ∈ [id] := List.mem_singleton_self id
  rw [run]
  split
  · exact .none _
  · rename_i kind known
    split
    · exact (Queue.Adjusts.advance _ member .done).moves
    split
    · exact (Queue.Adjusts.advance _ member .done).moves
    · rename_i routable
      replace routable : kind.isRoutable = true := by simpa using routable
      simp only
      split
      · exact ⟨_, .done, .submit member known routable⟩
      · rename_i file _
        have adjusts : session.queue.Adjusts [id]
            (session.queue.changeTask id (·.setParam .clientPar file.name)) :=
          .setParam .clientPar file.name member .done
        exact ⟨_, adjusts, .submit member (Queue.kind?_extends adjusts.extends known) routable⟩

@[simp] theorem filter_updateFilter (filter : SuiteFilter) :
    (session.updateFilter filter).filter = session.filter.update filter := by
  simp only [updateFilter]
  split
  · rfl
  split
  · rfl
  · simp

theorem moves_updateFilter (filter : SuiteFilter) :
    session.queue.Moves named (Task.Reports (session.filter.update filter))
      (session.updateFilter filter).queue := by
  let changed : Session := { session with filter := session.filter.update filter }
  simp only [updateFilter]
  split
  · exact .none _
  split
  · apply changed.moves_follow
    · exact ⟨rfl, nofun, fun _ => rfl⟩
    · simp [Task.autoRegister]
  · exact changed.moves_reset

theorem moves_connect :
    session.queue.Moves named (Task.Reports session.filter) session.connect.queue := by
  by_cases disconnected : session.contact = .disconnected
  · cases going : session.shuttingDown with
    | true => simpa [connect, going] using .none _
    | false =>
        have adjusts : session.queue.Adjusts named session.reconnected.queue := by
          simpa using .enable .done
        have filter : session.reconnected.filter = session.filter := by simp
        rw [session.connect_of_free disconnected going]
        split
        · exact adjusts.andMoves (filter ▸ session.reconnected.moves_reset)
        · exact adjusts.andMoves (session.reconnected.moves_update _)
  · simpa [connect, disconnected] using .none _

theorem moves_handleNews (answer : Option News) :
    session.queue.Moves named (Task.Reports session.filter) (session.handleNews answer).queue := by
  have gained : session.contactGained.queue = session.queue := by simp
  have filter : session.contactGained.filter = session.filter := by simp
  rw [← gained, ← filter]
  unfold handleNews
  match answer with
  | some .news =>
      exact session.contactGained.moves_follow (Task.reports_of_kind rfl nofun nofun) (by simp)
  | some .doFullSync => exact session.contactGained.moves_reset
  | some .noNews => exact .none _
  | none => exact .none _

theorem filter_handleNews (answer : Option News) :
    (session.handleNews answer).filter = session.filter := by
  unfold handleNews
  match answer with
  | some .news => simp [follow]
  | some .doFullSync => simp
  | some .noNews => simp
  | none => simp

end Moves

/-! ## Completions -/

/-- A task gets this end, and the queue moves once after that. -/
def EndsAs (before : Session) (id : TaskId) (ending : Progress) (after : Session) : Prop :=
  (before.queue.advance id ending).Moves [] (Task.Reports after.filter) after.queue

/-- A task gets its end, and the queue moves once after that. -/
def Ends (before : Session) (id : TaskId) (after : Session) : Prop :=
  ∃ ending : Progress, ending.isTerminal = true ∧
    (before.queue.advance id ending).Moves [] (Task.Reports after.filter) after.queue

variable {session : Session} {id : TaskId}

theorem endsAs_recordOnly (kind : TaskKind) (outcome : Outcome) :
    session.EndsAs id (kind.ending outcome) (session.recordOnly id kind outcome) := by
  have moves (filter : SuiteFilter) (ending : Progress) (again : Bool) :
      (session.advance id ending).queue.Moves [] (Task.Reports filter) (if again
        then (session.advance id ending).setActivity .idle
        else session.advance id ending).finishIfIdle.queue := by
    cases again <;> simpa using .none _
  cases outcome with
  | ok reply => exact moves _ _ _
  | error failure => exact moves _ _ _

theorem reports_suiteList (filter : SuiteFilter) :
    ({ kind := .suiteList } : Task).Reports filter :=
  Task.reports_of_kind rfl nofun nofun

theorem endsAs_syncSucceeded (reply : Reply) :
    session.EndsAs id (.finished .nothing) (session.syncSucceeded id reply) := by
  unfold EndsAs
  simp only [syncSucceeded]
  have advanced : ((session.applySync reply).advance id (.finished .nothing)).queue =
      session.queue.advance id (.finished .nothing) := by simp
  have ordinary : ({ kind := .suiteList } : Task).kind ≠ .reset := by simp
  split
  · refine Queue.Adjusts.andMoves ?_ (moves_follow _ (reports_suiteList _) ordinary)
    simpa using .start .done
  · rw [← advanced]
    exact moves_follow _ (reports_suiteList _) ordinary

theorem endsAs_resetSucceeded (reply : Reply) :
    session.EndsAs id (.finished .nothing) (session.resetSucceeded id reply) := by
  have ordinary : ({ kind := .suiteList } : Task).kind ≠ .reset := by simp
  simpa [EndsAs, resetSucceeded] using
    Queue.moves_add (session.queue.advance id _) (reports_suiteList _) ordinary

theorem endsAs_taskSucceeded (kind : TaskKind) (reply : Reply) :
    session.EndsAs id (kind.ending (.ok reply)) (session.taskSucceeded id kind reply) := by
  simp only [EndsAs, taskSucceeded, TaskKind.ending]
  split
  · rw [filter_handleNews]
    exact moves_handleNews _ reply.news
  · rename_i folds
    simpa [EndsAs, folds, TaskResult.ofReply] using endsAs_syncSucceeded reply
  · rename_i loads
    simpa [EndsAs, loads, TaskResult.ofReply] using endsAs_resetSucceeded reply
  · exact moves_follow (session.advance id _) (Task.reports_of_kind rfl nofun nofun) (by simp)
  · simpa [updateLoaded] using .none _
  all_goals exact .none _

theorem endsAs_taskFailed (kind : TaskKind) (failure : Failure) :
    session.EndsAs id (kind.ending (.error failure)) (session.taskFailed id kind failure) := by
  simp only [taskFailed, TaskKind.ending, EndsAs]
  split
  · simpa using .none _
  · simpa using .none _
  · split
    · simpa using .none _
    · exact .none _

/-- The session that has a task back and has not looked yet at what it brings. -/
def takenBack (session : Session) (id : TaskId) : Session :=
  { session with queue := (session.queue.complete id).1 }

theorem taskCompleted_of_known {kind : TaskKind} (known : session.queue.kind? id = some kind)
    (outcome : Outcome) : session.taskCompleted id outcome =
      if (session.takenBack id).isSuperseded kind then
        (session.takenBack id).recordOnly id kind outcome
      else match outcome with
        | .ok reply => (session.takenBack id).taskSucceeded id kind reply
        | .error failure => (session.takenBack id).taskFailed id kind failure := by
  rw [taskCompleted]
  rw [known]
  rfl

theorem endsAs_taskCompleted {kind : TaskKind} (known : session.queue.kind? id = some kind)
    (outcome : Outcome) :
    (session.takenBack id).EndsAs id (kind.ending outcome) (session.taskCompleted id outcome) := by
  rw [taskCompleted_of_known known]
  split
  · exact endsAs_recordOnly kind outcome
  · cases outcome with
    | ok reply => exact endsAs_taskSucceeded kind reply
    | error failure => exact endsAs_taskFailed kind failure

theorem ends_taskCompleted {kind : TaskKind} (known : session.queue.kind? id = some kind)
    (outcome : Outcome) : (session.takenBack id).Ends id (session.taskCompleted id outcome) :=
  ⟨kind.ending outcome, kind.isTerminal_ending outcome, endsAs_taskCompleted known outcome⟩

theorem receive_complete (flying : session.queue.inFlight = some id) (outcome : Outcome) :
    session.receive (.complete outcome) = session.taskCompleted id outcome := by
  simp [receive, flying]

theorem receive_complete_none (free : session.queue.inFlight = none) (outcome : Outcome) :
    session.receive (.complete outcome) = session := by
  simp [receive, free]

/-! ## Any input -/

/-- Whether an input is neither a step of the session nor an answer to one. -/
def Input.isCall : Input → Bool
  | takeStep => false
  | complete _ => false
  | _ => true

/-- The tasks that an input names. -/
def Input.named : Input → List TaskId
  | setParam id _ _ => [id]
  | run id => [id]
  | _ => []

/-- What an input does to the queue of a session. -/
inductive Queueing (before after : Session) : Input → Prop
  | moves {input} (call : input.isCall = true)
      (moves : before.queue.Moves input.named (Task.Reports after.filter) after.queue) :
      Queueing before after input
  | disconnects (same : after.queue = before.queue.disable) : Queueing before after .disconnect
  | closes (same : after.queue = before.queue.disable) : Queueing before after .shutdown
  | dispatches (same : after.queue = before.queue.next.1) : Queueing before after .takeStep
  | idles {outcome} (free : before.queue.inFlight = none) (same : after.queue = before.queue) :
      Queueing before after (.complete outcome)
  | returns {outcome} (id : TaskId) (ending : Progress)
      (flying : before.queue.inFlight = some id) (terminal : ending.isTerminal = true)
      (moves : ((before.queue.complete id).1.advance id ending).Moves []
        (Task.Reports after.filter) after.queue) :
      Queueing before after (.complete outcome)

theorem queueing_disconnect (session : Session) :
    Queueing session session.disconnect .disconnect := by
  rw [disconnect]
  split
  · exact .moves rfl (.none _)
  · exact .disconnects (by simp)

theorem queueing_shutdown (session : Session) :
    Queueing session session.shutdown .shutdown := by
  rw [shutdown]
  split
  · exact .moves rfl (.none _)
  · exact .closes (by simp)

theorem queueing_complete (sound : session.queue.Sound) (outcome : Outcome) :
    Queueing session (session.receive (.complete outcome)) (.complete outcome) := by
  cases flying : session.queue.inFlight with
  | none =>
      rw [receive_complete_none flying]
      exact .idles flying rfl
  | some id =>
      rcases sound.inFlight_known id flying with ⟨kind, known⟩
      rcases ends_taskCompleted known outcome with ⟨ending, terminal, moves⟩
      rw [receive_complete flying]
      exact .returns id ending flying terminal moves

theorem filter_connect (session : Session) : session.connect.filter = session.filter := by
  rw [connect]
  split
  · rfl
  simp only
  split
  · simp
  · rw [update]
    split <;> simp

theorem queueing_receive (sound : session.queue.Sound) (input : Input) :
    Queueing session (session.receive input) input := by
  cases input with
  | make kind args params => exact .moves rfl (Queue.Adjusts.enter _ .done).moves
  | setParam id param value =>
      have member : id ∈ [id] := List.mem_singleton_self id
      exact .moves rfl (Queue.Adjusts.setParam param value member .done).moves
  | runCommand args => exact .moves rfl (session.moves_runCommand args _)
  | run id => exact .moves rfl (session.moves_run id)
  | update => exact .moves rfl (session.moves_update _)
  | tick => exact .moves rfl (session.moves_update _)
  | refresh => exact .moves rfl (by simpa [receive, refresh] using session.moves_update _)
  | reset =>
      refine .moves rfl ?_
      rw [receive, filter_reset]
      exact session.moves_reset
  | connect =>
      refine .moves rfl ?_
      rw [receive, filter_connect]
      exact session.moves_connect
  | disconnect => exact session.queueing_disconnect
  | updateFilter filter =>
      refine .moves rfl ?_
      rw [receive, filter_updateFilter]
      exact session.moves_updateFilter filter
  | subscribe => exact .moves rfl (.none _)
  | unsubscribe id => exact .moves rfl (.none _)
  | shutdown => exact session.queueing_shutdown
  | takeStep => exact .dispatches rfl
  | complete outcome => exact queueing_complete sound outcome

/-- Callers leave alone what is in flight. -/
theorem inFlight_of_call (sound : session.queue.Sound) (input : Input)
    (call : input.isCall = true) :
    (session.receive input).queue.inFlight = session.queue.inFlight := by
  cases queueing_receive sound input with
  | moves call moves => exact moves.inFlight
  | disconnects same => simp [same]
  | closes same => simp [same]
  | dispatches same => cases call
  | idles free same => cases call
  | returns id ending flying terminal moves => cases call

theorem inFlight_complete (sound : session.queue.Sound) (outcome : Outcome) :
    (session.receive (.complete outcome)).queue.inFlight = none := by
  cases queueing_receive sound (.complete outcome) with
  | moves call moves => cases call
  | idles free same => rw [same, free]
  | returns id ending flying terminal moves =>
      rw [moves.inFlight]
      simp [Queue.advance, Queue.complete, flying]

theorem sound_receive (sound : session.queue.Sound) (input : Input) :
    (session.receive input).queue.Sound := by
  cases queueing_receive sound input with
  | moves call moves => exact sound.move moves
  | disconnects same => exact same ▸ sound.disable
  | closes same => exact same ▸ sound.disable
  | dispatches same => exact same ▸ sound.next
  | idles free same => exact same ▸ sound
  | returns id ending flying terminal moves =>
      exact ((sound.complete flying).advance id ending).move moves

end Session

end FlowClient
