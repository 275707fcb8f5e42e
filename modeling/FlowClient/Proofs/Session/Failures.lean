import FlowClient.Proofs.Session.Released
import FlowClient.Proofs.Session.Syncs

/-! What comes of a request that fails. The session may lose its contact, give up a load and
start its timer anew, and says so; what it knows of the server and what it still has to ask
it leaves as they are. The task has come to its end, and a task that has is never sent
again, even if somebody hands it in once more. -/

namespace FlowClient

/-- Whether an event is about what observers see of the server: its definition, the mirror
and the filter. -/
def Event.isOfModel : Event → Bool
  | contactChanged _ => false
  | activityChanged _ => false
  | deleted => false
  | _ => true

namespace Session

variable {session before middle after : Session} {id : TaskId}

/-! ## What a failure spares -/

/-- From `before` to `after` nothing becomes of what is known of the server and of what is
still to be asked, and nothing is told of it. -/
structure Spares (before after : Session) : Prop where
  definition : after.definition = before.definition
  mirror : after.mirror = before.mirror
  filter : after.filter = before.filter
  queue : after.queue = before.queue
  told : ∃ told, after.events = before.events ++ told ∧ ∀ event ∈ told, event.isOfModel = false

theorem Spares.rfl : session.Spares session := ⟨.refl _, .refl _, .refl _, .refl _, [], by simp, by simp⟩

theorem Spares.trans (first : before.Spares middle) (second : middle.Spares after) :
    before.Spares after where
  definition := second.definition.trans first.definition
  mirror := second.mirror.trans first.mirror
  filter := second.filter.trans first.filter
  queue := second.queue.trans first.queue
  told := by
    rcases first.told with ⟨told, grown, spared⟩
    rcases second.told with ⟨more, later, moreSpared⟩
    refine ⟨told ++ more, by rw [later, grown, List.append_assoc], fun event member => ?_⟩
    exact (List.mem_append.mp member).elim (spared event) (moreSpared event)

theorem spares_announce (session : Session) (event : Event) (spared : event.isOfModel = false) :
    session.Spares (session.announce event) :=
  ⟨by simp, by simp, by simp, by simp, [event], by simp, by simpa using spared⟩

theorem spares_setActivity (session : Session) (activity : Activity) :
    session.Spares (session.setActivity activity) :=
  ⟨by simp, by simp, by simp, by simp, [.activityChanged activity], by simp, by simp [Event.isOfModel]⟩

theorem spares_setContact (session : Session) (contact : Contact) :
    session.Spares (session.setContact contact) :=
  ⟨by simp, by simp, by simp, by simp, [.contactChanged contact], by simp [events],
    by simp [Event.isOfModel]⟩

theorem spares_contactLost (session : Session) (reason : String) :
    session.Spares (session.contactLost reason) := by
  rw [contactLost]
  split
  · exact .rfl
  · exact session.spares_setContact _

theorem spares_restartTimer (session : Session) : session.Spares session.restartTimer :=
  ⟨by simp, by simp, by simp, by simp, [], by simp, by simp⟩

theorem spares_resetFailed (session : Session) (reason : String) :
    session.Spares (session.resetFailed reason) := by
  have lost : session.Spares { session with contact := .lost (some reason) } :=
    ⟨rfl, rfl, rfl, rfl, [], by simp [events], by simp⟩
  have idle := lost.trans (spares_setActivity _ .idle)
  have told := idle.trans (spares_announce _ (.contactChanged (.lost (some reason))) rfl)
  exact told.trans (spares_restartTimer _)

theorem spares_finishIfIdle (session : Session) : session.Spares session.finishIfIdle := by
  rw [finishIfIdle]
  split
  · have told := session.spares_announce .deleted rfl
    exact ⟨told.definition, told.mirror, told.filter, told.queue, told.told⟩
  · exact .rfl

/-! ## One failure -/

theorem spares_taskFailed (session : Session) (id : TaskId) (kind : TaskKind) (failure : Failure) :
    (session.advance id (.aborted failure.text)).Spares (session.taskFailed id kind failure) := by
  simp only [taskFailed]
  split
  · exact spares_contactLost _ _
  · exact spares_resetFailed _ _
  · split
    · exact spares_contactLost _ _
    · exact .rfl

theorem spares_recordOnly (session : Session) (id : TaskId) (kind : TaskKind) (failure : Failure) :
    (session.advance id (.aborted failure.text)).Spares
      (session.recordOnly id kind (.error failure)) := by
  simp only [recordOnly]
  split
  · exact (spares_setActivity _ .idle).trans (spares_finishIfIdle _)
  · exact spares_finishIfIdle _

/-- A failure does nothing but bring its task to an end, whatever kind the task is of, whatever
the failure is, and however the session stands with its server. -/
theorem spares_taskCompleted {kind : TaskKind} (known : session.queue.kind? id = some kind)
    (failure : Failure) :
    ((session.takenBack id).advance id (.aborted failure.text)).Spares
      (session.taskCompleted id (.error failure)) := by
  rw [taskCompleted_of_known known]
  split
  · exact spares_recordOnly _ id kind failure
  · exact spares_taskFailed _ id kind failure

/-! ## Ends that stay -/

/-- A task that has come to its end is not dispatched by anything that follows. -/
theorem not_dispatched_of_isTerminal (coherent : session.Coherent)
    (terminal : session.queue.ledger.isTerminal id = true) (inputs : List Input) :
    id ∉ (session.turns inputs).flatMap Turn.dispatched := by
  induction inputs using List.reverseRecOn with
  | nil => simp
  | append_singleton inputs input induction =>
      have coherentThen : (session.receiveAll inputs).Coherent :=
        receiveAll_keeps Coherent coherent (fun _ input held => coherent_receive held input) inputs
      have terminalThen := (extends_receiveAll coherent.sound inputs).isTerminal terminal
      rw [turns_concat, List.flatMap_append, List.flatMap_singleton, List.mem_append, not_or]
      refine ⟨induction, fun sets => ?_⟩
      by_cases stepped : input = .takeStep
      · subst stepped
        have alive := (departed_takeStep coherentThen).1 id sets
        rw [terminalThen] at alive
        cases alive
      · rw [dispatched_of_unstepped stepped] at sets
        cases sets

/-! ## Failures in a run -/

/-- What comes of a turn in which the task `id` fails. -/
structure Failed (turn : Turn) (id : TaskId) (failure : Failure) : Prop where
  definition : turn.after.definition = turn.before.definition
  mirror : turn.after.mirror = turn.before.mirror
  filter : turn.after.filter = turn.before.filter
  pending : turn.after.queue.pending = turn.before.queue.pending
  /-- No task is made. -/
  size : turn.after.queue.ledger.size = turn.before.queue.ledger.size
  others : ∀ other, other ≠ id → turn.after.queue.task? other = turn.before.queue.task? other
  silent : ∀ event ∈ turn.announced, event.isOfModel = false
  /-- The failure is the reason of the task's end, unless the task came to one before. -/
  progress : turn.after.queue.ledger.progress? id =
    (turn.before.queue.ledger.progress? id).map (·.advance (.aborted failure.text))
  ended : turn.after.queue.ledger.isTerminal id = true
  /-- Whatever follows, the task is not sent again. -/
  once : ∀ inputs, id ∉ (turn.after.turns inputs).flatMap Turn.dispatched

/-- In any run, a task that fails leaves what is known as it was and is not sent again. -/
theorem failed_receiveAll (options : SessionOptions) (inputs : List Input)
    (flying : ((new options).receiveAll inputs).queue.inFlight = some id) (failure : Failure) :
    Failed ⟨(new options).receiveAll inputs, .complete (.error failure)⟩ id failure := by
  have coherent := coherent_receiveAll options inputs
  generalize (new options).receiveAll inputs = session at flying coherent
  rcases coherent.sound.inFlight_known id flying with ⟨kind, known⟩
  rcases Queue.kind?_eq_some known with ⟨task, taskKnown, -⟩
  have spares := spares_taskCompleted known failure
  rw [← receive_complete flying] at spares
  have ledger : (session.receive (.complete (.error failure))).queue.ledger =
      session.queue.ledger.advance id (.aborted failure.text) := by
    rw [spares.queue]
    simp [advance, Queue.advance, takenBack]
  have ended : (session.receive (.complete (.error failure))).queue.ledger.isTerminal id = true := by
    rw [ledger]
    exact Ledger.isTerminal_advance taskKnown rfl
  rcases spares.told with ⟨told, grown, silent⟩
  refine ⟨spares.definition, spares.mirror, spares.filter, ?_, ?_, ?_, ?_, ?_, ended, ?_⟩
  · show (session.receive (.complete (.error failure))).queue.pending = session.queue.pending
    rw [spares.queue]
    exact (session.queue.complete_frame id).2
  · show (session.receive (.complete (.error failure))).queue.ledger.size = session.queue.ledger.size
    rw [ledger]
    exact Ledger.size_change _ _ _
  · intro other different
    exact (congrArg (·.get? other) ledger).trans (Ledger.get?_advance_other _ different)
  · have announced : Turn.announced ⟨session, .complete (.error failure)⟩ = told :=
      announced_of_append grown
    rw [announced]
    exact silent
  · exact (congrArg (·.progress? id) ledger).trans (Ledger.progress?_advance _ _ _)
  · exact not_dispatched_of_isTerminal (coherent_receive coherent _) ended

/-- A poll after a load that the server does not answer in time. -/
theorem failed_of_polls :
    ((new sampleOptions).receiveAll (.reset :: loads ++ [.tick, .takeStep])).queue.inFlight =
        some 2 ∧
      Failed ⟨(new sampleOptions).receiveAll (.reset :: loads ++ [.tick, .takeStep]),
        .complete (.error ⟨.timeout, "no answer"⟩)⟩ 2 ⟨.timeout, "no answer"⟩ :=
  have flying : ((new sampleOptions).receiveAll
      (.reset :: loads ++ [.tick, .takeStep])).queue.inFlight = some 2 := by decide +kernel
  ⟨flying, failed_receiveAll sampleOptions _ flying ⟨.timeout, "no answer"⟩⟩

end Session

end FlowClient
