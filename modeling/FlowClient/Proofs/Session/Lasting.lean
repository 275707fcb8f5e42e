import FlowClient.Proofs.Session.Effects

/-! What of a session lasts: its options, who listens to it, and whether it is over. Only a
few inputs change any of that, and nothing that a session does by itself does. A session
is over just if it is shutting down and has nothing in flight. -/

namespace FlowClient

structure Lasting where
  options : SessionOptions
  observers : List ObserverId
  subscriptions : Nat
  shuttingDown : Bool
  deleted : Bool

namespace Session

def lasting (session : Session) : Lasting where
  options := session.options
  observers := session.observers
  subscriptions := session.subscriptions
  shuttingDown := session.shuttingDown
  deleted := session.deleted

section Parts

variable (session : Session)

@[simp] theorem lasting_contactGained : session.contactGained.lasting = session.lasting := by
  rw [contactGained]
  split <;> rfl

@[simp] theorem lasting_contactLost (reason : String) :
    (session.contactLost reason).lasting = session.lasting := by
  rw [contactLost]
  split <;> rfl

@[simp] theorem lasting_stopTimer : session.stopTimer.lasting = session.lasting := by
  rw [stopTimer]
  split <;> rfl

@[simp] theorem lasting_restartTimer : session.restartTimer.lasting = session.lasting := by
  rw [restartTimer]
  split
  · rfl
  split
  · rfl
  · exact session.lasting_stopTimer

@[simp] theorem lasting_clearTree : session.clearTree.lasting = session.lasting := by
  rw [clearTree]
  split <;> rfl

@[simp] theorem lasting_rescan : session.rescan.1.lasting = session.lasting := by
  refine (lasting_restartTimer _).trans ?_
  exact (lasting_clearTree _).trans (lasting_stopTimer _)

@[simp] theorem lasting_emptied : session.emptied.lasting = session.lasting :=
  (lasting_clearTree _).trans session.lasting_stopTimer

@[simp] theorem lasting_reset : session.reset.lasting = session.lasting := by
  rcases session.reset_cases with ⟨-, stays⟩ | ⟨-, -, -, setsOut⟩
  · rw [stays]
  · rw [setsOut]
    exact session.lasting_emptied

@[simp] theorem lasting_resetFinished : session.resetFinished.1.lasting = session.lasting :=
  (lasting_restartTimer _).trans (lasting_contactGained _)

@[simp] theorem lasting_resetFailed (reason : String) :
    (session.resetFailed reason).lasting = session.lasting := lasting_restartTimer _

@[simp] theorem lasting_nodeChanged (update : NodeUpdate) :
    (session.nodeChanged update).1.lasting = session.lasting := by
  rw [nodeChanged]
  split
  · rfl
  split
  · exact session.lasting_clearTree
  split
  · rfl
  split
  · rfl
  split
  · rfl
  · simp only
    split <;> rfl

@[simp] theorem lasting_applyChange (update : NodeUpdate) :
    (session.applyChange update).lasting = session.lasting := by
  have followed : (nodeChanged { session with definition := session.definition.updated update }
      update).1.lasting = session.lasting := lasting_nodeChanged _ update
  rcases session.applyChange_cases update with same | same
  · rw [same, followed]
  · rw [same, lasting_clearTree, followed]

@[simp] theorem lasting_applySync (reply : Reply) :
    (session.applySync reply).lasting = session.lasting := by
  have taken : (session.takeDefinition reply).lasting = session.lasting := by
    rw [takeDefinition]
    repeat' split
    all_goals rfl
  exact applySync_of_steps (fun before after => after.lasting = before.lasting)
    (fun first second => second.trans first) taken lasting_applyChange

/-! ## Calls -/

@[simp] theorem lasting_runCommand (args : List String) :
    (session.runCommand args).1.lasting = session.lasting := by
  rw [runCommand]
  split <;> rfl

@[simp] theorem lasting_run (id : TaskId) : (session.run id).lasting = session.lasting := by
  rw [run]
  repeat' split
  all_goals rfl

@[simp] theorem lasting_update : session.update.1.lasting = session.lasting := by
  rw [update]
  split <;> rfl

@[simp] theorem lasting_disconnect : session.disconnect.lasting = session.lasting := by
  rw [disconnect]
  split
  · rfl
  · exact lasting_stopTimer _

@[simp] theorem lasting_connect : session.connect.lasting = session.lasting := by
  rw [connect]
  split
  · rfl
  simp only
  split
  · exact (lasting_reset _).trans (lasting_restartTimer _)
  · exact (lasting_update _).trans (lasting_restartTimer _)

@[simp] theorem lasting_updateFilter (filter : SuiteFilter) :
    (session.updateFilter filter).lasting = session.lasting := by
  simp only [updateFilter]
  split
  · rfl
  split
  · rfl
  · exact lasting_reset _

/-! ## Completions -/

@[simp] theorem lasting_handleNews (answer : Option News) :
    (session.handleNews answer).lasting = session.lasting := by
  unfold handleNews
  split
  · exact session.lasting_contactGained
  · exact (lasting_reset _).trans session.lasting_contactGained
  · exact session.lasting_contactGained
  · exact session.lasting_contactGained

@[simp] theorem lasting_syncSucceeded (id : TaskId) (reply : Reply) :
    (session.syncSucceeded id reply).lasting = session.lasting := by
  simp only [syncSucceeded]
  split
  · exact (lasting_rescan _).trans (session.lasting_applySync reply)
  · exact session.lasting_applySync reply

@[simp] theorem lasting_resetSucceeded (id : TaskId) (reply : Reply) :
    (session.resetSucceeded id reply).lasting = session.lasting := lasting_resetFinished _

@[simp] theorem lasting_taskSucceeded (id : TaskId) (kind : TaskKind) (reply : Reply) :
    (session.taskSucceeded id kind reply).lasting = session.lasting := by
  simp only [taskSucceeded]
  split
  · exact lasting_handleNews _ _
  · exact session.lasting_syncSucceeded id reply
  · exact session.lasting_resetSucceeded id reply
  all_goals rfl

@[simp] theorem lasting_taskFailed (id : TaskId) (kind : TaskKind) (failure : Failure) :
    (session.taskFailed id kind failure).lasting = session.lasting := by
  simp only [taskFailed]
  split
  · exact lasting_contactLost _ _
  · exact lasting_resetFailed _ _
  · split
    · exact lasting_contactLost _ _
    · rfl

/-- A session is over as soon as it is shutting down and nothing is in flight. -/
theorem lasting_finishIfIdle : session.finishIfIdle.lasting = { session.lasting with
    deleted := session.deleted || (session.shuttingDown && session.queue.inFlight.isNone) } := by
  rw [finishIfIdle]
  split
  · rename_i ends
    simp only [Bool.and_eq_true] at ends
    simp [lasting, announce, ends.1.1, ends.2]
  · rename_i goesOn
    cases deleted : session.deleted with
    | true => simp [lasting, deleted]
    | false => simpa [lasting, deleted, Option.isSome_iff_ne_none] using goesOn

theorem lasting_recordOnly (id : TaskId) (kind : TaskKind) (outcome : Outcome) :
    (session.recordOnly id kind outcome).lasting = { session.lasting with
      deleted := session.deleted || (session.shuttingDown && session.queue.inFlight.isNone) } := by
  have settles (ending : Progress) (loaded : Bool) :
      (if loaded then (session.advance id ending).setActivity .idle
        else session.advance id ending).finishIfIdle.lasting = { session.lasting with
          deleted := session.deleted || (session.shuttingDown && session.queue.inFlight.isNone) } := by
    cases loaded <;> exact lasting_finishIfIdle _
  exact settles _ _

end Parts

/-! ## Any input -/

variable {session : Session}

theorem lasting_complete (sound : session.queue.Sound) {id : TaskId}
    (flying : session.queue.inFlight = some id) (outcome : Outcome) :
    (session.receive (.complete outcome)).lasting = { session.lasting with
      deleted := session.deleted || session.shuttingDown } := by
  rcases sound.inFlight_known id flying with ⟨kind, known⟩
  have taken : (session.takenBack id).lasting = session.lasting := rfl
  have free : (session.takenBack id).queue.inFlight = none := by
    simp [takenBack, Queue.complete, flying]
  rw [receive_complete flying, taskCompleted_of_known known]
  split
  · rw [lasting_recordOnly, free, taken]
    simp [takenBack]
  · rename_i used
    have going : session.shuttingDown = false := by
      simp only [isSuperseded, Bool.or_eq_true, not_or, Bool.not_eq_true] at used
      exact used.1.2
    rw [going, Bool.or_false]
    cases outcome with
    | ok reply => exact (lasting_taskSucceeded _ _ _ _).trans taken
    | error failure => exact (lasting_taskFailed _ _ _ _).trans taken

theorem lasting_shutdown (session : Session) : session.shutdown.lasting =
    if session.shuttingDown then session.lasting
    else { session.lasting with
      shuttingDown := true
      deleted := session.deleted || session.queue.inFlight.isNone } := by
  rw [shutdown]
  split
  · rfl
  · rw [lasting_finishIfIdle, lasting_stopTimer]
    have stopped (closing : Session) : closing.stopTimer.deleted = closing.deleted :=
      congrArg Lasting.deleted closing.lasting_stopTimer
    simp [lasting, stopped]

theorem lasting_receive (sound : session.queue.Sound) (input : Input) :
    (session.receive input).lasting = match input with
      | .subscribe => { session.lasting with
          observers := session.observers ++ [session.subscriptions]
          subscriptions := session.subscriptions + 1 }
      | .unsubscribe id => { session.lasting with
          observers := session.observers.filter (· != id) }
      | .shutdown =>
          if session.shuttingDown then session.lasting
          else { session.lasting with
            shuttingDown := true
            deleted := session.deleted || session.queue.inFlight.isNone }
      | .complete _ => { session.lasting with
          deleted := session.deleted || (session.shuttingDown && session.queue.inFlight.isSome) }
      | _ => session.lasting := by
  cases input with
  | make | setParam | subscribe | unsubscribe | takeStep => rfl
  | runCommand args => exact session.lasting_runCommand args
  | run id => exact session.lasting_run id
  | update | tick => exact session.lasting_update
  | refresh => exact (lasting_restartTimer _).trans session.lasting_update
  | reset => exact session.lasting_reset
  | connect => exact session.lasting_connect
  | disconnect => exact session.lasting_disconnect
  | updateFilter filter => exact session.lasting_updateFilter filter
  | shutdown => exact session.lasting_shutdown
  | complete outcome =>
      cases flying : session.queue.inFlight with
      | none =>
          rw [receive_complete_none flying]
          simp [lasting]
      | some id =>
          rw [lasting_complete sound flying]
          simp

theorem options_receive (sound : session.queue.Sound) (input : Input) :
    (session.receive input).options = session.options := by
  have options := congrArg Lasting.options (lasting_receive sound input)
  cases input with
  | shutdown =>
      refine options.trans ?_
      cases session.shuttingDown <;> rfl
  | _ => exact options

theorem options_receiveAll (options : SessionOptions) (inputs : List Input) :
    ((new options).receiveAll inputs).options = options := by
  induction inputs using List.reverseRecOn with
  | nil => rfl
  | append_singleton inputs input induction =>
      rw [receiveAll_concat, options_receive (coherent_receiveAll options inputs).sound, induction]

/-! ## The end -/

/-- A session is over just if it is shutting down and nothing can come back any more. -/
def Concluded (session : Session) : Prop :=
  session.deleted = (session.shuttingDown && session.queue.inFlight.isNone)

theorem mode_of_shuttingDown (coherent : session.Coherent) (closing : session.shuttingDown = true) :
    session.queue.mode = .disabled := by
  simpa [standing, closing] using coherent.disabled

theorem concluded_of_same {after : Session} (concluded : session.Concluded)
    (lasting : after.lasting = session.lasting)
    (inFlight : after.queue.inFlight = session.queue.inFlight) : after.Concluded := by
  have deleted : after.deleted = session.deleted := congrArg Lasting.deleted lasting
  have closing : after.shuttingDown = session.shuttingDown := congrArg Lasting.shuttingDown lasting
  rw [Concluded, deleted, closing, inFlight]
  exact concluded

theorem concluded_complete (sound : session.queue.Sound) (concluded : session.Concluded)
    (outcome : Outcome) : (session.receive (.complete outcome)).Concluded := by
  have lasting := lasting_receive sound (.complete outcome)
  have deleted : (session.receive (.complete outcome)).deleted =
      (session.deleted || (session.shuttingDown && session.queue.inFlight.isSome)) :=
    congrArg Lasting.deleted lasting
  have closing : (session.receive (.complete outcome)).shuttingDown = session.shuttingDown :=
    congrArg Lasting.shuttingDown lasting
  rw [Concluded, deleted, closing, inFlight_complete sound outcome, concluded]
  cases session.shuttingDown <;> cases session.queue.inFlight <;> rfl

theorem concluded_shutdown (concluded : session.Concluded) :
    session.shutdown.Concluded := by
  have lasting := session.lasting_shutdown
  have inFlight : session.shutdown.queue.inFlight = session.queue.inFlight := by
    rw [shutdown]
    split <;> simp
  cases going : session.shuttingDown with
  | true => exact concluded_of_same concluded (by simpa [going] using lasting) inFlight
  | false =>
      simp only [going, Bool.false_eq_true, if_false] at lasting
      have deleted : session.shutdown.deleted =
          (session.deleted || session.queue.inFlight.isNone) := congrArg Lasting.deleted lasting
      have closing : session.shutdown.shuttingDown = true := congrArg Lasting.shuttingDown lasting
      rw [Concluded, going, Bool.false_and] at concluded
      rw [Concluded, deleted, closing, inFlight, concluded]
      rfl

theorem concluded_takeStep (coherent : session.Coherent) (concluded : session.Concluded) :
    session.takeStep.1.Concluded := by
  cases going : session.shuttingDown with
  | true =>
      refine concluded_of_same concluded rfl ?_
      simp [takeStep, Queue.next, mode_of_shuttingDown coherent going]
  | false =>
      rw [Concluded, going, Bool.false_and] at concluded
      simp [Concluded, takeStep, concluded, going]

theorem concluded_receive (coherent : session.Coherent) (concluded : session.Concluded)
    (input : Input) : (session.receive input).Concluded := by
  have lasting := lasting_receive coherent.sound input
  have kept := inFlight_of_call coherent.sound input
  cases input with
  | complete outcome => exact concluded_complete coherent.sound concluded outcome
  | takeStep => exact concluded_takeStep coherent concluded
  | shutdown => exact concluded_shutdown concluded
  | subscribe | unsubscribe => exact concluded
  | _ => exact concluded_of_same concluded lasting (kept rfl)

theorem concluded_receiveAll (options : SessionOptions) (inputs : List Input) :
    ((new options).receiveAll inputs).Concluded := by
  induction inputs using List.reverseRecOn with
  | nil => rfl
  | append_singleton inputs input induction =>
      rw [receiveAll_concat]
      exact concluded_receive (coherent_receiveAll options inputs) induction input

end Session

end FlowClient
