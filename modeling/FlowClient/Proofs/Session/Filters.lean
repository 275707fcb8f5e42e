import FlowClient.Proofs.Session.Queueing

/-! Where the filter of a session comes from: from the callers that update it, and from the
lists of suites that are used. -/

namespace FlowClient.Session

/-! ## Completions -/

section Completions

variable (session : Session) (id : TaskId)

@[simp] theorem filter_recordOnly (kind : TaskKind) (outcome : Outcome) :
    (session.recordOnly id kind outcome).filter = session.filter := by
  have settled (ending : Progress) (again : Bool) :
      (if again then (session.advance id ending).setActivity .idle
        else session.advance id ending).finishIfIdle.filter = session.filter := by
    cases again <;> simp [advance]
  cases outcome with
  | ok reply => exact settled _ _
  | error failure => exact settled _ _

@[simp] theorem filter_syncSucceeded (reply : Reply) :
    (session.syncSucceeded id reply).filter = session.filter := by
  simp only [syncSucceeded]
  split <;> simp [follow, advance]

@[simp] theorem filter_resetSucceeded (reply : Reply) :
    (session.resetSucceeded id reply).filter = session.filter := by
  simp [resetSucceeded, follow, advance]

/-- What a reply that is used makes of the filter. -/
def filterAfter (kind : TaskKind) (reply : Reply) : SuiteFilter :=
  match kind with
  | .suiteList => session.filter.setLoaded reply.lines
  | _ => session.filter

theorem filter_taskSucceeded (kind : TaskKind) (reply : Reply) :
    (session.taskSucceeded id kind reply).filter = session.filterAfter kind reply := by
  cases kind with
  | news => exact filter_handleNews _ reply.news
  | sync => exact session.filter_syncSucceeded id reply
  | reset => exact session.filter_resetSucceeded id reply
  | suiteList => simp [taskSucceeded, TaskKind.onSuccess, updateLoaded, advance, filterAfter]
  | _ => rfl

theorem filter_taskFailed (kind : TaskKind) (failure : Failure) :
    (session.taskFailed id kind failure).filter = session.filter := by
  simp only [taskFailed]
  split
  · simp [advance]
  · simp [advance]
  · split <;> simp [advance]

end Completions

variable {session : Session} {id : TaskId}

/-- A task that comes back changes the filter only by the list of suites that it brings, if
that is used. -/
theorem filter_complete {kind : TaskKind} (flying : session.queue.inFlight = some id)
    (known : session.queue.kind? id = some kind) (outcome : Outcome) :
    (session.receive (.complete outcome)).filter = match outcome with
      | .ok reply =>
          if (session.takenBack id).isSuperseded kind then session.filter
          else session.filterAfter kind reply
      | .error _ => session.filter := by
  rw [receive_complete flying, taskCompleted_of_known known]
  split
  · rw [filter_recordOnly]
    cases outcome <;> rfl
  · cases outcome with
    | ok reply => exact (session.takenBack id).filter_taskSucceeded id kind reply
    | error failure => exact (session.takenBack id).filter_taskFailed id kind failure

/-! ## Calls -/

@[simp] theorem filter_update (session : Session) : session.update.1.filter = session.filter := by
  rw [update]
  split <;> rfl

@[simp] theorem filter_runCommand (session : Session) (args : List String) :
    (session.runCommand args).1.filter = session.filter := by
  rw [runCommand]
  split <;> rfl

@[simp] theorem filter_run (session : Session) (id : TaskId) :
    (session.run id).filter = session.filter := by
  rw [run]
  split
  · rfl
  split
  · rfl
  split <;> rfl

@[simp] theorem filter_disconnect (session : Session) :
    session.disconnect.filter = session.filter := by
  rw [disconnect]
  split <;> simp

@[simp] theorem filter_shutdown (session : Session) : session.shutdown.filter = session.filter := by
  rw [shutdown]
  split <;> simp

/-- What an input may do to the filter. -/
inductive Filters (before after : Session) : Input → Prop
  | keeps {input} (same : after.filter = before.filter) : Filters before after input
  | updates (filter : SuiteFilter) (same : after.filter = before.filter.update filter) :
      Filters before after (.updateFilter filter)
  | lists {reply} (id : TaskId) (flying : before.queue.inFlight = some id)
      (kind : before.queue.kind? id = some .suiteList)
      (same : after.filter = before.filter.setLoaded reply.lines) :
      Filters before after (.complete (.ok reply))

theorem filters_complete (sound : session.queue.Sound) (outcome : Outcome) :
    Filters session (session.receive (.complete outcome)) (.complete outcome) := by
  cases flying : session.queue.inFlight with
  | none => exact .keeps (by rw [receive_complete_none flying])
  | some id =>
      rcases sound.inFlight_known id flying with ⟨kind, known⟩
      have after := filter_complete flying known outcome
      cases outcome with
      | error failure => exact .keeps after
      | ok reply =>
          simp only at after
          split at after
          · exact .keeps after
          · by_cases listing : kind = .suiteList
            · subst listing
              exact .lists id flying known after
            · refine .keeps (after.trans ?_)
              cases kind <;> first | rfl | exact absurd rfl listing

theorem filters_receive (sound : session.queue.Sound) (input : Input) :
    Filters session (session.receive input) input := by
  cases input with
  | updateFilter filter => exact .updates filter (session.filter_updateFilter filter)
  | complete outcome => exact filters_complete sound outcome
  | runCommand args => exact .keeps (session.filter_runCommand args)
  | run id => exact .keeps (session.filter_run id)
  | update => exact .keeps session.filter_update
  | tick => exact .keeps session.filter_update
  | refresh => exact .keeps (by simp [receive, refresh])
  | reset => exact .keeps session.filter_reset
  | connect => exact .keeps session.filter_connect
  | disconnect => exact .keeps session.filter_disconnect
  | shutdown => exact .keeps session.filter_shutdown
  | _ => exact .keeps rfl

end FlowClient.Session
