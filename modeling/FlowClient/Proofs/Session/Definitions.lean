import FlowClient.Proofs.Session.Effects

/-! Where the definition of a session comes from: from the replies to resets and syncs that
are used, and from nothing else. -/

namespace FlowClient

/-- The definition after the changes of a reply. -/
def Definition.updatedBy (definition : Definition) (reply : Reply) : Definition :=
  reply.changes.foldl Definition.updated definition

def Definition.stamped (definition : Definition) (options : SessionOptions) : Definition :=
  let definition := definition.setVariable Session.viewerVariable options.name
  let server := { definition.server with endpoint := some (options.host, options.port) }
  { definition with server }

/-- The definition that the reply to a sync brings as a whole, if it does. -/
def Reply.whole? (reply : Reply) : Option Definition :=
  if reply.fullSync then reply.definition else none

namespace Session

variable (session : Session) (id : TaskId)

@[simp] theorem definition_follow (task : Task) :
    (session.follow task).definition = session.definition := rfl

@[simp] theorem definition_advance (next : Progress) :
    (session.advance id next).definition = session.definition := rfl

@[simp] theorem definition_reset : session.reset.definition = session.definition := by
  rcases session.reset_cases with ⟨-, stays⟩ | ⟨-, -, -, setsOut⟩
  · rw [stays]
  · rw [setsOut]
    exact congrArg Standing.definition session.standing_emptied

@[simp] theorem definition_stampServer :
    session.stampServer.definition = session.definition.stamped session.options := rfl

theorem definition_takeDefinition (reply : Reply) : (session.takeDefinition reply).definition =
    (reply.whole?.map (·.stamped session.options)).getD session.definition := by
  unfold takeDefinition Reply.whole?
  split
  · split <;> simp [*]
  · rfl

theorem definition_handleNews (answer : Option News) :
    (session.handleNews answer).definition = session.definition := by
  unfold handleNews
  match answer with
  | some .news => simp
  | some .doFullSync => simp
  | some .noNews => simp
  | none => simp

theorem definition_syncSucceeded (reply : Reply) : (session.syncSucceeded id reply).definition =
    ((reply.whole?.map (·.stamped session.options)).getD session.definition).updatedBy reply := by
  rw [← definition_takeDefinition]
  unfold syncSucceeded Definition.updatedBy
  simp only [definition_follow]
  split <;> simp

theorem definition_resetSucceeded (reply : Reply) :
    (session.resetSucceeded id reply).definition =
      (reply.definition.getD {}).stamped session.options := by
  simp [resetSucceeded]

/-- What a reply that is used makes of the definition. -/
def definitionAfter (kind : TaskKind) (reply : Reply) : Definition :=
  match kind with
  | .sync => ((reply.whole?.map (·.stamped session.options)).getD session.definition).updatedBy reply
  | .reset => (reply.definition.getD {}).stamped session.options
  | _ => session.definition

theorem definition_taskSucceeded (kind : TaskKind) (reply : Reply) :
    (session.taskSucceeded id kind reply).definition = session.definitionAfter kind reply := by
  cases kind with
  | news => exact definition_handleNews _ reply.news
  | sync => exact session.definition_syncSucceeded id reply
  | reset => exact session.definition_resetSucceeded id reply
  | suiteList => simp [taskSucceeded, TaskKind.onSuccess, updateLoaded, definitionAfter]
  | _ => rfl

theorem definition_taskFailed (kind : TaskKind) (failure : Failure) :
    (session.taskFailed id kind failure).definition = session.definition := by
  simp only [taskFailed]
  split
  · simp
  · simp
  · split <;> simp

variable {session id}

/-- A task that comes back changes the definition by the reply that it brings, if that is used. -/
theorem definition_complete {kind : TaskKind} (sound : session.queue.Sound)
    (flying : session.queue.inFlight = some id) (known : session.queue.kind? id = some kind)
    (outcome : Outcome) : (session.receive (.complete outcome)).definition =
      match outcome with
      | .ok reply =>
          if session.isSuperseded kind then session.definition
          else session.definitionAfter kind reply
      | .error _ => session.definition := by
  rw [receive_complete flying, taskCompleted_of_known known, isSuperseded_takenBack sound flying known]
  split
  · rw [show ((session.takenBack id).recordOnly id kind outcome).definition = session.definition from
      congrArg Standing.definition (standing_recordOnly (session.takenBack id) id kind outcome)]
    cases outcome <;> rfl
  · cases outcome with
    | ok reply => exact (session.takenBack id).definition_taskSucceeded id kind reply
    | error failure => exact (session.takenBack id).definition_taskFailed id kind failure

/-- Callers do not change the definition. -/
theorem definition_of_call (coherent : session.Coherent) {input : Input}
    (call : input.isCall = true) : (session.receive input).definition = session.definition := by
  cases effect_receive coherent input with
  | stays same => exact congrArg Standing.definition same
  | begins id going same => exact congrArg Standing.definition same
  | connects going filled same => exact congrArg Standing.definition same
  | disconnects resetting kept same => exact congrArg Standing.definition same
  | closes resetting kept same => exact congrArg Standing.definition same
  | fails flying useless same => cases call
  | follows taken definition mirror part filled same => cases call
  | scans definition cleared filter same => cases call

end Session

end FlowClient
