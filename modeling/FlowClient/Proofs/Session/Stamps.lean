import FlowClient.Proofs.Session.Definitions
import FlowClient.Proofs.Session.Lasting
import FlowClient.Proofs.Tables

/-! Where a definition says it comes from. The client stamps every definition that it loads
as a whole with the endpoint and with the name under which it shows the server. Changes keep
the endpoint, but the variables that they set may be the one that holds the name. -/

namespace FlowClient

/-! ## Stamps -/

open Session (viewerVariable)

/-- The name for the server that a change sets, if it sets one. -/
def NodeUpdate.viewerName? (update : NodeUpdate) : Option String :=
  if update.isServer then update.attributes.bind (·.get? viewerVariable) else none

/-- The name of the server after the changes of a reply. The last one that sets it counts. -/
def Reply.rename (reply : Reply) (name : String) : String :=
  reply.changes.foldl (fun name update => update.viewerName?.getD name) name

/-- What a definition says of where it comes from. -/
structure Definition.Stamped (definition : Definition) (endpoint : String × String)
    (name : String) : Prop where
  endpoint : definition.server.endpoint = some endpoint
  viewer : definition.server.userVariables.get? viewerVariable = some name

variable {definition : Definition} {endpoint : String × String} {name : String}

theorem Definition.stamped_stamped (definition : Definition) (options : SessionOptions) :
    (definition.stamped options).Stamped (options.host, options.port) options.name where
  endpoint := rfl
  viewer := Table.get?_insert_same _ viewerVariable options.name

/-- The update of a node does not concern the server. -/
theorem Definition.server_updated (definition : Definition) {update : NodeUpdate}
    (below : update.isServer = false) : (definition.updated update).server = definition.server := by
  rw [updated, updated?, below]
  cases changed : definition.change? update.path update.applyTo with
  | none => simp
  | some after =>
      rcases Option.map_eq_some_iff.mp changed with ⟨suites, -, rfl⟩
      simp

theorem Definition.Stamped.updated (stamped : definition.Stamped endpoint name)
    (update : NodeUpdate) :
    (definition.updated update).Stamped endpoint (update.viewerName?.getD name) := by
  cases server : update.isServer with
  | false =>
      have same := definition.server_updated server
      have named : update.viewerName? = none := by simp [NodeUpdate.viewerName?, server]
      rw [named]
      exact ⟨same ▸ stamped.endpoint, same ▸ stamped.viewer⟩
  | true =>
      have changed : (definition.updated update).server = update.applyToServer definition.server := by
        simp [Definition.updated, updated?, server]
      have named : update.viewerName? = update.attributes.bind (·.get? viewerVariable) := by
        simp [NodeUpdate.viewerName?, server]
      refine ⟨changed ▸ stamped.endpoint, ?_⟩
      rw [changed, named]
      cases additions : update.attributes with
      | none => simpa [NodeUpdate.applyToServer, additions] using stamped.viewer
      | some table =>
          simp only [NodeUpdate.applyToServer, additions, Table.get?_insertAll, stamped.viewer]
          cases given : table.get? viewerVariable <;> simp [given]

theorem Definition.Stamped.updatedBy (stamped : definition.Stamped endpoint name) (reply : Reply) :
    (definition.updatedBy reply).Stamped endpoint (reply.rename name) := by
  unfold Definition.updatedBy Reply.rename
  induction reply.changes generalizing definition name with
  | nil => exact stamped
  | cons update changes induction => exact induction (stamped.updated update)

namespace Session

variable {session : Session} {input : Input}

/-! ## Turns -/

/-- The reply that comes back in a turn, with the kind of its task, if it is used. -/
def Turn.used? (turn : Turn) : Option (TaskKind × Reply) :=
  match turn.input, turn.before.flyingKind? with
  | .complete (.ok reply), some kind =>
      if turn.before.isSuperseded kind then none else some (kind, reply)
  | _, _ => none

/-- Whether a turn takes over the definition of a reset. -/
def Turn.loads (turn : Turn) : Bool :=
  match turn.used? with
  | some (.reset, _) => true
  | _ => false

/-- Whether a turn takes in changes that give the server another name than the client does. -/
def Turn.renames (turn : Turn) : Bool :=
  match turn.used? with
  | some (.sync, reply) => reply.rename turn.before.name != turn.before.name
  | _ => false

/-- The name that a definition has for the server after a turn, if it had `name` before. -/
def Turn.nameServer (name : String) (turn : Turn) : String :=
  match turn.used? with
  | some (.reset, _) => turn.before.name
  | some (.sync, reply) => reply.rename (if reply.whole?.isSome then turn.before.name else name)
  | _ => name

/-- The definition changes with the replies that are used, and with nothing else. -/
theorem definition_receive (coherent : session.Coherent) (input : Input) :
    (session.receive input).definition = match Turn.used? ⟨session, input⟩ with
      | some (kind, reply) => session.definitionAfter kind reply
      | none => session.definition := by
  cases input with
  | complete outcome =>
      cases flying : session.queue.inFlight with
      | none =>
          rw [receive_complete_none flying]
          cases outcome <;> simp [Turn.used?, flyingKind?, flying]
      | some id =>
          rcases coherent.sound.inFlight_known id flying with ⟨kind, known⟩
          rw [definition_complete coherent.sound flying known]
          cases outcome with
          | error failure => rfl
          | ok reply =>
              simp only [Turn.used?, flyingKind?_of_known flying known]
              cases session.isSuperseded kind <;> rfl
  | takeStep => rfl
  | _ => exact definition_of_call coherent rfl

variable {options : SessionOptions} {name : String}

theorem stamped_receive (coherent : session.Coherent) (own : session.options = options)
    (input : Input) (stamped : session.definition.Stamped (options.host, options.port) name) :
    (session.receive input).definition.Stamped (options.host, options.port)
      (Turn.nameServer name ⟨session, input⟩) := by
  subst own
  rw [definition_receive coherent input, Turn.nameServer]
  rcases Turn.used? ⟨session, input⟩ with _ | ⟨kind, reply⟩
  · exact stamped
  have loaded (definition : Definition) := definition.stamped_stamped session.options
  cases kind with
  | reset => exact loaded _
  | sync =>
      refine Definition.Stamped.updatedBy ?_ reply
      cases reply.whole? with
      | none => exact stamped
      | some definition => exact loaded definition
  | _ => exact stamped

theorem stamped_of_loads (coherent : session.Coherent) (own : session.options = options)
    (loads : Turn.loads ⟨session, input⟩ = true) :
    (session.receive input).definition.Stamped (options.host, options.port)
      (Turn.nameServer name ⟨session, input⟩) := by
  subst own
  rw [definition_receive coherent input, Turn.nameServer]
  cases used : Turn.used? ⟨session, input⟩ with
  | none => simp [Turn.loads, used] at loads
  | some taken =>
      rcases taken with ⟨kind, reply⟩
      simp only [Turn.loads, used] at loads
      cases kind <;> first | exact Definition.stamped_stamped _ session.options | cases loads

theorem nameServer_of_not_renames {turn : Turn} (same : turn.renames = false) :
    turn.nameServer turn.before.name = turn.before.name := by
  rw [Turn.nameServer]
  cases used : turn.used? with
  | none => rfl
  | some taken =>
      rcases taken with ⟨kind, reply⟩
      simp only [Turn.renames, used] at same
      cases kind with
      | sync => simpa using same
      | _ => rfl

/-! ## Any run -/

/-- What the definition of a session says of where it comes from. -/
structure KnowsOrigin (turns : List Turn) (session : Session) : Prop where
  endpoint : session.definition.server.endpoint = some (session.options.host, session.options.port)
  /-- Each load names the server anew, and changes that set the name are followed. -/
  viewer : session.definition.server.userVariables.get? viewerVariable =
    some (turns.foldl Turn.nameServer session.name)
  own : (∀ turn ∈ turns, turn.renames = false) →
    session.definition.server.userVariables.get? viewerVariable = some session.name

theorem stamped_receiveAll (options : SessionOptions) (inputs : List Input)
    (loaded : ((new options).turns inputs).any Turn.loads = true) :
    ((new options).receiveAll inputs).definition.Stamped (options.host, options.port)
      (((new options).turns inputs).foldl Turn.nameServer options.name) := by
  induction inputs using List.reverseRecOn with
  | nil => cases loaded
  | append_singleton inputs input induction =>
      have coherent := coherent_receiveAll options inputs
      have own := options_receiveAll options inputs
      simp only [turns_concat, List.any_append, List.any_cons, List.any_nil, Bool.or_false,
        Bool.or_eq_true] at loaded
      rw [receiveAll_concat, turns_concat, List.foldl_append]
      rcases loaded with earlier | now
      · exact stamped_receive coherent own input (induction earlier)
      · exact stamped_of_loads coherent own now

theorem foldl_nameServer_of_not_renames (options : SessionOptions) (inputs : List Input)
    (same : ∀ turn ∈ (new options).turns inputs, turn.renames = false) :
    ((new options).turns inputs).foldl Turn.nameServer options.name = options.name := by
  induction inputs using List.reverseRecOn with
  | nil => rfl
  | append_singleton inputs input induction =>
      rw [turns_concat] at same
      rw [turns_concat, List.foldl_append,
        induction fun turn member => same turn (List.mem_append_left _ member)]
      have own : ((new options).receiveAll inputs).name = options.name :=
        congrArg SessionOptions.name (options_receiveAll options inputs)
      have last := nameServer_of_not_renames
        (same ⟨(new options).receiveAll inputs, input⟩ (List.mem_append_right _ List.mem_cons_self))
      exact own ▸ last

/-- Once a definition has been loaded it says which server it comes from, and, but for changes
that rename the server, under which name the client shows that. -/
theorem knowsOrigin_turns (options : SessionOptions) (inputs : List Input)
    (loaded : ((new options).turns inputs).any Turn.loads = true) :
    KnowsOrigin ((new options).turns inputs) ((new options).receiveAll inputs) := by
  have stamped := stamped_receiveAll options inputs loaded
  have own := options_receiveAll options inputs
  refine ⟨own.symm ▸ stamped.endpoint, ?_, ?_⟩
  · rw [name, own]
    exact stamped.viewer
  · intro same
    rw [stamped.viewer, foldl_nameServer_of_not_renames options inputs same, name, own]

/-- A session loads its definition, and then the server sets the variable to another name. -/
def renamed : List Input :=
  .reset :: loads ++ [.update, .takeStep, .complete (.ok { news := some .news }), .takeStep,
    .complete (.ok { changes := [{
      path := "/", aspects := [.serverVariable],
      attributes := some (.ofList [("nameInViewer", "other")]) }] })]

theorem knowsOrigin_of_renamed : ((new sampleOptions).turns renamed).any Turn.loads = true ∧
    KnowsOrigin ((new sampleOptions).turns renamed) ((new sampleOptions).receiveAll renamed) :=
  have loaded : ((new sampleOptions).turns renamed).any Turn.loads = true := by decide +kernel
  ⟨loaded, knowsOrigin_turns sampleOptions renamed loaded⟩

/-- The stamp does not outlast such a change. -/
theorem viewer_of_renamed : ((new sampleOptions).receiveAll renamed).definition.server.endpoint =
      some ("localhost", "3141") ∧
    ((new sampleOptions).receiveAll renamed).definition.server.userVariables.get? viewerVariable =
      some "other" ∧ ((new sampleOptions).receiveAll renamed).name = "prod" := by
  decide +kernel

end Session

end FlowClient
