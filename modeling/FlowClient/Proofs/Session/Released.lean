import FlowClient.Proofs.Queue.Placed
import FlowClient.Proofs.Session.Lasting

/-! Why nobody waits for a task in vain. A task that was handed to a session, or that the
session made, waits or is in flight until it has come to its end. Tasks wait only while one
is in flight, and a session that is over has brought all of them to their end. -/

namespace FlowClient.Session

variable {session : Session} {turns : List Turn} {input : Input} {id : TaskId}

/-! ## Where tasks are -/

section Places

theorem places_follow (session : Session) (task : Task) :
    session.queue.Places (session.follow task).queue := session.queue.places_add task

theorem places_update (session : Session) : session.queue.Places session.update.1.queue := by
  rw [update]
  split
  · exact .rfl
  · exact session.queue.places_add _

theorem places_reset (sound : session.queue.Sound) : session.queue.Places session.reset.queue := by
  rcases session.reset_cases with ⟨-, stays⟩ | ⟨-, -, -, setsOut⟩
  · rw [stays]
    exact .rfl
  · rw [setsOut]
    rw [Queue.load_suspend]
    exact Queue.places_load sound session.loadTask

theorem places_runCommand (session : Session) (args : List String) :
    session.queue.Places (session.runCommand args).1.queue := by
  rw [runCommand]
  split
  · exact .rfl
  · exact session.queue.places_add _

theorem places_run (session : Session) (id : TaskId) :
    session.queue.Places (session.run id).queue := by
  rw [run]
  split
  · exact .rfl
  split
  · exact session.queue.places_advance id _
  split
  · exact session.queue.places_advance id _
  · simp only
    split
    · exact session.queue.places_submit id
    · exact (session.queue.places_setParam id _ _).trans (Queue.places_submit _ id)

theorem places_disconnect (sound : session.queue.Sound) :
    session.queue.Places session.disconnect.queue := by
  rw [disconnect]
  split
  · exact .rfl
  · simpa using Queue.places_disable sound

theorem places_shutdown (sound : session.queue.Sound) :
    session.queue.Places session.shutdown.queue := by
  rw [shutdown]
  split
  · exact .rfl
  · simpa using Queue.places_disable sound

theorem places_connect (sound : session.queue.Sound) :
    session.queue.Places session.connect.queue := by
  by_cases disconnected : session.contact = .disconnected
  · cases going : session.shuttingDown with
    | true => simpa [connect, going] using .rfl
    | false =>
        have enabled : session.queue.Places session.reconnected.queue := by
          simpa using session.queue.places_enable
        have reconnectedSound : session.reconnected.queue.Sound := by
          simpa using sound.adjust (.enable .done : session.queue.Adjusts [] _)
        rw [session.connect_of_free disconnected going]
        split
        · exact enabled.trans (places_reset reconnectedSound)
        · exact enabled.trans (places_update _)
  · simpa [connect, disconnected] using .rfl

theorem places_updateFilter (sound : session.queue.Sound) (filter : SuiteFilter) :
    session.queue.Places (session.updateFilter filter).queue := by
  let changed : Session := { session with filter := session.filter.update filter }
  have changedSound : changed.queue.Sound := sound
  simp only [updateFilter]
  split
  · exact .rfl
  split
  · exact changed.places_follow _
  · exact places_reset changedSound

theorem places_handleNews (sound : session.queue.Sound) (answer : Option News) :
    session.queue.Places (session.handleNews answer).queue := by
  have gained : session.contactGained.queue = session.queue := by simp
  rw [← gained] at sound ⊢
  unfold handleNews
  split
  · exact places_follow _ _
  · exact places_reset sound
  · exact .rfl
  · exact .rfl

/-- A task gets its end, and no other is dropped after that. -/
def Releases (before : Session) (id : TaskId) (after : Session) : Prop :=
  ∃ ending : Progress, ending.isTerminal = true ∧
    (before.queue.advance id ending).Places after.queue

theorem Releases.of_places (ending : Progress) {after : Session} (terminal : ending.isTerminal = true)
    (places : (session.advance id ending).queue.Places after.queue) : session.Releases id after :=
  ⟨ending, terminal, places⟩

theorem releases_recordOnly (kind : TaskKind) (outcome : Outcome) :
    session.Releases id (session.recordOnly id kind outcome) := by
  have places (ending : Progress) (loaded : Bool) :
      (session.advance id ending).queue.Places (if loaded
        then (session.advance id ending).setActivity .idle
        else session.advance id ending).finishIfIdle.queue := by
    cases loaded <;> simpa using .rfl
  cases outcome with
  | ok reply => exact .of_places (.finished (.ofReply kind.onSuccess reply)) rfl (places _ _)
  | error failure => exact .of_places (.aborted failure.text) rfl (places _ _)

theorem releases_syncSucceeded (reply : Reply) :
    session.Releases id (session.syncSucceeded id reply) := by
  refine ⟨.finished .nothing, rfl, ?_⟩
  simp only [syncSucceeded]
  refine .trans ?_ (places_follow _ _)
  split
  · simpa using Queue.places_start _
  · simpa using .rfl

theorem releases_resetSucceeded (reply : Reply) :
    session.Releases id (session.resetSucceeded id reply) := by
  refine ⟨.finished .nothing, rfl, ?_⟩
  simp only [resetSucceeded]
  refine .trans ?_ (places_follow _ _)
  simpa using .rfl

theorem releases_taskSucceeded (sound : session.queue.Sound) (kind : TaskKind) (reply : Reply) :
    session.Releases id (session.taskSucceeded id kind reply) := by
  simp only [taskSucceeded]
  split
  · have advanced (ending : Progress) : (session.advance id ending).queue.Sound :=
      sound.advance id ending
    exact .of_places _ rfl (places_handleNews (advanced _) reply.news)
  · exact releases_syncSucceeded reply
  · exact releases_resetSucceeded reply
  · exact .of_places _ rfl (places_follow _ _)
  · exact .of_places _ rfl (by simpa [updateLoaded] using .rfl)
  all_goals exact .of_places _ rfl .rfl

theorem releases_taskFailed (kind : TaskKind) (failure : Failure) :
    session.Releases id (session.taskFailed id kind failure) := by
  refine ⟨.aborted failure.text, rfl, ?_⟩
  simp only [taskFailed]
  split
  · simpa using .rfl
  · simpa using .rfl
  · split
    · simpa using .rfl
    · exact .rfl

theorem places_complete (sound : session.queue.Sound) (outcome : Outcome) :
    session.queue.Places (session.receive (.complete outcome)).queue := by
  cases flying : session.queue.inFlight with
  | none =>
      rw [receive_complete_none flying]
      exact .rfl
  | some id =>
      rcases sound.inFlight_known id flying with ⟨kind, known⟩
      have released : (session.takenBack id).Releases id (session.taskCompleted id outcome) := by
        rw [taskCompleted_of_known known]
        split
        · exact releases_recordOnly kind outcome
        · cases outcome with
          | ok reply => exact releases_taskSucceeded (sound.complete flying) kind reply
          | error failure => exact releases_taskFailed kind failure
      rcases released with ⟨ending, terminal, places⟩
      rw [receive_complete flying]
      exact (Queue.places_returned sound flying terminal).trans places

/-- Only a caller who makes a task, and keeps it, has one that is nowhere. -/
theorem places_receive (sound : session.queue.Sound) (made : ∀ kind args params,
    input ≠ .make kind args params) : session.queue.Places (session.receive input).queue := by
  cases input with
  | make kind args params => exact absurd rfl (made kind args params)
  | setParam id param value => exact session.queue.places_setParam id param value
  | runCommand args => exact session.places_runCommand args
  | run id => exact session.places_run id
  | update | tick => exact session.places_update
  | refresh => simpa [receive, refresh] using session.places_update
  | reset => exact places_reset sound
  | connect => exact places_connect sound
  | disconnect => exact places_disconnect sound
  | updateFilter filter => exact places_updateFilter sound filter
  | subscribe | unsubscribe => exact .rfl
  | shutdown => exact places_shutdown sound
  | takeStep => exact session.queue.places_next
  | complete outcome => exact places_complete sound outcome

end Places

/-! ## Tasks that are entrusted to the session -/

/-- That a task is handed to the session in a turn, or made by it there. -/
def Turn.Entrusts (turn : Turn) (id : TaskId) : Prop :=
  match turn.input with
  | .make _ _ _ => False
  | .run other => id = other ∧ id < turn.before.queue.ledger.size
  | _ => turn.before.queue.ledger.size ≤ id ∧ id < turn.after.queue.ledger.size

theorem placed_run {task : Task} (known : session.queue.ledger.get? id = some task) :
    (session.run id).queue.Placed id := by
  have kind : session.queue.kind? id = some task.kind := by
    simp [Queue.kind?, Queue.task?, known]
  simp only [run, kind]
  split
  · exact .inl (Ledger.isTerminal_advance known rfl)
  split
  · exact .inl (Ledger.isTerminal_advance known rfl)
  · split
    · exact Queue.placed_submit known
    · exact Queue.placed_submit (show _ = some (task.setParam .clientPar _) by
        simp [Queue.changeTask, known]; rfl)

theorem placed_of_entrusts (sound : session.queue.Sound)
    (entrusts : Turn.Entrusts ⟨session, input⟩ id) : (session.receive input).queue.Placed id := by
  cases input with
  | make => cases entrusts
  | run other =>
      rcases entrusts with ⟨rfl, within⟩
      exact placed_run (List.getElem?_eq_getElem within)
  | _ => exact (places_receive sound (by simp)).new id entrusts.1 entrusts.2

theorem placed_receive (sound : session.queue.Sound) (placed : session.queue.Placed id)
    (input : Input) : (session.receive input).queue.Placed id := by
  cases input with
  | make kind args params => exact Queue.placed_enter _ placed
  | _ => exact (places_receive sound (by simp)).old id placed

theorem placed_receiveAll (options : SessionOptions) (inputs : List Input) :
    ∀ turn ∈ (new options).turns inputs, ∀ id, turn.Entrusts id →
      ((new options).receiveAll inputs).queue.Placed id := by
  induction inputs using List.reverseRecOn with
  | nil => simp
  | append_singleton inputs input induction =>
      have sound := (coherent_receiveAll options inputs).sound
      rw [receiveAll_concat, turns_concat]
      intro turn member id entrusts
      rcases List.mem_append.mp member with old | last
      · exact placed_receive sound (induction turn old id entrusts) input
      · rw [List.mem_singleton.mp last] at entrusts
        exact placed_of_entrusts sound entrusts

/-! ## Queues that go on -/

/-- What holds of the queue once the first reset was asked for. -/
structure Flows (queue : Queue) : Prop where
  unsuspended : queue.mode ≠ .suspended
  tidy : queue.Tidy

theorem tidy_receive (sound : session.queue.Sound) (tidy : session.queue.Tidy) (input : Input) :
    (session.receive input).queue.Tidy := by
  have disables (same : (session.receive input).queue = session.queue.disable) :
      (session.receive input).queue.Tidy := by
    rw [same]
    exact fun _ => session.queue.disable_frame.2.1
  cases queueing_receive sound input with
  | moves call moves => exact tidy.move moves
  | disconnects same => exact disables same
  | closes same => exact disables same
  | dispatches same =>
      rw [same]
      intro disabled
      have disabled : session.queue.mode = .disabled := session.queue.next_frame.1 ▸ disabled
      simpa [Queue.next, disabled] using tidy disabled
  | idles free same => exact same ▸ tidy
  | @returns outcome other ending flying terminal moves =>
      rcases session.queue.complete_frame other with ⟨-, pending⟩
      have mode : (session.queue.complete other).1.mode = session.queue.mode := by
        simp [Queue.complete, flying]
      have returned : ((session.queue.complete other).1.advance other ending).Tidy :=
        fun disabled => pending.trans (tidy (mode.symm.trans disabled))
      exact returned.move moves

theorem tidy_receiveAll (options : SessionOptions) (inputs : List Input) :
    ((new options).receiveAll inputs).queue.Tidy := by
  induction inputs using List.reverseRecOn with
  | nil => exact fun _ => rfl
  | append_singleton inputs input induction =>
      rw [receiveAll_concat]
      exact tidy_receive (coherent_receiveAll options inputs).sound induction input

theorem flows_receive (sound : session.queue.Sound) (flows : Flows session.queue) (input : Input) :
    Flows (session.receive input).queue := by
  refine ⟨?_, tidy_receive sound flows.tidy input⟩
  cases queueing_receive sound input with
  | moves call moves =>
      rcases moves.mode with same | running
      · exact same ▸ flows.unsuspended
      · simp [running]
  | disconnects same => simp [same]
  | closes same => simp [same]
  | dispatches same => exact same ▸ session.queue.next_frame.1 ▸ flows.unsuspended
  | idles free same => exact same ▸ flows.unsuspended
  | @returns outcome other ending flying terminal moves =>
      rcases moves.mode with same | running
      · rw [same]
        simpa [Queue.advance, Queue.complete, flying] using flows.unsuspended
      · simp [running]

theorem flows_receiveAll (options : SessionOptions) (inputs : List Input) :
    Flows ((new options).receiveAll (.reset :: inputs)).queue := by
  induction inputs using List.reverseRecOn with
  | nil =>
      have running : ((new options).receiveAll [.reset]).queue.mode = .running := rfl
      exact ⟨by simp [running], fun disabled => by simp [running] at disabled⟩
  | append_singleton inputs input induction =>
      rw [← List.cons_append, receiveAll_concat]
      exact flows_receive (coherent_receiveAll options _).sound induction input

/-! ## Ends that stay -/

theorem extends_receive (sound : session.queue.Sound) (input : Input) :
    session.queue.ledger.Extends (session.receive input).queue.ledger := by
  cases queueing_receive sound input with
  | moves call moves => exact moves.extends
  | disconnects same => exact same ▸ session.queue.extends_disable
  | closes same => exact same ▸ session.queue.extends_disable
  | dispatches same => exact same ▸ session.queue.extends_next
  | idles free same => exact same ▸ .rfl
  | @returns outcome other ending flying terminal moves =>
      have ledger := (session.queue.complete_frame other).1
      have ends := session.queue.ledger.extends_advance other ending
      exact .trans (by simpa [Queue.advance, ledger] using ends) moves.extends

theorem extends_receiveAll (sound : session.queue.Sound) (inputs : List Input) :
    session.queue.ledger.Extends (session.receiveAll inputs).queue.ledger := by
  have keeps := receiveAll_keeps
    (fun later => session.queue.ledger.Extends later.queue.ledger ∧ later.queue.Sound)
    ⟨.rfl, sound⟩
    (fun _ input kept => ⟨kept.1.trans (extends_receive kept.2 input), sound_receive kept.2 input⟩)
  exact (keeps inputs).1

/-- All states of a run, in order. -/
def states (turns : List Turn) (session : Session) : List Session :=
  turns.map Turn.before ++ [session]

theorem states_concat (turns : List Turn) (session after : Session) (input : Input) :
    states (turns ++ [⟨session, input⟩]) after = states turns session ++ [after] := by
  simp [states]

/-- That what has come to its end in one state has the same end in another: status, result and
reason. -/
def KeepsEnds (earlier later : Session) : Prop :=
  ∀ id task, earlier.queue.task? id = some task → task.isTerminal = true →
    ∃ kept, later.queue.task? id = some kept ∧ kept.progress = task.progress

theorem keepsEnds_of_extends {earlier later : Session}
    (extended : earlier.queue.ledger.Extends later.queue.ledger) : earlier.KeepsEnds later := by
  intro id task known ended
  rcases extended id task known with ⟨kept, keptKnown, becomes⟩
  exact ⟨kept, keptKnown, becomes.2 ended⟩

theorem extends_of_mem_states (options : SessionOptions) (inputs : List Input) :
    ∀ earlier ∈ states ((new options).turns inputs) ((new options).receiveAll inputs),
      earlier.queue.ledger.Extends ((new options).receiveAll inputs).queue.ledger := by
  induction inputs using List.reverseRecOn with
  | nil =>
      intro earlier member
      rw [List.mem_singleton.mp member]
      exact .rfl
  | append_singleton inputs input induction =>
      rw [receiveAll_concat, turns_concat, states_concat]
      intro earlier member
      rcases List.mem_append.mp member with old | last
      · exact (induction earlier old).trans
          (extends_receive (coherent_receiveAll options inputs).sound input)
      · rw [List.mem_singleton.mp last]
        exact .rfl

theorem pairwise_keepsEnds (options : SessionOptions) (inputs : List Input) :
    (states ((new options).turns inputs) ((new options).receiveAll inputs)).Pairwise KeepsEnds := by
  induction inputs using List.reverseRecOn with
  | nil => exact List.pairwise_singleton _ _
  | append_singleton inputs input induction =>
      have extended := extends_of_mem_states options (inputs ++ [input])
      rw [receiveAll_concat, turns_concat, states_concat] at extended ⊢
      refine List.pairwise_append.mpr ⟨induction, List.pairwise_singleton _ _, ?_⟩
      intro earlier member last lastMember
      rw [List.mem_singleton.mp lastMember]
      exact keepsEnds_of_extends (extended earlier (List.mem_append_left _ member))

/-! ## Runs that are driven -/

/-- The inputs of a run in which a step is taken after each of them. -/
def driven (inputs : List Input) : List Input := inputs.flatMap fun input => [input, .takeStep]

theorem driven_ends (inputs : List Input) :
    ∃ earlier, driven (.reset :: inputs) = .reset :: earlier ++ [.takeStep] := by
  induction inputs using List.reverseRecOn with
  | nil => exact ⟨[], rfl⟩
  | append_singleton inputs input induction =>
      rcases induction with ⟨earlier, same⟩
      refine ⟨earlier ++ [.takeStep, input], ?_⟩
      rw [driven, ← List.cons_append, List.flatMap_append, ← driven, same]
      simp

/-- What becomes of the tasks that are entrusted to a session. -/
structure Released (turns : List Turn) (session : Session) : Prop where
  placed : ∀ turn ∈ turns, ∀ id, turn.Entrusts id →
    session.queue.ledger.isTerminal id = true ∨ session.queue.inFlight = some id ∨
      id ∈ session.queue.pending
  /-- Tasks wait only while one is in flight. -/
  flowing : ∀ id ∈ session.queue.pending, session.queue.inFlight.isSome = true
  unsuspended : session.queue.state ≠ .suspended
  /-- What has come to its end at some time keeps its status, its result and its reason. -/
  final : (states turns session).Pairwise KeepsEnds
  ended : session.deleted = true → ∀ turn ∈ turns, ∀ id, turn.Entrusts id →
    session.queue.ledger.isTerminal id = true

theorem state_ne_suspended {queue : Queue} (unsuspended : queue.mode ≠ .suspended) :
    queue.state ≠ .suspended := by
  cases mode : queue.mode with
  | suspended => exact absurd mode unsuspended
  | disabled => simp [Queue.state, mode]
  | running =>
      simp only [Queue.state, mode]
      split
      · simp
      · split <;> simp

/-- In a session that is over nothing waits, and nothing is in flight. -/
theorem isTerminal_of_deleted (coherent : session.Coherent) (concluded : session.Concluded)
    (tidy : session.queue.Tidy) (deleted : session.deleted = true)
    (placed : session.queue.Placed id) : session.queue.ledger.isTerminal id = true := by
  rw [Concluded, deleted, eq_comm, Bool.and_eq_true, Option.isNone_iff_eq_none] at concluded
  have empty := tidy (mode_of_shuttingDown coherent concluded.1)
  simpa [Queue.Placed, concluded.2, empty] using placed

/-- In any run that begins with a reset, and in which a step is taken after each input, nobody
waits in vain for a task that the session has. -/
theorem released_of_driven (options : SessionOptions) (inputs : List Input) :
    Released ((new options).turns (driven (.reset :: inputs)))
      ((new options).receiveAll (driven (.reset :: inputs))) := by
  have placed := placed_receiveAll options (driven (.reset :: inputs))
  have final := pairwise_keepsEnds options (driven (.reset :: inputs))
  have coherent := coherent_receiveAll options (driven (.reset :: inputs))
  have concluded := concluded_receiveAll options (driven (.reset :: inputs))
  rcases driven_ends inputs with ⟨earlier, same⟩
  rw [same] at placed final coherent concluded ⊢
  have before := flows_receiveAll options earlier
  have flows := flows_receiveAll options (earlier ++ [.takeStep])
  refine ⟨placed, ?_, state_ne_suspended flows.unsuspended, final, ?_⟩
  · intro id waits
    rw [receiveAll_concat] at waits ⊢
    exact Queue.isSome_inFlight_next before.unsuspended before.tidy waits
  · intro deleted turn member id entrusts
    exact isTerminal_of_deleted coherent concluded flows.tidy deleted (placed turn member id entrusts)

end FlowClient.Session
