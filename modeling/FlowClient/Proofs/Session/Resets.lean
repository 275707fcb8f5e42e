import FlowClient.Proofs.Session.Held

/-! The reset that a session waits for. There is one at a time. For as long as it is there the
mirror is empty and the session loads, and it goes away by coming back or by being given
up. One that is given up while it waits leaves a session behind that still says it loads. -/

namespace FlowClient.Session

variable {session : Session} {turns : List Turn} {input : Input} {options : SessionOptions}

/-! ## Empty mirrors -/

/-- A session that loads shows nothing. -/
def Standing.Blank (standing : Standing) : Prop := standing.activity = .loading → standing.shown = []

theorem blank_receive (coherent : session.Coherent) (blank : Standing.Blank session.standing)
    (input : Input) : Standing.Blank (session.receive input).standing := by
  cases effect_receive coherent input with
  | stays same => exact same ▸ blank
  | begins id going same ended => exact same ▸ fun _ => rfl
  | connects going filled same => exact same ▸ blank
  | disconnects resetting kept same => exact same ▸ blank
  | closes resetting kept same => exact same ▸ blank
  | fails flying useless same => exact same ▸ fun loading => by cases loading
  | @follows reply taken definition mirror part filled same used =>
      rw [same]
      intro loading
      have before := ((taken.keepsUp_applySync reply).filled filled).1
      rw [mirror] at before
      have empty : session.mirror.suites = [] := blank loading
      simp [Mirror.isEmpty, empty] at before
  | scans definition cleared filter same used => exact same ▸ fun loading => by cases loading

theorem blank_receiveAll (options : SessionOptions) (inputs : List Input) :
    Standing.Blank ((new options).receiveAll inputs).standing := by
  induction inputs using List.reverseRecOn with
  | nil => exact fun loading => by cases loading
  | append_singleton inputs input induction =>
      rw [receiveAll_concat]
      exact blank_receive (coherent_receiveAll options inputs) induction input

theorem isEmpty_of_isResetting (coherent : session.Coherent)
    (blank : Standing.Blank session.standing) (current : session.queue.isResetting = true) :
    session.mirror.isEmpty = true :=
  List.isEmpty_iff.mpr (blank (coherent.loading current))

/-! ## The reset in flight -/

/-- A reset in flight has come to its end only if a caller ran it there. -/
def AliveInFlight (turns : List Turn) (session : Session) : Prop :=
  ∀ id, session.queue.resetting = some id → session.queue.inFlight = some id →
    session.queue.ledger.isTerminal id = true →
      ∃ turn ∈ turns, turn.before.queue.inFlight = some id ∧ turn.input = .run id

theorem pending_eq_nil_of_flying {queue : Queue} {id : TaskId} (sound : queue.Sound)
    (resetting : queue.resetting = some id) (flying : queue.inFlight = some id) :
    queue.pending = [] := by
  rcases sound.alone id resetting with empty | ⟨-, apart⟩
  · exact empty
  · exact absurd flying apart

/-- Of all that callers may do, only a run can end a reset in flight. -/
theorem isTerminal_of_unran {id : TaskId} (sound : session.queue.Sound)
    (resetting : session.queue.resetting = some id) (flying : session.queue.inFlight = some id)
    (unran : input ≠ .run id)
    (moves : session.queue.Moves input.named (Task.Reports (session.receive input).filter)
      (session.receive input).queue) :
    (session.receive input).queue.ledger.isTerminal id = session.queue.ledger.isTerminal id := by
  have known := Queue.lt_size_of_kind? (sound.resetting_kind id resetting)
  have aside : id ∉ session.queue.pending := by
    simp [pending_eq_nil_of_flying sound resetting flying]
  have unnamed (absent : id ∉ input.named) :=
    Ledger.isTerminal_congr (moves.get?_eq known absent aside)
  cases input with
  | setParam other param value =>
      exact session.queue.ledger.isTerminal_change other id fun _ => rfl
  | run other =>
      refine unnamed fun member => unran ?_
      rw [List.mem_singleton.mp member]
  | _ => exact unnamed List.not_mem_nil

theorem isTerminal_disable {queue : Queue} {id : TaskId} (aside : id ∉ queue.pending) :
    queue.disable.ledger.isTerminal id = queue.ledger.isTerminal id := by
  rw [queue.disable_frame.1]
  exact Ledger.isTerminal_congr (Ledger.get?_advanceAll_other _ aside)

/-- A reset that is in flight after a call was so before. -/
theorem resetting_of_moves {queue later : Queue} {named : List TaskId} {made : Task → Prop}
    {id : TaskId} (sound : queue.Sound) (laterSound : later.Sound)
    (moves : queue.Moves named made later) (resetting : later.resetting = some id)
    (flying : queue.inFlight = some id) : queue.resetting = some id :=
  sound.inFlight_reset id flying (Queue.kind?_unique moves.extends
    (sound.inFlight_known id flying) (laterSound.resetting_kind id resetting))

theorem aliveInFlight_receive (coherent : session.Coherent) (alive : AliveInFlight turns session)
    (input : Input) : AliveInFlight (turns ++ [⟨session, input⟩]) (session.receive input) := by
  have sound := coherent.sound
  have earlier {id : TaskId} (resetting : session.queue.resetting = some id)
      (flying : session.queue.inFlight = some id)
      (ended : session.queue.ledger.isTerminal id = true) : ∃ turn ∈ turns ++ [⟨session, input⟩],
        turn.before.queue.inFlight = some id ∧ turn.input = .run id := by
    rcases alive id resetting flying ended with ⟨turn, member, ran⟩
    exact ⟨turn, List.mem_append_left _ member, ran⟩
  have disabled (same : (session.receive input).queue = session.queue.disable) (id : TaskId)
      (resetting : (session.receive input).queue.resetting = some id)
      (flying : (session.receive input).queue.inFlight = some id)
      (ended : (session.receive input).queue.ledger.isTerminal id = true) :
      ∃ turn ∈ turns ++ [⟨session, input⟩],
        turn.before.queue.inFlight = some id ∧ turn.input = .run id := by
    rw [same] at resetting flying ended
    rw [session.queue.disable_frame.2.2] at flying
    have resetting : session.queue.resetting = some id := by
      rcases session.queue.resetting_disable with kept | gone
      · exact kept.symm.trans resetting
      · rw [gone] at resetting
        cases resetting
    have aside : id ∉ session.queue.pending := by
      simp [pending_eq_nil_of_flying sound resetting flying]
    exact earlier resetting flying (isTerminal_disable aside ▸ ended)
  cases queueing_receive sound input with
  | moves call moves =>
      intro id resetting flying ended
      rw [moves.inFlight] at flying
      have resetting := resetting_of_moves sound (sound_receive sound input) moves resetting flying
      by_cases ran : input = .run id
      · exact ⟨⟨session, input⟩, by simp, flying, ran⟩
      · exact earlier resetting flying (isTerminal_of_unran sound resetting flying ran moves ▸ ended)
  | disconnects same => exact disabled same
  | closes same => exact disabled same
  | dispatches same =>
      intro id resetting flying ended
      rw [same] at resetting flying ended
      have steps := session.queue.steps_next
      generalize session.queue.next = step at steps resetting flying ended
      cases steps with
      | waits => exact earlier resetting flying ended
      | clears => exact earlier resetting flying ended
      | dispatches free pending passed ready =>
          simp [← Option.some.inj flying, Queue.advance, Ledger.isTerminal_submitted, ready] at ended
  | idles free same =>
      intro id resetting flying
      rw [same, free] at flying
      cases flying
  | returns other ending flew terminal moves =>
      intro id resetting flying
      rw [moves.inFlight] at flying
      simp [Queue.advance, Queue.complete, flew] at flying

theorem aliveInFlight_receiveAll (options : SessionOptions) (inputs : List Input) :
    AliveInFlight ((new options).turns inputs) ((new options).receiveAll inputs) := by
  induction inputs using List.reverseRecOn with
  | nil => exact fun id resetting => by cases resetting
  | append_singleton inputs input induction =>
      rw [receiveAll_concat, turns_concat]
      exact aliveInFlight_receive (coherent_receiveAll options inputs) induction input

/-! ## How a reset ends -/

theorem resetting_resetSucceeded (session : Session) (id : TaskId) (reply : Reply) :
    (session.taskSucceeded id .reset reply).queue.resetting = session.queue.resetting := by
  simp [taskSucceeded, TaskKind.onSuccess, resetSucceeded, Queue.advance]

theorem resetting_resetFailed (session : Session) (id : TaskId) (failure : Failure) :
    (session.taskFailed id .reset failure).queue.resetting = session.queue.resetting := by
  simp [taskFailed, TaskKind.onFailure, Queue.advance]

/-- What comes back ends the wait for a reset just if it is the reset, whatever it brings. -/
theorem resetting_complete (coherent : session.Coherent)
    (current : session.queue.isResetting = true) (outcome : Outcome) :
    (session.receive (.complete outcome)).queue.resetting =
      if session.queue.inFlight = session.queue.resetting then none
      else session.queue.resetting := by
  have sound := coherent.sound
  cases flying : session.queue.inFlight with
  | none =>
      rcases Option.isSome_iff_exists.mp current with ⟨id, resetting⟩
      rw [receive_complete_none flying, resetting]
      rfl
  | some other =>
      rcases sound.inFlight_known other flying with ⟨kind, known⟩
      have back : (session.takenBack other).queue.resetting =
          if kind = .reset then none else session.queue.resetting :=
        congrArg Standing.resetting (standing_takenBack sound flying known)
      have recorded : ((session.takenBack other).recordOnly other kind outcome).queue.resetting =
          if kind = .reset then none else session.queue.resetting :=
        (congrArg Standing.resetting (standing_recordOnly _ other kind outcome)).trans back
      rw [receive_complete flying, taskCompleted_of_known known]
      by_cases reset : kind = .reset
      · subst reset
        rw [if_pos (sound.inFlight_reset other flying known).symm]
        rw [if_pos rfl] at back
        split
        · exact recorded
        · cases outcome with
          | ok reply => exact (resetting_resetSucceeded _ other reply).trans back
          | error failure => exact (resetting_resetFailed _ other failure).trans back
      · have apart : some other ≠ session.queue.resetting := fun same =>
          reset (Option.some.inj (known.symm.trans (sound.resetting_kind other same.symm)))
        rw [if_neg reset] at recorded back
        -- What is not a reset is only recorded while a reset is waited for.
        have superseded : (session.takenBack other).isSuperseded kind = true := by
          have waiting : (session.takenBack other).queue.isResetting = true :=
            (congrArg Option.isSome back).trans current
          have ordinary : kind.isReset = false := by simpa [TaskKind.isReset] using reset
          simp [isSuperseded, waiting, ordinary]
        rw [if_pos superseded, if_neg apart, recorded]

/-! ## One reset at a time -/

theorem running_of_waiting {queue : Queue} {held : List TaskId} {id : TaskId}
    (tended : queue.Tended held) (resetting : queue.resetting = some id)
    (waits : queue.inFlight ≠ some id) : id ∈ queue.pending ∧ queue.mode = .running := by
  have member := (tended.present id resetting).resolve_right waits
  exact ⟨member, tended.running id resetting member⟩

/-- A reset that waits is handed out as soon as nothing else is in flight. -/
theorem next_of_waiting {queue : Queue} {held : List TaskId} {id : TaskId} (sound : queue.Sound)
    (tended : queue.Tended held) (resetting : queue.resetting = some id)
    (free : queue.inFlight = none) : queue.next.2 = some id := by
  rcases running_of_waiting tended resetting (by simp [free]) with ⟨member, running⟩
  have pending : queue.pending = [id] := by
    rcases sound.alone id resetting with empty | ⟨single, -⟩
    · simp [empty] at member
    · exact single
  have kind := sound.resetting_kind id resetting
  have alive := tended.unended id member (tended.unheld id member .reset kind rfl)
  simp [Queue.next, running, free, pending, alive]

theorem reset_of_isResetting (coherent : session.Coherent)
    (current : session.queue.isResetting = true) : session.reset = session := by
  by_cases disabled : session.queue.mode = .disabled
  · have closed : session.contact = .disconnected ∨ session.shuttingDown = true := by
      simpa [standing, disabled] using coherent.disabled
    exact session.reset_of_blocked (.inr closed)
  · exact session.reset_of_blocked (.inl (Queue.state_eq_reset.mpr ⟨disabled, current⟩))

/-- A reset that waits is given up when the queue is disabled. -/
theorem disable_of_waiting {queue : Queue} {held : List TaskId} {id : TaskId} (sound : queue.Sound)
    (tended : queue.Tended held) (resetting : queue.resetting = some id)
    (waits : queue.inFlight ≠ some id) :
    queue.disable.isResetting = false ∧ queue.disable.ledger.isTerminal id = true := by
  have member := (running_of_waiting tended resetting waits).1
  constructor
  · simp [Queue.disable, Queue.abortPending, Queue.isResetting, resetting, waits]
  · rw [queue.disable_frame.1]
    exact Queue.isTerminal_abortPending sound.pending_known _ member

/-- What holds at any time of the resets of a session. -/
structure OneReset (turns : List Turn) (session : Session) : Prop where
  /-- There is none but the one that the queue waits for, and that one is there. -/
  single : session.queue.resets = session.queue.resetting.toList
  empty : session.queue.isResetting = true → session.mirror.isEmpty = true
  /-- It has come to its end only if a caller ran it while it was in flight. -/
  alive : ∀ id, session.queue.resetting = some id → session.queue.ledger.isTerminal id = true →
    session.queue.inFlight = some id ∧
      ∃ turn ∈ turns, turn.before.queue.inFlight = some id ∧ turn.input = .run id
  /-- A second one does not set out next to it. -/
  enough : session.queue.isResetting = true → session.reset = session
  /-- It is dispatched as soon as nothing else is in flight. -/
  dispatched : ∀ id, session.queue.resetting = some id → session.queue.inFlight = none →
    Turn.dispatched ⟨session, .takeStep⟩ = [id]
  /-- The task that is in flight can come back, and if that is the reset, it is over. -/
  returned : session.queue.isResetting = true → ∀ outcome,
    (session.receive (.complete outcome)).queue.inFlight = none ∧
      (session.receive (.complete outcome)).queue.resetting =
        if session.queue.inFlight = session.queue.resetting then none
        else session.queue.resetting
  /-- While it waits it is given up if the session is disconnected or shut down. -/
  givenUp : ∀ id, session.queue.resetting = some id → session.queue.inFlight ≠ some id →
    ∀ input, input = .disconnect ∨ input = .shutdown →
      (session.receive input).queue.isResetting = false ∧
        (session.receive input).queue.ledger.isTerminal id = true

/-- In any run in which callers name only tasks that they hold, there is one reset at a time,
and the queue does not wait in vain for one. -/
theorem oneReset_of_namesHeld (options : SessionOptions) (inputs : List Input)
    (named : namesHeld [] ((new options).turns inputs) = true) :
    OneReset ((new options).turns inputs) ((new options).receiveAll inputs) := by
  have coherent := coherent_receiveAll options inputs
  have tended := tended_receiveAll options named
  have blank := blank_receiveAll options inputs
  have aliveInFlight := aliveInFlight_receiveAll options inputs
  generalize (new options).receiveAll inputs = session at *
  have sound := coherent.sound
  refine ⟨tended.resets_eq sound, isEmpty_of_isResetting coherent blank, ?_,
    reset_of_isResetting coherent, ?_, ?_, ?_⟩
  · intro id resetting ended
    rcases tended.present id resetting with member | flying
    · have kind := sound.resetting_kind id resetting
      rw [tended.unended id member (tended.unheld id member .reset kind rfl)] at ended
      cases ended
    · exact ⟨flying, aliveInFlight id resetting flying ended⟩
  · intro id resetting free
    rw [dispatched_takeStep coherent, next_of_waiting sound tended resetting free]
    rfl
  · intro current outcome
    exact ⟨inFlight_complete sound outcome, resetting_complete coherent current outcome⟩
  · intro id resetting waits input closing
    have enabled : session.queue.mode ≠ .disabled := by
      simp [(running_of_waiting tended resetting waits).2]
    obtain ⟨connected, going⟩ : session.contact ≠ .disconnected ∧ session.shuttingDown = false := by
      simpa [standing, enabled] using coherent.disabled
    have disabled : (session.receive input).queue = session.queue.disable := by
      rcases closing with rfl | rfl
      · simp [receive, disconnect, connected]
      · simp [receive, shutdown, going]
    rw [disabled]
    exact disable_of_waiting sound tended resetting waits

/-- A reset that waits behind a poll. -/
def resetBehindPoll : List Input := .reset :: loads ++ [.tick, .takeStep, .reset]

theorem oneReset_of_resetBehindPoll :
    namesHeld [] ((new sampleOptions).turns resetBehindPoll) = true ∧
      OneReset ((new sampleOptions).turns resetBehindPoll)
        ((new sampleOptions).receiveAll resetBehindPoll) :=
  ⟨by decide +kernel, oneReset_of_namesHeld sampleOptions resetBehindPoll (by decide +kernel)⟩

/-- A reset that is handed to `run` by whoever is to send it. -/
def runsReset : List Input := [.reset, .takeStep, .run 0]

/-- The reset has come to its end then, while it is still in flight and waited for. -/
theorem terminal_in_flight_of_runsReset :
    namesHeld [] ((new sampleOptions).turns runsReset) = true ∧
      ((new sampleOptions).receiveAll runsReset).queue.inFlight = some 0 ∧
      ((new sampleOptions).receiveAll runsReset).queue.resetting = some 0 ∧
      ((new sampleOptions).receiveAll runsReset).queue.kind? 0 = some .reset ∧
      ((new sampleOptions).receiveAll runsReset).queue.ledger.isTerminal 0 = true := by
  decide +kernel

end FlowClient.Session
