import FlowClient.Proofs.Session.Loading
import FlowClient.Proofs.Session.Timers

/-! The timer of a session that loads. A reset stops the timer when it sets out. A refresh,
or a connection that is taken up again, starts it anew, also while the reset is still waited
for. -/

namespace FlowClient.Session

variable {session before after : Session} {turns : List Turn} {input : Input}

/-! ## The timer while the session loads -/

/-- Whether a turn starts the timer anew, no matter whether a reset is waited for. -/
def Turn.rearms (turn : Turn) : Bool :=
  match turn.input with
  | .refresh => true
  | .connect => turn.before.contact = .disconnected
  | _ => false

/-- Whether the timer was started anew after the last reset set out, and has been left alone
since then. -/
def rearmed (turns : List Turn) : Bool :=
  turns.foldl (fun rearmed turn =>
    !turn.setsOut && turn.after.isPolled && (rearmed || turn.rearms)) false

@[simp] theorem rearmed_concat (turns : List Turn) (turn : Turn) :
    rearmed (turns ++ [turn]) =
      (!turn.setsOut && turn.after.isPolled && (rearmed turns || turn.rearms)) := by
  simp [rearmed]

/-- What an input does to the timer. Nothing is said of a session that does not load after
it. -/
inductive Timing (before after : Session) (input : Input) : Prop
  | keeps (same : after.standing = before.standing)
      (timer : after.timerRunning = before.timerRunning)
      (polled : after.isPolled = before.isPolled)
      (calm : Turn.rearms ⟨before, input⟩ = false ∨ before.isPolled = false)
  | restarts (rearms : Turn.rearms ⟨before, input⟩ = true)
      (resetting : after.queue.resetting = before.queue.resetting)
      (timer : after.timerRunning = after.isPolled)
  | setsOut (ended : before.queue.resetting = none)
      (begun : after.queue.resetting.isSome = true) (timer : after.timerRunning = false)
  | closes (unpolled : after.isPolled = false) (timer : after.timerRunning = false)
  | rests (activity : after.activity ≠ .loading)

theorem isPolled_congr (same : after.standing = before.standing)
    (options : after.options = before.options) : after.isPolled = before.isPolled := by
  have polled (session : Session) : session.isPolled =
      (!(session.standing.disconnected || session.standing.shuttingDown) &&
        session.options.refreshInterval.isSome) := rfl
  rw [polled, polled, same, options]

theorem options_update (session : Session) : session.update.1.options = session.options := by
  rw [update]
  split <;> rfl

theorem timing_update (calm : Turn.rearms ⟨session, input⟩ = false) :
    Timing session session.update.1 input :=
  .keeps session.standing_update session.timerRunning_update
    (isPolled_congr session.standing_update session.options_update) (.inl calm)

theorem timing_begins {waiting : Session} (ended : waiting.queue.state ≠ .reset)
    (connected : waiting.contact ≠ .disconnected) (going : waiting.shuttingDown = false)
    (enabled : waiting.queue.mode ≠ .disabled)
    (resetting : waiting.queue.resetting = before.queue.resetting) :
    Timing before waiting.reset input := by
  rcases waiting.standing_reset ended connected going enabled with ⟨id, after⟩
  refine .setsOut ?_ ?_ ?_
  · simpa [Queue.state_eq_reset, enabled, resetting] using ended
  · exact congrArg (fun standing => standing.resetting.isSome) after
  · rw [waiting.reset_of_free ended connected going]
    exact waiting.timerRunning_emptied

theorem timing_reset {waiting : Session} (coherent : waiting.Coherent)
    (same : waiting.standing = before.standing)
    (timer : waiting.timerRunning = before.timerRunning)
    (options : waiting.options = before.options)
    (calm : Turn.rearms ⟨before, input⟩ = false) : Timing before waiting.reset input := by
  rcases waiting.reset_cases with ⟨-, stays⟩ | ⟨ended, connected, going, -⟩
  · rw [stays]
    exact .keeps same timer (isPolled_congr same options) (.inl calm)
  · exact timing_begins ended connected going (coherent.enabled connected going)
      (congrArg Standing.resetting same)

theorem timing_refresh (polled : session.timerRunning = true → session.isPolled = true) :
    Timing session session.refresh .refresh := by
  have updated := isPolled_congr session.standing_update session.options_update
  refine .restarts rfl ?_ ?_
  · exact congrArg Standing.resetting ((standing_restartTimer _).trans session.standing_update)
  · rw [refresh, timerRunning_restartTimer _ (by simpa [updated] using polled),
      isPolled_restartTimer]

theorem timing_connect (polled : session.timerRunning = true → session.isPolled = true) :
    Timing session session.connect .connect := by
  by_cases disconnected : session.contact = .disconnected
  · cases going : session.shuttingDown with
    | true =>
        refine .keeps ?_ ?_ ?_ (.inr (by simp [isPolled, going])) <;> simp [connect, going]
    | false =>
        have stopped : session.timerRunning = false := by
          simpa [isPolled, disconnected] using polled
        have rearms : Turn.rearms ⟨session, .connect⟩ = true := decide_eq_true disconnected
        have timer : session.reconnected.timerRunning = session.reconnected.isPolled := by
          rw [reconnected, timerRunning_restartTimer _ (by simp [stopped]), isPolled_restartTimer]
        have resetting : session.reconnected.queue.resetting = session.queue.resetting :=
          congrArg Standing.resetting session.standing_reconnected
        rw [session.connect_of_free disconnected going]
        split
        · by_cases ended : session.reconnected.queue.state = .reset
          · rw [session.reconnected.reset_of_blocked (.inl ended)]
            exact .restarts rearms resetting timer
          · have enabled : session.reconnected.queue.mode ≠ .disabled := by
              simpa [standing] using congrArg Standing.disabled session.standing_reconnected
            exact timing_begins ended (by simp) (by simp [going]) enabled resetting
        · have updated := standing_update session.reconnected
          refine .restarts rearms ((congrArg Standing.resetting updated).trans resetting) ?_
          rw [timerRunning_update, timer, isPolled_congr updated (options_update _)]
  · refine .keeps ?_ ?_ ?_ (.inl (by simp [Turn.rearms, disconnected])) <;>
      simp [connect, disconnected]

theorem timing_disconnect :
    Timing session session.disconnect .disconnect := by
  rw [disconnect]
  split
  · exact .keeps rfl rfl rfl (.inl rfl)
  · exact .closes (by simp [isPolled]) (by simp)

theorem timing_shutdown :
    Timing session session.shutdown .shutdown := by
  rw [shutdown]
  split
  · exact .keeps rfl rfl rfl (.inl rfl)
  · exact .closes (by simp [isPolled]) (by simp)

theorem timing_updateFilter (coherent : session.Coherent) (filter : SuiteFilter) :
    Timing session (session.updateFilter filter) (.updateFilter filter) := by
  let changed : Session := { session with filter := session.filter.update filter }
  have changedCoherent : changed.Coherent := ⟨coherent.toSettled, coherent.sound⟩
  simp only [updateFilter]
  split
  · exact .keeps (by rfl) (by rfl) (by rfl) (.inl rfl)
  split
  · exact .keeps (changed.standing_follow _) (by rfl) (by rfl) (.inl rfl)
  · exact timing_reset changedCoherent (by rfl) (by rfl) (by rfl) rfl

/-- While the session loads what comes back is the reset, or is of no use. -/
theorem not_loading_of_used {aborted : Bool} {kind : TaskKind}
    (occupied : Occupied aborted session.standing) (ordinary : kind ≠ .reset)
    (used : session.isSuperseded kind = false) : session.activity ≠ .loading := by
  rcases not_isSuperseded used with ⟨connected, going, ended⟩
  intro loading
  rcases occupied.loading_iff.mp loading with current | given
  · simp [standing, ended ordinary] at current
  · have closed := occupied.closed given
    simp [standing, connected, going] at closed

theorem recordOnly_timer (session : Session) (id : TaskId) (kind : TaskKind) (outcome : Outcome) :
    (session.recordOnly id kind outcome).options = session.options ∧
      (session.recordOnly id kind outcome).timerRunning = session.timerRunning := by
  have settles (advanced : Session) (loaded : Bool) :
      (if loaded then advanced.setActivity .idle else advanced).finishIfIdle.options =
        advanced.options ∧
      (if loaded then advanced.setActivity .idle else advanced).finishIfIdle.timerRunning =
        advanced.timerRunning := by
    cases loaded <;> simp
  exact settles _ _

theorem timing_recordOnly {taken : Session} {id : TaskId} {kind : TaskKind}
    (loading : kind = .reset → before.activity = .loading)
    (back : taken.standing = { before.standing with
      resetting := if kind = .reset then none else before.queue.resetting })
    (timer : taken.timerRunning = before.timerRunning) (options : taken.options = before.options)
    (outcome : Outcome) : Timing before (taken.recordOnly id kind outcome) (.complete outcome) := by
  have recorded := taken.standing_recordOnly id kind outcome
  have activity : taken.activity = before.activity := congrArg Standing.activity back
  by_cases reset : kind = .reset
  · subst reset
    refine .rests ?_
    have idle : (taken.recordOnly id .reset outcome).activity = .idle := by
      refine (congrArg Standing.activity recorded).trans ?_
      simp [TaskKind.isReset, activity, loading]
    simp [idle]
  · have ordinary : kind.isReset = false := by simpa [TaskKind.isReset] using reset
    have same : (taken.recordOnly id kind outcome).standing = before.standing := by
      rw [recorded, back, if_neg reset, activity, ordinary]
      rfl
    rcases taken.recordOnly_timer id kind outcome with ⟨keptOptions, keptTimer⟩
    exact .keeps same (keptTimer.trans timer) (isPolled_congr same (keptOptions.trans options))
      (.inl rfl)

/-- Only the wish for a full sync makes news let a reset set out. -/
theorem timing_handleNews {taken : Session} (coherent : before.Coherent)
    (connected : before.contact ≠ .disconnected) (going : before.shuttingDown = false)
    (quiet : before.activity ≠ .loading) (same : taken.standing = before.standing)
    (ended : before.queue.resetting = none) (answer : Option News) :
    Timing before (taken.handleNews answer) input := by
  have idle : taken.activity ≠ .loading := fun loading =>
    quiet ((congrArg Standing.activity same).symm.trans loading)
  have gained : taken.contactGained.standing = before.standing := by
    rw [standing_contactGained, same]
    simp [standing, connected]
  have resetting : taken.contactGained.queue.resetting = before.queue.resetting :=
    congrArg Standing.resetting gained
  have enabled := coherent.enabled connected going
  unfold handleNews
  split
  · exact .rests (by simpa [follow] using idle)
  · refine timing_begins ?_ (by simp) ((congrArg Standing.shuttingDown gained).trans going) ?_
      resetting
    · rw [Ne, Queue.state_eq_reset, resetting, ended]
      simp
    · simpa [standing, enabled] using congrArg Standing.disabled gained
  · exact .rests (by simpa using idle)
  · exact .rests (by simpa using idle)

theorem timing_taskSucceeded {taken : Session} {id : TaskId} {kind : TaskKind}
    (coherent : before.Coherent) (connected : before.contact ≠ .disconnected)
    (going : before.shuttingDown = false) (quiet : kind ≠ .reset → before.activity ≠ .loading)
    (same : taken.standing = { before.standing with resetting := none })
    (ended : kind ≠ .reset → before.queue.resetting = none) (reply : Reply) :
    Timing before (taken.taskSucceeded id kind reply) (.complete (.ok reply)) := by
  by_cases reset : kind = .reset
  · subst reset
    exact .rests (by simp [taskSucceeded, TaskKind.onSuccess, resetSucceeded, advance, follow])
  have quiet := quiet reset
  have ended := ended reset
  have same : taken.standing = before.standing := by
    rw [same]
    simp [standing, ended]
  have idle : taken.activity ≠ .loading := fun loading =>
    quiet ((congrArg Standing.activity same).symm.trans loading)
  simp only [taskSucceeded]
  split
  · apply timing_handleNews coherent connected going quiet _ ended
    exact same
  · refine .rests ?_
    simp only [syncSucceeded]
    split
    · simp [follow]
    · simpa [follow, advance] using idle
  · rename_i loads
    cases kind <;> first | exact absurd rfl reset | cases loads
  · exact .rests (by simpa [follow, advance] using idle)
  · exact .rests (by simpa [updateLoaded, advance] using idle)
  all_goals exact .rests (by simpa [advance] using idle)

theorem timing_taskFailed (taken : Session) {id : TaskId} {kind : TaskKind}
    (quiet : kind ≠ .reset → taken.activity ≠ .loading) (failure : Failure) :
    Timing before (taken.taskFailed id kind failure) (.complete (.error failure)) := by
  refine .rests ?_
  by_cases reset : kind = .reset
  · subst reset
    simp [taskFailed, TaskKind.onFailure]
  have quiet := quiet reset
  simp only [taskFailed]
  split
  · simpa [advance] using quiet
  · simp
  · split
    · simpa [advance] using quiet
    · simpa [advance] using quiet

theorem timing_complete {aborted : Bool} (coherent : session.Coherent)
    (occupied : Occupied aborted session.standing) (outcome : Outcome) :
    Timing session (session.receive (.complete outcome)) (.complete outcome) := by
  cases flying : session.queue.inFlight with
  | none =>
      rw [receive_complete_none flying]
      exact .keeps rfl rfl rfl (.inl rfl)
  | some id =>
      rcases coherent.sound.inFlight_known id flying with ⟨kind, known⟩
      have back := standing_takenBack coherent.sound flying known
      rw [receive_complete flying, taskCompleted_of_known known,
        isSuperseded_takenBack coherent.sound flying known]
      split
      · apply timing_recordOnly _ back rfl rfl outcome
        rintro rfl
        exact coherent.loading (congrArg Option.isSome (coherent.sound.inFlight_reset id flying known))
      · rename_i used
        have used : session.isSuperseded kind = false := by simpa using used
        rcases not_isSuperseded used with ⟨connected, going, ended⟩
        have quiet (ordinary : kind ≠ .reset) := not_loading_of_used occupied ordinary used
        cases outcome with
        | ok reply =>
            refine timing_taskSucceeded coherent connected going quiet ?_ ended reply
            rw [back]
            by_cases reset : kind = .reset
            · rw [if_pos reset]
            · rw [if_neg reset, ended reset]
        | error failure => exact timing_taskFailed (session.takenBack id) quiet failure

theorem timing_receive {aborted : Bool} (coherent : session.Coherent)
    (occupied : Occupied aborted session.standing)
    (polled : session.timerRunning = true → session.isPolled = true) (input : Input) :
    Timing session (session.receive input) input := by
  cases input with
  | make | setParam | subscribe | unsubscribe => exact .keeps rfl rfl rfl (.inl rfl)
  | runCommand args =>
      refine .keeps (session.standing_runCommand args) ?_ (isPolled_congr
        (session.standing_runCommand args) ?_) (.inl rfl) <;>
        (simp only [receive, runCommand]; split <;> rfl)
  | run id =>
      refine .keeps (session.standing_run id) ?_ (isPolled_congr (session.standing_run id) ?_)
        (.inl rfl) <;>
        (simp only [receive, run]; repeat' split)
      all_goals rfl
  | update | tick => exact timing_update rfl
  | refresh => exact timing_refresh polled
  | reset => exact timing_reset coherent rfl rfl rfl rfl
  | connect => exact timing_connect polled
  | disconnect => exact timing_disconnect
  | updateFilter filter => exact timing_updateFilter coherent filter
  | shutdown => exact timing_shutdown
  | takeStep => exact .keeps (standing_takeStep coherent) rfl rfl (.inl rfl)
  | complete outcome => exact timing_complete coherent occupied outcome

/-! ## Runs -/

/-- While a session loads, its timer runs just if it was started anew. -/
def TimedLoading (turns : List Turn) (session : Session) : Prop :=
  session.activity = .loading → session.timerRunning = rearmed turns

theorem timedLoading_receive (timed : TimedLoading turns session)
    (polled : session.timerRunning = true → session.isPolled = true)
    (timing : Timing session (session.receive input) input) :
    TimedLoading (turns ++ [⟨session, input⟩]) (session.receive input) := by
  intro loading
  have after : Turn.after ⟨session, input⟩ = session.receive input := rfl
  rw [rearmed_concat, after]
  cases timing with
  | keeps same timer kept calm =>
      have running : session.timerRunning = rearmed turns :=
        timed ((congrArg Standing.activity same).symm.trans loading)
      rw [timer, running, kept, setsOut_of_same (congrArg Standing.resetting same)]
      cases started : rearmed turns with
      | true => simp [polled (running.trans started)]
      | false =>
          rcases calm with calm | unpolled
          · simp [calm]
          · simp [unpolled]
  | restarts rearms resetting timer =>
      simp [setsOut_of_same resetting, rearms, timer]
  | setsOut ended begun timer =>
      simp [setsOut_of_begins ended begun, timer]
  | closes unpolled timer => simp [unpolled, timer]
  | rests activity => exact absurd loading activity

theorem timedLoading_receiveAll (options : SessionOptions) (inputs : List Input) :
    TimedLoading ((new options).turns inputs) ((new options).receiveAll inputs) := by
  induction inputs using List.reverseRecOn with
  | nil => exact fun loading => by cases loading
  | append_singleton inputs input induction =>
      rw [receiveAll_concat, turns_concat]
      have polled := (minded_receiveAll options inputs).polled
      exact timedLoading_receive induction polled (timing_receive
        (coherent_receiveAll options inputs) (occupied_receiveAll options inputs) polled input)

/-- How the timer of a session stands, and what its commands make of it. -/
structure TimerWhileLoading (turns : List Turn) (session : Session) : Prop where
  /-- A session that loads has no timer, unless it was started anew since the reset set out. -/
  loading : session.activity = .loading → session.timerRunning = rearmed turns
  /-- Between two inputs a session does not fill its mirror. -/
  settled : session.activity ≠ .rescanning
  /-- Whoever carries out the commands has a timer just if the session says so. -/
  told : SessionCommand.leaveArmed (allCommands turns session) = session.timerRunning
  /-- No timer runs for a session that is closed, or that has no period. -/
  polled : session.timerRunning = true → session.isPolled = true

theorem timerWhileLoading (options : SessionOptions) (inputs : List Input) :
    TimerWhileLoading ((new options).turns inputs) ((new options).receiveAll inputs) where
  loading := timedLoading_receiveAll options inputs
  settled := (occupied_receiveAll options inputs).settled
  told := (minded_receiveAll options inputs).told
  polled := (minded_receiveAll options inputs).polled

/-- A refresh while the reset waits leaves the timer running. -/
theorem timerRunning_of_refreshed :
    ((new sampleOptions).receiveAll [.reset, .refresh]).activity = .loading ∧
      ((new sampleOptions).receiveAll [.reset, .refresh]).timerRunning = true ∧
      SessionCommand.leaveArmed (allCommands ((new sampleOptions).turns [.reset, .refresh])
        ((new sampleOptions).receiveAll [.reset, .refresh])) = true := by
  decide +kernel

/-- So does a connection that is taken up while the reset is in flight. -/
theorem timerRunning_of_reconnected :
    ((new sampleOptions).receiveAll [.reset, .takeStep, .disconnect, .connect]).activity =
        .loading ∧
      ((new sampleOptions).receiveAll [.reset, .takeStep, .disconnect, .connect]).timerRunning =
        true := by
  decide +kernel

end FlowClient.Session
