import FlowClient.Proofs.Session.Queueing

/-! What one input does to how a session stands. There are few ways in which it can
change, and of each the lemmas here say all there is to say. -/

namespace FlowClient.Session

/-! ## Effects -/

def flyingKind? (session : Session) : Option TaskKind :=
  session.queue.inFlight.bind session.queue.kind?

/-- What an input may do to how a session stands. -/
inductive Effect (before after : Session) : Input → Prop
  | stays {input} (same : after.standing = before.standing) : Effect before after input
  | begins {input} (id : TaskId) (going : before.shuttingDown = false)
      (same : after.standing = { before.standing with
        disconnected := false
        disabled := false
        activity := .loading
        resetting := some id
        shown := []
        operations := before.operations ++ before.clearing })
      (ended : before.queue.resetting = none) : Effect before after input
  /-- The connection is taken up, and there is no need for a reset. -/
  | connects {input} (going : before.shuttingDown = false)
      (filled : before.mirror.isEmpty = false ∨ before.queue.resetting.isSome = true)
      (same : after.standing = { before.standing with
        disconnected := false, disabled := false }) : Effect before after input
  | disconnects (resetting : Option TaskId)
      (kept : resetting = before.queue.resetting ∨ resetting = none)
      (same : after.standing = { before.standing with
        disconnected := true, disabled := true, resetting }) : Effect before after .disconnect
  | closes (resetting : Option TaskId)
      (kept : resetting = before.queue.resetting ∨ resetting = none)
      (same : after.standing = { before.standing with
        shuttingDown := true, disabled := true, resetting }) : Effect before after .shutdown
  /-- A reset comes back and does not fill the mirror. -/
  | fails {outcome} (flying : before.flyingKind? = some .reset)
      (useless : (∃ failure, outcome = .error failure) ∨ before.contact = .disconnected ∨
        before.shuttingDown = true)
      (same : after.standing = { before.standing with resetting := none, activity := .idle }) :
      Effect before after (.complete outcome)
  /-- Changes are followed node by node. -/
  | follows {reply} (taken : Session) (definition : taken.definition = before.definition)
      (mirror : taken.mirror = before.mirror) (part : reply.fullSync = false)
      (filled : (taken.applySync reply).mirror.isEmpty = false)
      (same : after.standing = { before.standing with
        definition := (taken.applySync reply).definition
        shown := (taken.applySync reply).mirror.suites })
      (used : before.contact ≠ .disconnected ∧ before.shuttingDown = false) :
      Effect before after (.complete (.ok reply))
  | scans {reply} (definition : Definition) (cleared : List Notice)
      (filter : after.filter = before.filter)
      (same : after.standing = { before.standing with
        activity := .idle
        resetting := none
        definition
        shown := Mirror.scanned definition before.filter
        operations := before.operations ++ cleared ++
          [⟨.scanEnd, Mirror.scanned definition before.filter, before.observers⟩] })
      (used : before.contact ≠ .disconnected ∧ before.shuttingDown = false) :
      Effect before after (.complete (.ok reply))

/-- What holds between two inputs of how a session stands. -/
structure Standing.Settled (standing : Standing) : Prop where
  /-- The queue is disabled for as long as nothing may be sent. -/
  disabled : standing.disabled = (standing.disconnected || standing.shuttingDown)
  loading : standing.resetting.isSome = true → standing.activity = .loading
  /-- Dispatches are asked for when a step is taken, and not before. -/
  unasked : standing.asked = []

/-- What holds of a session between two inputs. -/
structure Coherent (session : Session) : Prop extends Standing.Settled session.standing where
  sound : session.queue.Sound

theorem coherent_new (options : SessionOptions) : (new options).Coherent where
  disabled := rfl
  loading := by simp [new, standing]
  unasked := rfl
  sound := Queue.sound_new

variable {session : Session}

theorem Coherent.enabled (coherent : session.Coherent) (connected : session.contact ≠ .disconnected)
    (going : session.shuttingDown = false) : session.queue.mode ≠ .disabled := by
  simpa [standing, connected, going] using coherent.disabled

/-! ## Calls -/

theorem clearing_congr {before after : Session} (mirror : after.mirror.suites = before.mirror.suites)
    (observers : after.observers = before.observers) : after.clearing = before.clearing := by
  simp [clearing, Mirror.isEmpty, mirror, observers]

theorem effect_begins {before waiting : Session} (ended : waiting.queue.state ≠ .reset)
    (going : before.shuttingDown = false) (observers : waiting.observers = before.observers)
    (same : waiting.standing = { before.standing with disconnected := false, disabled := false })
    (input : Input) : Effect before waiting.reset input := by
  have connected : waiting.contact ≠ .disconnected := by
    simpa [standing] using congrArg Standing.disconnected same
  have enabled : waiting.queue.mode ≠ .disabled := by
    simpa [standing] using congrArg Standing.disabled same
  have sendable : waiting.shuttingDown = false := (congrArg Standing.shuttingDown same).trans going
  have operations : waiting.operations = before.operations := congrArg Standing.operations same
  have clearing := clearing_congr (congrArg Standing.shown same) observers
  have resetting : waiting.queue.resetting = before.queue.resetting :=
    congrArg Standing.resetting same
  rcases waiting.standing_reset ended connected sendable enabled with ⟨id, after⟩
  refine .begins id going ?_ ?_
  · rw [after, same, operations, clearing]
  · simpa [Queue.state_eq_reset, enabled, resetting] using ended

/-- A reset that is asked for is on its way already, or may not be sent, or sets out. -/
theorem effect_reset {before waiting : Session} (coherent : waiting.Coherent)
    (observers : waiting.observers = before.observers)
    (same : waiting.standing = before.standing) (input : Input) :
    Effect before waiting.reset input := by
  rcases waiting.reset_cases with ⟨-, stays⟩ | ⟨ended, connected, going, -⟩
  · rw [stays]
    exact .stays same
  · have enabled := coherent.enabled connected going
    have sendable := (congrArg Standing.shuttingDown same).symm.trans going
    apply effect_begins ended sendable observers _ input
    rw [← same]
    simp [standing, connected, enabled]

@[simp] theorem standing_update (session : Session) :
    session.update.1.standing = session.standing := by
  rw [update]
  split
  · rfl
  · exact session.standing_follow { kind := .news }

@[simp] theorem standing_runCommand (session : Session) (args : List String) :
    (session.runCommand args).1.standing = session.standing := by
  rw [runCommand]
  split
  · rfl
  · exact session.standing_follow (Task.command args)

@[simp] theorem standing_run (session : Session) (id : TaskId) :
    (session.run id).standing = session.standing := by
  rw [run]
  split
  · rfl
  split
  · rfl
  split
  · rfl
  · rw [standing_queue]
    simp only
    split <;> simp [standing, Queue.changeTask]

theorem effect_updateFilter (coherent : session.Coherent) (filter : SuiteFilter) :
    Effect session (session.updateFilter filter) (.updateFilter filter) := by
  let changed : Session := { session with filter := session.filter.update filter }
  have same : changed.standing = session.standing := rfl
  simp only [updateFilter]
  split
  · exact .stays same
  split
  · exact .stays (changed.standing_follow _)
  · have changedCoherent : changed.Coherent :=
      ⟨coherent.toSettled, coherent.sound⟩
    apply effect_reset changedCoherent _ same _
    rfl

theorem effect_connect :
    Effect session session.connect .connect := by
  by_cases disconnected : session.contact = .disconnected
  · cases going : session.shuttingDown with
    | true => exact .stays (by simp [connect, going])
    | false =>
        have same := session.standing_reconnected
        rw [session.connect_of_free disconnected going]
        split
        · by_cases ended : session.reconnected.queue.state = .reset
          · rw [session.reconnected.reset_of_blocked (.inl ended)]
            have resetting := (Queue.state_eq_reset.mp ended).2
            exact .connects going (.inr (by simpa using resetting)) same
          · exact effect_begins ended going (by simp [reconnected]) same _
        · rename_i filled
          exact .connects going (.inl (by simpa using filled)) (by simpa using same)
  · exact .stays (by simp [connect, disconnected])

theorem effect_disconnect : Effect session session.disconnect .disconnect := by
  rw [disconnect]
  split
  · exact .stays rfl
  · apply Effect.disconnects _ session.queue.resetting_disable
    rw [standing_stopTimer, standing_queue, standing_setContact]
    simp

theorem effect_shutdown : Effect session session.shutdown .shutdown := by
  rw [shutdown]
  split
  · exact .stays rfl
  · apply Effect.closes _ session.queue.resetting_disable
    rw [standing_finishIfIdle, standing_stopTimer]
    simp [standing, operations]

/-- A step asks for the dispatch of what the queue hands out, and of nothing else. -/
theorem asked_takeStep (coherent : session.Coherent) :
    session.takeStep.2.commands.filterMap SessionCommand.task? = session.queue.next.2.toList := by
  have asked : session.commands.filterMap SessionCommand.task? = [] := coherent.unasked
  simp only [takeStep, List.filterMap_append, asked, List.nil_append]
  cases session.queue.next.2 <;> rfl

theorem standing_takeStep (coherent : session.Coherent) :
    session.takeStep.1.standing = session.standing := by
  rcases session.queue.next_frame with ⟨mode, resetting⟩
  have asked : session.commands.filterMap SessionCommand.task? = [] := coherent.unasked
  simp only [takeStep, standing, mode, resetting, asked]
  rfl

/-! ## Completions -/

section Completions

variable {before taken : Session} {id : TaskId}

theorem effect_handleNews (coherent : before.Coherent) (connected : before.contact ≠ .disconnected)
    (going : before.shuttingDown = false) (observers : taken.observers = before.observers)
    (same : taken.standing = before.standing) (ended : before.queue.resetting = none)
    (answer : Option News) (input : Input) : Effect before (taken.handleNews answer) input := by
  have gained : taken.contactGained.standing = before.standing := by
    rw [standing_contactGained, same]
    simp [standing, connected]
  have resetting : taken.contactGained.queue.resetting = none :=
    (congrArg Standing.resetting gained).trans ended
  unfold handleNews
  cases answer with
  | none => exact .stays gained
  | some given =>
      cases given with
      | news => exact .stays ((standing_follow _ _).trans gained)
      | noNews => exact .stays gained
      | doFullSync =>
          apply effect_begins _ going (by simpa using observers) _ input
          · rw [Ne, Queue.state_eq_reset, resetting]
            simp
          · rw [gained]
            simp [standing, connected, coherent.enabled connected going]

theorem effect_syncSucceeded
    (used : before.contact ≠ .disconnected ∧ before.shuttingDown = false)
    (same : taken.standing = before.standing)
    (ended : before.queue.resetting = none) (mirror : taken.mirror = before.mirror)
    (filter : taken.filter = before.filter) (observers : taken.observers = before.observers)
    (reply : Reply) : Effect before (taken.syncSucceeded id reply) (.complete (.ok reply)) := by
  have keepsUp := taken.keepsUp_applySync reply
  have operations : taken.operations = before.operations := congrArg Standing.operations same
  simp only [syncSucceeded]
  split
  · rcases keepsUp.grows with ⟨cleared, grown⟩
    let applied := (taken.applySync reply).advance id (.finished .nothing)
    refine .scans applied.definition (cleared ++ applied.clearing) ?_ ?_ used
    · simp [follow, advance, filter]
    rw [standing_follow, standing_rescan, standing_advance, standing_applySync, same]
    have scanning : applied.scanning =
        ⟨.scanEnd, Mirror.scanned applied.definition before.filter, before.observers⟩ := by
      simp [applied, scanning, advance, filter, observers]
    have appliedOperations : applied.operations = before.operations ++ cleared := by
      rw [← operations, grown]
      rfl
    have appliedFilter : applied.filter = before.filter := by simp [applied, advance, filter]
    simp only [applied] at *
    rw [scanning, appliedOperations, appliedFilter]
    simp [standing, ended, advance]
  · rename_i partly
    simp only [Bool.or_eq_true, not_or, Bool.not_eq_true] at partly
    have filled : (taken.applySync reply).mirror.isEmpty = false := partly.2
    rcases keepsUp.filled filled with ⟨-, unbroken⟩
    refine .follows taken (congrArg Standing.definition same) mirror partly.1 filled ?_ used
    rw [standing_follow, standing_advance, standing_applySync, same, unbroken, operations]
    rfl

theorem effect_resetSucceeded (same : taken.standing = { before.standing with resetting := none })
    (used : before.contact ≠ .disconnected ∧ before.shuttingDown = false)
    (filter : taken.filter = before.filter)
    (observers : taken.observers = before.observers) (reply : Reply) :
    Effect before (taken.resetSucceeded id reply) (.complete (.ok reply)) := by
  let loaded : Session := { taken with definition := reply.definition.getD {} }
  have loadedSame : loaded.standing = { before.standing with
      resetting := none, definition := loaded.definition } :=
    congrArg (fun standing : Standing => { standing with definition := loaded.definition }) same
  refine .scans loaded.stampServer.definition [] ?_ ?_ used
  · simp [resetSucceeded, follow, advance, filter]
  have operations : loaded.operations = before.operations := congrArg Standing.operations loadedSame
  have scanned : Mirror.scanned loaded.stampServer.definition before.filter =
      Mirror.scanned loaded.definition loaded.filter := by
    simp [Mirror.scanned, loaded, filter]
  have scanning : loaded.scanning = ⟨.scanEnd,
      Mirror.scanned loaded.stampServer.definition before.filter, before.observers⟩ := by
    rw [scanned]
    simp [Session.scanning, loaded, observers]
  simp only [resetSucceeded]
  rw [standing_follow, standing_advance, standing_resetFinished, loadedSame, operations, scanning, scanned]
  simp [standing, used.1, loaded]

theorem standing_updateLoaded (session : Session) (names : List String) :
    (session.updateLoaded names).standing = session.standing := by
  simp [updateLoaded, standing, operations, Event.isOperation]

theorem effect_taskSucceeded (coherent : before.Coherent) (kind : TaskKind)
    (connected : before.contact ≠ .disconnected) (going : before.shuttingDown = false)
    (same : taken.standing = { before.standing with resetting := none })
    (ended : kind ≠ .reset → before.queue.resetting = none) (mirror : taken.mirror = before.mirror)
    (filter : taken.filter = before.filter) (observers : taken.observers = before.observers)
    (reply : Reply) :
    Effect before (taken.taskSucceeded id kind reply) (.complete (.ok reply)) := by
  by_cases reset : kind = .reset
  · subst reset
    exact effect_resetSucceeded same ⟨connected, going⟩ filter observers reply
  have ended := ended reset
  have same : taken.standing = before.standing := by
    rw [same]
    simp [standing, ended]
  simp only [taskSucceeded]
  split
  · apply effect_handleNews coherent connected going _ _ ended reply.news _
    · exact observers
    · exact same
  · exact effect_syncSucceeded ⟨connected, going⟩ same ended mirror filter observers reply
  · rename_i loads
    cases kind <;> first | exact absurd rfl reset | cases loads
  · exact .stays ((standing_follow _ _).trans same)
  · exact .stays (by rw [standing_advance, standing_updateLoaded, same])
  all_goals exact .stays same

theorem effect_taskFailed {kind : TaskKind} (flying : before.flyingKind? = some kind)
    (connected : before.contact ≠ .disconnected)
    (same : taken.standing = { before.standing with resetting := none })
    (ended : kind ≠ .reset → before.queue.resetting = none) (failure : Failure) :
    Effect before (taken.taskFailed id kind failure) (.complete (.error failure)) := by
  by_cases reset : kind = .reset
  · subst reset
    apply Effect.fails flying (.inl ⟨failure, rfl⟩)
    simp only [taskFailed, TaskKind.onFailure]
    rw [standing_resetFailed, standing_advance, same]
    simp [standing, connected]
  have ended := ended reset
  have same : taken.standing = before.standing := by
    rw [same]
    simp [standing, ended]
  simp only [taskFailed]
  split
  · exact .stays ((standing_contactLost _ _).trans same)
  · rename_i gives
    cases kind <;> first | exact absurd rfl reset | cases gives
  · split
    · exact .stays ((standing_contactLost _ _).trans same)
    · exact .stays same

theorem standing_recordOnly (session : Session) (id : TaskId) (kind : TaskKind)
    (outcome : Outcome) : (session.recordOnly id kind outcome).standing = { session.standing with
      activity := if kind.isReset && session.activity = .loading then .idle
        else session.activity } := by
  have settled (ending : Progress) (again : Bool) :
      (if again then (session.advance id ending).setActivity .idle
        else session.advance id ending).finishIfIdle.standing =
      { session.standing with activity := if again then .idle else session.activity } := by
    rw [standing_finishIfIdle]
    cases again with
    | false => rfl
    | true => exact standing_setActivity _ _
  cases outcome with
  | ok reply => exact settled _ _
  | error failure => exact settled _ _

theorem effect_recordOnly {kind : TaskKind} (flying : before.flyingKind? = some kind)
    (useless : kind = .reset → before.contact = .disconnected ∨ before.shuttingDown = true)
    (loading : kind = .reset → before.activity = .loading)
    (back : taken.standing = { before.standing with
      resetting := if kind = .reset then none else before.queue.resetting })
    (outcome : Outcome) : Effect before (taken.recordOnly id kind outcome) (.complete outcome) := by
  have activity : taken.activity = before.activity := congrArg Standing.activity back
  by_cases reset : kind = .reset
  · subst reset
    apply Effect.fails flying (.inr (useless rfl))
    rw [standing_recordOnly, back, activity, loading rfl]
    rfl
  · apply Effect.stays
    have notReset : kind.isReset = false := by simpa [TaskKind.isReset] using reset
    rw [standing_recordOnly, back, activity, notReset, if_neg reset]
    rfl

/-! ## Any completion, any input -/

theorem flyingKind?_of_known {kind : TaskKind} (flying : before.queue.inFlight = some id)
    (known : before.queue.kind? id = some kind) : before.flyingKind? = some kind := by
  simp [flyingKind?, flying, known]

/-- Only a reset that comes back is not waited for any more. -/
theorem standing_takenBack {kind : TaskKind} (sound : before.queue.Sound)
    (flying : before.queue.inFlight = some id) (known : before.queue.kind? id = some kind) :
    (before.takenBack id).standing = { before.standing with
      resetting := if kind = .reset then none else before.queue.resetting } := by
  have resetting : (before.queue.complete id).1.resetting =
      if kind = .reset then none else before.queue.resetting := by
    by_cases reset : kind = .reset
    · subst reset
      simp [Queue.complete, flying, sound.inFlight_reset id flying known]
    · have other : before.queue.resetting ≠ some id := by
        intro current
        exact reset (Option.some.inj (known.symm.trans (sound.resetting_kind id current)))
      simp [Queue.complete, flying, other, reset]
  rw [takenBack, standing_queue, resetting]
  simp [Queue.complete, flying, standing]

theorem isSuperseded_takenBack {kind : TaskKind} (sound : before.queue.Sound)
    (flying : before.queue.inFlight = some id) (known : before.queue.kind? id = some kind) :
    (before.takenBack id).isSuperseded kind = before.isSuperseded kind := by
  have resetting : (before.queue.complete id).1.resetting =
      if kind = .reset then none else before.queue.resetting :=
    congrArg Standing.resetting (standing_takenBack sound flying known)
  by_cases reset : kind = .reset
  · subst reset
    simp only [isSuperseded, TaskKind.isReset, BEq.rfl, Bool.not_true, Bool.and_false]
    rfl
  · simp only [isSuperseded, takenBack, Queue.isResetting, resetting, if_neg reset]
    rfl

theorem not_isSuperseded {kind : TaskKind} (used : before.isSuperseded kind = false) :
    before.contact ≠ .disconnected ∧ before.shuttingDown = false ∧
      (kind ≠ .reset → before.queue.resetting = none) := by
  simp only [isSuperseded, Queue.isResetting, TaskKind.isReset, Bool.or_eq_false_iff,
    Bool.and_eq_false_iff, decide_eq_false_iff_not] at used
  refine ⟨used.2, used.1.2, ?_⟩
  intro reset
  simpa [reset] using used.1.1

theorem effect_complete (coherent : before.Coherent) (outcome : Outcome) :
    Effect before (before.receive (.complete outcome)) (.complete outcome) := by
  cases flying : before.queue.inFlight with
  | none => exact .stays (by rw [receive_complete_none flying])
  | some id =>
      rcases coherent.sound.inFlight_known id flying with ⟨kind, known⟩
      have back := standing_takenBack coherent.sound flying known
      have flyingKind := flyingKind?_of_known flying known
      rw [receive_complete flying, taskCompleted_of_known known,
        isSuperseded_takenBack coherent.sound flying known]
      split
      · rename_i superseded
        apply effect_recordOnly flyingKind _ _ back outcome
        · rintro rfl
          simpa [isSuperseded, TaskKind.isReset, or_comm] using superseded
        · rintro rfl
          have current := coherent.sound.inFlight_reset id flying known
          exact coherent.loading (congrArg Option.isSome current)
      · rename_i used
        rcases not_isSuperseded (by simpa using used) with ⟨connected, going, ended⟩
        have same : (before.takenBack id).standing = { before.standing with resetting := none } := by
          rw [back]
          by_cases reset : kind = .reset
          · rw [if_pos reset]
          · rw [if_neg reset, ended reset]
        cases outcome with
        | ok reply =>
            exact effect_taskSucceeded coherent kind connected going same ended rfl rfl rfl reply
        | error failure => exact effect_taskFailed flyingKind connected same ended failure

end Completions

theorem effect_receive (coherent : session.Coherent) (input : Input) :
    Effect session (session.receive input) input := by
  cases input with
  | make kind args params => exact .stays rfl
  | setParam id param value => exact .stays rfl
  | runCommand args => exact .stays (session.standing_runCommand args)
  | run id => exact .stays (session.standing_run id)
  | update => exact .stays session.standing_update
  | tick => exact .stays session.standing_update
  | refresh => exact .stays (by simp [receive, refresh])
  | reset => exact effect_reset coherent rfl rfl _
  | connect => exact effect_connect
  | disconnect => exact effect_disconnect
  | updateFilter filter => exact effect_updateFilter coherent filter
  | subscribe => exact .stays rfl
  | unsubscribe id => exact .stays rfl
  | shutdown => exact effect_shutdown
  | takeStep => exact .stays (standing_takeStep coherent)
  | complete outcome => exact effect_complete coherent outcome

/-! ## Coherence -/

theorem Effect.settled {input : Input} {after : Session} (effect : Effect session after input)
    (settled : Standing.Settled session.standing) : Standing.Settled after.standing := by
  rcases settled with ⟨disabled, loading, unasked⟩
  have given {resetting : Option TaskId}
      (kept : resetting = session.queue.resetting ∨ resetting = none)
      (current : resetting.isSome = true) : session.standing.activity = .loading := by
    rcases kept with rfl | rfl
    · exact loading current
    · cases current
  cases effect with
  | stays same => exact same ▸ ⟨disabled, loading, unasked⟩
  | begins id going same => exact same ▸ ⟨going.symm, fun _ => rfl, unasked⟩
  | connects going filled same => exact same ▸ ⟨going.symm, loading, unasked⟩
  | disconnects resetting kept same => exact same ▸ ⟨rfl, given kept, unasked⟩
  | closes resetting kept same => exact same ▸ ⟨by simp, given kept, unasked⟩
  | fails flying useless same => exact same ▸ ⟨disabled, (fun current => by cases current), unasked⟩
  | follows taken definition mirror part filled same => exact same ▸ ⟨disabled, loading, unasked⟩
  | scans definition cleared filter same =>
      exact same ▸ ⟨disabled, (fun current => by cases current), unasked⟩

theorem coherent_receive (coherent : session.Coherent) (input : Input) :
    (session.receive input).Coherent :=
  ⟨(effect_receive coherent input).settled coherent.toSettled, sound_receive coherent.sound input⟩

theorem coherent_receiveAll (options : SessionOptions) (inputs : List Input) :
    ((new options).receiveAll inputs).Coherent :=
  receiveAll_keeps Coherent (coherent_new options)
    (fun _ input coherent => coherent_receive coherent input) inputs

/-! ## Scans -/

/-- Whether a turn fills the mirror anew. -/
def Turn.scans (turn : Turn) : Bool := turn.before.scanCount < turn.after.scanCount

variable {turn : Turn}

theorem not_scans_of_same (same : turn.after.operations = turn.before.operations) :
    turn.scans = false := by
  simp [Turn.scans, scanCount, same]

theorem scans_of_scan {cleared : List Notice} {shown : List MirrorNode} {audience : List ObserverId}
    (scanned : turn.after.operations =
      turn.before.operations ++ cleared ++ [⟨.scanEnd, shown, audience⟩]) :
    turn.scans = true := by
  have more : turn.before.scanCount < turn.after.scanCount := by
    simp only [scanCount, scanned, List.countP_append, List.countP_singleton, decide_true, if_true]
    omega
  exact decide_eq_true more

end FlowClient.Session
