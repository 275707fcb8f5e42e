import FlowClient.Proofs.Mirror.Scan
import FlowClient.Proofs.Mirror.Narrative
import FlowClient.Proofs.Session.Lasting
import FlowClient.Proofs.Session.Resets

/-! What a session tells of itself. All that whoever listens can see of a session changes
with an event that says so, and with nothing else: the notices of a session are a
chronicle of it. -/

namespace FlowClient

/-! ## Chronicles -/

/-- What can be seen of a session from outside, and told. -/
structure Appearance where
  contact : Contact
  activity : Activity
  shown : List MirrorNode
  deleted : Bool

/-- Whether an event leaves all that can be seen of a session as it is. -/
def Event.isRemark : Event → Bool
  | definitionChanged _ => true
  | filterChanged => true
  | _ => false

/-- Whether an event begins the change of a single node. -/
def Event.beginsChange : Event → Bool
  | nodeChangeBegin _ _ _ => true
  | _ => false

/-- Notices that tell all that becomes of what can be seen of a session. -/
inductive Chronicle : Appearance → List Notice → Appearance → Prop
  | nil (appearance : Appearance) : Chronicle appearance [] appearance
  | remark {appearance later notice rest} (remark : notice.event.isRemark = true)
      (same : notice.shown = appearance.shown) (goesOn : Chronicle appearance rest later) :
      Chronicle appearance (notice :: rest) later
  | activity {appearance later notice rest} (activity : Activity)
      (event : notice.event = .activityChanged activity) (same : notice.shown = appearance.shown)
      (goesOn : Chronicle { appearance with activity } rest later) :
      Chronicle appearance (notice :: rest) later
  | contact {appearance later notice rest} (contact : Contact)
      (event : notice.event = .contactChanged contact) (same : notice.shown = appearance.shown)
      (goesOn : Chronicle { appearance with contact } rest later) :
      Chronicle appearance (notice :: rest) later
  /-- The end is told once. -/
  | deleted {appearance later notice rest} (event : notice.event = .deleted)
      (same : notice.shown = appearance.shown) (going : appearance.deleted = false)
      (goesOn : Chronicle { appearance with deleted := true } rest later) :
      Chronicle appearance (notice :: rest) later
  /-- The mirror changes between the beginning of a pair and its end. -/
  | pair {appearance later first second rest} (pair : Notice.Pair first second)
      (same : first.shown = appearance.shown)
      (grown : first.event.beginsChange = true → second.shown.length = first.shown.length)
      (goesOn : Chronicle { appearance with shown := second.shown } rest later) :
      Chronicle appearance (first :: second :: rest) later

theorem Chronicle.append {start middle later : Appearance} {notices more : List Notice}
    (told : Chronicle start notices middle) (goesOn : Chronicle middle more later) :
    Chronicle start (notices ++ more) later := by
  induction told with
  | nil => exact goesOn
  | remark remark same _ induction => exact .remark remark same (induction goesOn)
  | activity activity event same _ induction => exact .activity activity event same (induction goesOn)
  | contact contact event same _ induction => exact .contact contact event same (induction goesOn)
  | deleted event same going _ induction => exact .deleted event same going (induction goesOn)
  | pair pair same grown _ induction => exact .pair pair same grown (induction goesOn)

theorem Event.isSingle_of_isRemark {event : Event} (remark : event.isRemark = true) :
    event.isSingle = true := by
  cases event <;> first | rfl | cases remark

/-- Whoever looks at the mirror alone is told all that becomes of it. -/
theorem Chronicle.narrative {start later : Appearance} {notices : List Notice}
    (told : Chronicle start notices later) : Narrative start.shown notices later.shown := by
  induction told with
  | nil appearance => exact .nil appearance.shown
  | remark remark same _ induction =>
      exact .single (Event.isSingle_of_isRemark remark) same induction
  | activity activity event same _ induction => exact .single (event ▸ rfl) same induction
  | contact contact event same _ induction => exact .single (event ▸ rfl) same induction
  | deleted event same _ _ induction => exact .single (event ▸ rfl) same induction
  | pair pair same _ _ induction => exact .pair pair same induction

theorem Notice.Pair.not_deleted {first second : Notice} (pair : Notice.Pair first second) :
    first.event ≠ .deleted ∧ second.event ≠ .deleted := by
  cases pair with
  | scan extent begins ends => simp [begins, ends]
  | clear begins ends => simp [begins, ends]
  | change path aspects begun ended begins ends => simp [begins, ends]

/-- The end of a session is told when it comes, and not twice. -/
theorem Chronicle.count_deleted {start later : Appearance} {notices : List Notice}
    (told : Chronicle start notices later) :
    start.deleted.toNat + notices.countP (·.event = .deleted) = later.deleted.toNat := by
  induction told with
  | nil => rfl
  | @remark appearance later notice rest remark _ _ induction =>
      have other : notice.event ≠ .deleted := by
        intro deleted
        rw [deleted] at remark
        cases remark
      simpa [other] using induction
  | activity activity event _ _ induction => simpa [event] using induction
  | contact contact event _ _ induction => simpa [event] using induction
  | deleted event _ going _ induction => simpa [event, going, Nat.add_comm] using induction
  | pair pair _ _ _ induction => simpa [pair.not_deleted] using induction

namespace Session

def appearance (session : Session) : Appearance where
  contact := session.contact
  activity := session.activity
  shown := session.mirror.suites
  deleted := session.deleted

variable {session before middle after : Session} {input : Input}

/-! ## What a session tells -/

/-- From `before` to `after` all that can be seen is told, to whoever listens. -/
structure Chronicles (before after : Session) : Prop where
  observers : after.observers = before.observers
  told : ∃ added, after.notices = before.notices ++ added ∧
    (∀ notice ∈ added, notice.audience = before.observers) ∧
      Chronicle before.appearance added after.appearance

theorem Chronicles.trans (first : before.Chronicles middle) (second : middle.Chronicles after) :
    before.Chronicles after where
  observers := second.observers.trans first.observers
  told := by
    rcases first.told with ⟨added, notices, audience, told⟩
    rcases second.told with ⟨more, later, laterAudience, goesOn⟩
    refine ⟨added ++ more, by rw [later, notices, List.append_assoc], ?_, told.append goesOn⟩
    intro notice member
    rcases List.mem_append.mp member with old | new
    · exact audience notice old
    · exact (laterAudience notice new).trans first.observers

theorem chronicles_of_same (observers : after.observers = before.observers)
    (notices : after.notices = before.notices)
    (appearance : after.appearance = before.appearance) : before.Chronicles after :=
  ⟨observers, [], by simp [notices], by simp, appearance ▸ .nil _⟩

theorem Chronicles.rfl : session.Chronicles session := chronicles_of_same (by rfl) (by rfl) (by rfl)

section Parts

variable (session : Session)

theorem chronicles_remark (event : Event) (remark : event.isRemark = true) :
    session.Chronicles (session.announce event) :=
  ⟨by rfl, [⟨event, session.mirror.suites, session.observers⟩], by rfl, by simp,
    .remark remark (by rfl) (.nil _)⟩

theorem chronicles_setActivity (activity : Activity) :
    session.Chronicles (session.setActivity activity) :=
  ⟨by rfl, [⟨.activityChanged activity, session.mirror.suites, session.observers⟩], by rfl, by simp,
    .activity activity (by rfl) (by rfl) (.nil _)⟩

theorem chronicles_setContact (contact : Contact) :
    session.Chronicles (session.setContact contact) :=
  ⟨by rfl, [⟨.contactChanged contact, session.mirror.suites, session.observers⟩], by rfl, by simp,
    .contact contact (by rfl) (by rfl) (.nil _)⟩

theorem chronicles_queue (queue : Queue) : session.Chronicles { session with queue } :=
  chronicles_of_same (by rfl) (by rfl) (by rfl)

theorem chronicles_advance (task : TaskId) (next : Progress) :
    session.Chronicles (session.advance task next) := session.chronicles_queue _

theorem chronicles_follow (task : Task) : session.Chronicles (session.follow task) :=
  session.chronicles_queue _

theorem chronicles_stopTimer : session.Chronicles session.stopTimer := by
  rw [stopTimer]
  split
  · exact chronicles_of_same (by rfl) (by rfl) (by rfl)
  · exact .rfl

theorem chronicles_restartTimer : session.Chronicles session.restartTimer := by
  rw [restartTimer]
  split
  · exact .rfl
  split
  · exact chronicles_of_same (by rfl) (by rfl) (by rfl)
  · exact session.chronicles_stopTimer

theorem chronicles_contactGained : session.Chronicles session.contactGained := by
  rw [contactGained]
  split
  · exact .rfl
  · exact session.chronicles_setContact _

theorem chronicles_contactLost (reason : String) :
    session.Chronicles (session.contactLost reason) := by
  rw [contactLost]
  split
  · exact .rfl
  · exact session.chronicles_setContact _

theorem chronicles_finishIfIdle : session.Chronicles session.finishIfIdle := by
  rw [finishIfIdle]
  split
  · rename_i ends
    simp only [Bool.and_eq_true, Bool.not_eq_true'] at ends
    exact ⟨by rfl, [⟨.deleted, session.mirror.suites, session.observers⟩], by rfl, by simp,
      .deleted (by rfl) (by rfl) ends.1.2 (.nil _)⟩
  · exact .rfl

/-! ## The mirror -/

theorem chronicles_clearTree : session.Chronicles session.clearTree := by
  rw [clearTree]
  split
  · exact .rfl
  · refine ⟨by rfl, [⟨.clearBegin, session.mirror.suites, session.observers⟩,
      ⟨.clearEnd, [], session.observers⟩], by simp [announce, Mirror.clear], by simp, ?_⟩
    exact .pair (.clear (by rfl) (by rfl) (by rfl)) (by rfl) (fun begins => by cases begins) (.nil _)

/-- A scan of an empty mirror brings just what it announces. -/
theorem chronicles_scan (empty : session.mirror.suites = []) :
    session.Chronicles session.scan.1 := by
  let brought := Mirror.scanned session.definition session.filter
  refine ⟨by simp, [⟨.scanBegin (Mirror.extentOf brought), [], session.observers⟩,
    ⟨.scanEnd, brought, session.observers⟩], ?_, by simp, ?_⟩
  · simp [scan, announce, Mirror.beginScan, Mirror.endScan, empty, brought]
  · exact .pair (.scan (Mirror.extentOf brought) (by rfl) (by rfl) (by rfl) (by rfl)) empty.symm
      (fun begins => by cases begins) (.nil _)

theorem chronicles_rescan : session.Chronicles session.rescan.1 := by
  let stopped := (session.setActivity .rescanning).stopTimer
  let cleared := { stopped with queue := stopped.queue.suspend }.clearTree
  have stops : session.Chronicles stopped :=
    (session.chronicles_setActivity .rescanning).trans (chronicles_stopTimer _)
  have clears : session.Chronicles cleared :=
    (stops.trans (chronicles_queue _ stopped.queue.suspend)).trans (chronicles_clearTree _)
  have scans := clears.trans (chronicles_scan _ (suites_clearTree _))
  exact (scans.trans (chronicles_queue _ cleared.scan.1.queue.start)).trans
    ((chronicles_restartTimer _).trans (chronicles_setActivity _ .idle))

theorem chronicles_reset : session.Chronicles session.reset := by
  rcases session.reset_cases with ⟨-, stays⟩ | ⟨-, -, -, setsOut⟩
  · rw [stays]
    exact .rfl
  · have stops := session.chronicles_stopTimer.trans (chronicles_queue _ session.queue.suspend)
    have empties : session.Chronicles session.emptied :=
      stops.trans ((chronicles_clearTree _).trans (chronicles_setActivity _ .loading))
    rw [setsOut]
    exact empties.trans (chronicles_queue _ _)

theorem chronicles_resetFinished (empty : session.mirror.suites = []) :
    session.Chronicles session.resetFinished.1 := by
  have stamps : session.Chronicles (session.setActivity .idle).stampServer :=
    (session.chronicles_setActivity .idle).trans (chronicles_of_same (by rfl) (by rfl) (by rfl))
  have scans := stamps.trans (chronicles_scan _ (by simpa using empty))
  exact scans.trans ((chronicles_contactGained _).trans (chronicles_restartTimer _))

/-- The contact is written first and told last. Nobody is shown the session in between. -/
theorem resetFailed_eq (reason : String) : session.resetFailed reason =
    ((session.setActivity .idle).setContact (.lost (some reason))).restartTimer := rfl

theorem chronicles_resetFailed (reason : String) :
    session.Chronicles (session.resetFailed reason) := by
  rw [resetFailed_eq]
  have tells :=
    (session.chronicles_setActivity .idle).trans (chronicles_setContact _ (.lost (some reason)))
  exact tells.trans (chronicles_restartTimer _)

/-- A change that has begun also ends, because both lookups of its path lead to one node. -/
theorem chronicles_nodeChanged (update : NodeUpdate) :
    session.Chronicles (session.nodeChanged update).1 := by
  rw [nodeChanged]
  split
  · exact session.chronicles_remark _ (by rfl)
  split
  · exact session.chronicles_clearTree
  split
  · exact .rfl
  split
  · exact .rfl
  rename_i change begun
  split
  · exact .rfl
  rename_i used
  rcases Mirror.endUpdate_of_beginUpdate begun (by simpa using used) with ⟨⟨mirror, ended⟩, made⟩
  simp only [announce_frame, made]
  refine ⟨by rfl, [⟨.nodeChangeBegin update.path update.aspects change, session.mirror.suites,
    session.observers⟩, ⟨.nodeChangeEnd update.path update.aspects ended, mirror.suites,
    session.observers⟩], by simp [announce], by simp, ?_⟩
  have size : mirror.suites.length = session.mirror.suites.length :=
    Mirror.suiteCount_endUpdate (by simpa using used) made
  exact .pair (.change update.path update.aspects change ended (by rfl) (by rfl)) (by rfl)
    (fun _ => size) (.nil _)

theorem chronicles_applyChange (update : NodeUpdate) :
    session.Chronicles (session.applyChange update) := by
  have folds : session.Chronicles
      { session with definition := session.definition.updated update } :=
    chronicles_of_same (by rfl) (by rfl) (by rfl)
  have follows := folds.trans (chronicles_nodeChanged _ update)
  rcases session.applyChange_cases update with same | same
  · exact same ▸ follows
  · exact same ▸ follows.trans (chronicles_clearTree _)

theorem chronicles_applySync (reply : Reply) : session.Chronicles (session.applySync reply) := by
  have takes : session.Chronicles (session.takeDefinition reply) := by
    rw [takeDefinition]
    repeat' split
    all_goals exact chronicles_of_same (by rfl) (by rfl) (by rfl)
  exact applySync_of_steps Chronicles .trans takes chronicles_applyChange

/-! ## Calls -/

theorem chronicles_update : session.Chronicles session.update.1 := by
  rw [update]
  split
  · exact .rfl
  · exact session.chronicles_queue _

theorem chronicles_runCommand (args : List String) :
    session.Chronicles (session.runCommand args).1 := by
  rw [runCommand]
  split
  · exact .rfl
  · exact session.chronicles_queue _

theorem chronicles_run (id : TaskId) : session.Chronicles (session.run id) := by
  rw [run]
  split
  · exact .rfl
  split
  · exact session.chronicles_queue _
  split
  · exact session.chronicles_queue _
  · exact session.chronicles_queue _

theorem chronicles_disconnect : session.Chronicles session.disconnect := by
  rw [disconnect]
  split
  · exact .rfl
  · refine (session.chronicles_setContact .disconnected).trans ?_
    exact (chronicles_queue _ _).trans (chronicles_stopTimer _)

theorem chronicles_connect : session.Chronicles session.connect := by
  by_cases disconnected : session.contact = .disconnected
  · cases going : session.shuttingDown with
    | true => simpa [connect, going] using Chronicles.rfl
    | false =>
        have reconnects : session.Chronicles session.reconnected :=
          ((session.chronicles_setContact (.lost none)).trans
            (chronicles_queue _ session.queue.enable)).trans (chronicles_restartTimer _)
        rw [session.connect_of_free disconnected going]
        split
        · exact reconnects.trans (chronicles_reset _)
        · exact reconnects.trans (chronicles_update _)
  · simpa [connect, disconnected] using Chronicles.rfl

theorem chronicles_updateFilter (filter : SuiteFilter) :
    session.Chronicles (session.updateFilter filter) := by
  have changes : session.Chronicles { session with filter := session.filter.update filter } :=
    chronicles_of_same (by rfl) (by rfl) (by rfl)
  simp only [updateFilter]
  split
  · exact changes
  split
  · exact changes.trans (chronicles_follow _ _)
  · exact changes.trans (chronicles_reset _)

theorem chronicles_shutdown : session.Chronicles session.shutdown := by
  rw [shutdown]
  split
  · exact .rfl
  · have closes : session.Chronicles
        { session with shuttingDown := true, queue := session.queue.disable } :=
      chronicles_of_same (by rfl) (by rfl) (by rfl)
    exact closes.trans ((chronicles_stopTimer _).trans (chronicles_finishIfIdle _))

/-! ## Completions -/

theorem chronicles_recordOnly (task : TaskId) (kind : TaskKind) (outcome : Outcome) :
    session.Chronicles (session.recordOnly task kind outcome) := by
  have settles (advanced : Session) (loaded : Bool) : advanced.Chronicles
      (if loaded then advanced.setActivity .idle else advanced).finishIfIdle := by
    refine .trans ?_ (chronicles_finishIfIdle _)
    split
    · exact chronicles_setActivity _ .idle
    · exact .rfl
  exact (chronicles_advance _ _ _).trans (settles _ _)

theorem chronicles_handleNews (answer : Option News) :
    session.Chronicles (session.handleNews answer) := by
  unfold handleNews
  refine session.chronicles_contactGained.trans ?_
  split
  · exact chronicles_follow _ _
  · exact chronicles_reset _
  · exact .rfl
  · exact .rfl

theorem chronicles_syncSucceeded (task : TaskId) (reply : Reply) :
    session.Chronicles (session.syncSucceeded task reply) := by
  have applies :=
    (session.chronicles_applySync reply).trans (chronicles_advance _ task (.finished .nothing))
  simp only [syncSucceeded]
  refine (applies.trans ?_).trans (chronicles_follow _ _)
  split
  · exact chronicles_rescan _
  · exact .rfl

theorem chronicles_resetSucceeded (empty : session.mirror.suites = []) (task : TaskId)
    (reply : Reply) : session.Chronicles (session.resetSucceeded task reply) := by
  have loads : session.Chronicles { session with definition := reply.definition.getD {} } :=
    chronicles_of_same (by rfl) (by rfl) (by rfl)
  exact (loads.trans (chronicles_resetFinished _ empty)).trans
    ((chronicles_advance _ _ _).trans (chronicles_follow _ _))

theorem chronicles_taskSucceeded (task : TaskId) {kind : TaskKind}
    (empty : kind = .reset → session.mirror.suites = []) (reply : Reply) :
    session.Chronicles (session.taskSucceeded task kind reply) := by
  simp only [taskSucceeded]
  split
  · exact (chronicles_advance _ _ _).trans (chronicles_handleNews _ _)
  · exact session.chronicles_syncSucceeded task reply
  · rename_i loads
    refine session.chronicles_resetSucceeded (empty ?_) task reply
    cases kind <;> first | rfl | cases loads
  · exact (chronicles_advance _ _ _).trans (chronicles_follow _ _)
  · have lists : session.Chronicles (session.updateLoaded reply.lines) :=
      .trans (chronicles_of_same (by rfl) (by rfl) (by rfl))
        (chronicles_remark _ .filterChanged (by rfl))
    exact lists.trans (chronicles_advance _ _ _)
  all_goals exact chronicles_advance _ _ _

theorem chronicles_taskFailed (task : TaskId) (kind : TaskKind) (failure : Failure) :
    session.Chronicles (session.taskFailed task kind failure) := by
  simp only [taskFailed]
  refine (session.chronicles_advance task (.aborted failure.text)).trans ?_
  split
  · exact chronicles_contactLost _ _
  · exact chronicles_resetFailed _ _
  · split
    · exact chronicles_contactLost _ _
    · exact .rfl

end Parts

theorem chronicles_complete (coherent : session.Coherent) (blank : Standing.Blank session.standing)
    (outcome : Outcome) : session.Chronicles (session.receive (.complete outcome)) := by
  cases flying : session.queue.inFlight with
  | none =>
      rw [receive_complete_none flying]
      exact .rfl
  | some id =>
      rcases coherent.sound.inFlight_known id flying with ⟨kind, known⟩
      rw [receive_complete flying, taskCompleted_of_known known]
      refine (session.chronicles_queue (session.queue.complete id).1).trans ?_
      split
      · exact chronicles_recordOnly _ _ _ _
      · cases outcome with
        | ok reply =>
            refine chronicles_taskSucceeded _ id ?_ reply
            -- For as long as a reset is waited for, the mirror is empty.
            rintro rfl
            have current := coherent.sound.inFlight_reset id flying known
            exact blank (coherent.loading (congrArg Option.isSome current))
        | error failure => exact chronicles_taskFailed _ id kind failure

theorem chronicles_receive (coherent : session.Coherent) (blank : Standing.Blank session.standing)
    (input : Input) (joined : input ≠ .subscribe) (left : ∀ id, input ≠ .unsubscribe id) :
    session.Chronicles (session.receive input) := by
  cases input with
  | make | setParam => exact session.chronicles_queue _
  | runCommand args => exact session.chronicles_runCommand args
  | run id => exact session.chronicles_run id
  | update | tick => exact session.chronicles_update
  | refresh => exact session.chronicles_update.trans (chronicles_restartTimer _)
  | reset => exact session.chronicles_reset
  | connect => exact session.chronicles_connect
  | disconnect => exact session.chronicles_disconnect
  | updateFilter filter => exact session.chronicles_updateFilter filter
  | subscribe => exact absurd rfl joined
  | unsubscribe id => exact absurd rfl (left id)
  | shutdown => exact session.chronicles_shutdown
  | takeStep => exact chronicles_of_same (by rfl) (by rfl) (by rfl)
  | complete outcome => exact chronicles_complete coherent blank outcome

end Session

end FlowClient
