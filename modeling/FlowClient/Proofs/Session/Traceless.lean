import FlowClient.Proofs.Queue.Alike
import FlowClient.Proofs.Session.Resets
import FlowClient.Proofs.Session.Timers

/-! What becomes of a reply that is dropped. It is written down as the end of its task. The
session never looks at how a task ended, so that nothing it does later tells one reply from
another. -/

namespace FlowClient.Session

/-! ## What does not look at the queue -/

def withQueue (session : Session) (queue : Queue) : Session := { session with queue }

@[simp] theorem withQueue_frame (session : Session) (queue : Queue) :
    (session.withQueue queue).options = session.options ∧
    (session.withQueue queue).contact = session.contact ∧
    (session.withQueue queue).activity = session.activity ∧
    (session.withQueue queue).queue = queue ∧
    (session.withQueue queue).definition = session.definition ∧
    (session.withQueue queue).mirror = session.mirror ∧
    (session.withQueue queue).filter = session.filter ∧
    (session.withQueue queue).timerRunning = session.timerRunning ∧
    (session.withQueue queue).shuttingDown = session.shuttingDown ∧
    (session.withQueue queue).deleted = session.deleted ∧
    (session.withQueue queue).commands = session.commands ∧
    (session.withQueue queue).notices = session.notices :=
  ⟨rfl, rfl, rfl, rfl, rfl, rfl, rfl, rfl, rfl, rfl, rfl, rfl⟩

/-- An operation that neither looks at the queue of a session nor touches it. -/
def Blind (operation : Session → Session) : Prop :=
  ∀ session queue, operation (session.withQueue queue) = (operation session).withQueue queue

theorem blind_announce (event : Event) : Blind (·.announce event) := fun _ _ => rfl

theorem blind_setActivity (activity : Activity) : Blind (·.setActivity activity) := fun _ _ => rfl

theorem blind_setContact (contact : Contact) : Blind (·.setContact contact) := fun _ _ => rfl

theorem blind_stampServer : Blind stampServer := fun _ _ => rfl

theorem blind_scan : Blind (·.scan.1) := fun _ _ => rfl

theorem blind_updateLoaded (names : List String) : Blind (·.updateLoaded names) := fun _ _ => rfl

theorem blind_contactGained : Blind contactGained := by
  intro session queue
  simp only [contactGained, withQueue_frame]
  split <;> rfl

theorem blind_contactLost (reason : String) : Blind (·.contactLost reason) := by
  intro session queue
  simp only [contactLost, withQueue_frame]
  split <;> rfl

theorem blind_stopTimer : Blind stopTimer := by
  intro session queue
  simp only [stopTimer, withQueue_frame]
  split <;> rfl

theorem blind_restartTimer : Blind restartTimer := by
  intro session queue
  simp only [restartTimer, withQueue_frame]
  split
  · rfl
  split
  · rfl
  · exact blind_stopTimer session queue

theorem blind_clearTree : Blind clearTree := by
  intro session queue
  simp only [clearTree, withQueue_frame]
  split <;> rfl

theorem Blind.andThen {first second : Session → Session} (firstBlind : Blind first)
    (secondBlind : Blind second) : Blind fun session => second (first session) := by
  intro session queue
  show second (first (session.withQueue queue)) = _
  rw [firstBlind, secondBlind]

theorem blind_resetFailed (reason : String) : Blind (·.resetFailed reason) := by
  have lost : Blind fun session => { session with contact := .lost (some reason) } :=
    fun _ _ => rfl
  exact ((lost.andThen (blind_setActivity .idle)).andThen (blind_announce _)).andThen
    blind_restartTimer

theorem blind_resetFinished : Blind (·.resetFinished.1) :=
  ((((blind_setActivity .idle).andThen blind_stampServer).andThen blind_scan).andThen
    blind_contactGained).andThen blind_restartTimer

theorem nodeChanged_withQueue (session : Session) (update : NodeUpdate) (queue : Queue) :
    (session.withQueue queue).nodeChanged update =
      ((session.nodeChanged update).1.withQueue queue, (session.nodeChanged update).2) := by
  have clears := blind_clearTree session queue
  have announces (event : Event) := blind_announce event session queue
  simp only [nodeChanged, withQueue_frame, announce_frame, clears, announces]
  split
  · rfl
  split
  · rfl
  split
  · rfl
  split
  · rfl
  split
  · rfl
  · split <;> rfl

theorem blind_applyChange (update : NodeUpdate) : Blind (·.applyChange update) := by
  intro session queue
  let updated : Session := { session with definition := session.definition.updated update }
  show settled ((updated.withQueue queue).nodeChanged update) =
    (settled (updated.nodeChanged update)).withQueue queue
  rw [nodeChanged_withQueue]
  rcases updated.nodeChanged update with ⟨after, checked⟩
  cases checked with
  | ok => rfl
  | error problem => exact blind_clearTree after queue

theorem blind_takeDefinition (reply : Reply) : Blind (·.takeDefinition reply) := by
  intro session queue
  simp only [takeDefinition]
  split
  · split <;> rfl
  · rfl

theorem blind_applySync (reply : Reply) : Blind (·.applySync reply) := by
  have folds (changes : List NodeUpdate) : Blind fun session => changes.foldl applyChange session := by
    induction changes with
    | nil => exact fun _ _ => rfl
    | cons update changes induction => exact (blind_applyChange update).andThen induction
  exact (blind_takeDefinition reply).andThen (folds reply.changes)

/-! ## Sessions that are alike -/

/-- Sessions that differ in the end of one task alone. -/
def Alike (id : TaskId) (one two : Session) : Prop :=
  ∃ queue, one.queue.Alike id queue ∧ two = one.withQueue queue

variable {id : TaskId} {one two : Session}

theorem Alike.queue (alike : one.Alike id two) : one.queue.Alike id two.queue := by
  rcases alike with ⟨queue, queues, rfl⟩
  exact queues

theorem Alike.frame (alike : one.Alike id two) :
    two.contact = one.contact ∧ two.activity = one.activity ∧ two.definition = one.definition ∧
      two.mirror = one.mirror ∧ two.filter = one.filter ∧
      two.shuttingDown = one.shuttingDown ∧ two.deleted = one.deleted ∧
      two.commands = one.commands ∧ two.notices = one.notices := by
  rcases alike with ⟨queue, -, rfl⟩
  simp

theorem Alike.blind (alike : one.Alike id two) {operation : Session → Session}
    (isBlind : Blind operation) : (operation one).Alike id (operation two) := by
  rcases alike with ⟨queue, queues, rfl⟩
  have untouched : operation one = (operation one).withQueue one.queue := isBlind one one.queue
  exact ⟨queue, untouched ▸ queues, isBlind one queue⟩

/-- What is done to the queues alone. -/
theorem Alike.queued (alike : one.Alike id two) {oneQueue twoQueue : Queue}
    (queues : oneQueue.Alike id twoQueue) :
    (one.withQueue oneQueue).Alike id (two.withQueue twoQueue) := by
  rcases alike with ⟨queue, -, rfl⟩
  exact ⟨twoQueue, queues, rfl⟩

theorem Alike.advance (alike : one.Alike id two) (advanced : TaskId) (next : Progress) :
    (one.advance advanced next).Alike id (two.advance advanced next) :=
  alike.queued (alike.queue.advance advanced next)

theorem Alike.follow (alike : one.Alike id two) (task : Task) :
    (one.follow task).Alike id (two.follow task) :=
  alike.queued (alike.queue.add task).1

theorem Alike.enter (alike : one.Alike id two) (task : Task) :
    (one.enter task).1.Alike id (two.enter task).1 ∧ (two.enter task).2 = (one.enter task).2 :=
  ⟨alike.queued (alike.queue.enter task).1, (alike.queue.enter task).2⟩

theorem Alike.takenBack (alike : one.Alike id two) (returned : TaskId) :
    (one.takenBack returned).Alike id (two.takenBack returned) :=
  alike.queued (alike.queue.complete returned)

theorem Alike.rescan (alike : one.Alike id two) : one.rescan.1.Alike id two.rescan.1 := by
  have stopped := (alike.blind (blind_setActivity .rescanning)).blind blind_stopTimer
  have suspended := stopped.queued stopped.queue.suspend
  have scanned := (suspended.blind blind_clearTree).blind blind_scan
  have started := scanned.queued scanned.queue.start
  exact (started.blind blind_restartTimer).blind (blind_setActivity .idle)

theorem Alike.finishIfIdle (alike : one.Alike id two) :
    one.finishIfIdle.Alike id two.finishIfIdle := by
  rcases alike with ⟨queue, queues, rfl⟩
  simp only [Session.finishIfIdle, withQueue_frame, queues.frame]
  split
  · exact ⟨queue, queues, rfl⟩
  · exact ⟨queue, queues, rfl⟩

/-! ## Calls -/

theorem Alike.update (alike : one.Alike id two) :
    one.update.1.Alike id two.update.1 ∧ two.update.2 = one.update.2 := by
  rcases alike with ⟨queue, queues, rfl⟩
  simp only [Session.update, withQueue_frame]
  split
  · exact ⟨⟨queue, queues, rfl⟩, rfl⟩
  · exact ⟨⟨_, (queues.add _).1, rfl⟩, (queues.add _).2⟩

theorem Alike.runCommand (alike : one.Alike id two) (args : List String) :
    (one.runCommand args).1.Alike id (two.runCommand args).1 ∧
      (two.runCommand args).2 = (one.runCommand args).2 := by
  rcases alike with ⟨queue, queues, rfl⟩
  simp only [Session.runCommand, withQueue_frame]
  split
  · exact ⟨⟨queue, queues, rfl⟩, rfl⟩
  · rcases queues.enter (Task.command args) with ⟨entered, number⟩
    simp only [Session.enter, withQueue_frame, number]
    exact ⟨⟨_, (entered.submit _).1, rfl⟩, trivial⟩

theorem Alike.run (alike : one.Alike id two) (handed : TaskId) :
    (one.run handed).Alike id (two.run handed) := by
  rcases alike with ⟨queue, queues, rfl⟩
  simp only [Session.run, withQueue_frame, queues.kind?]
  split
  · exact ⟨queue, queues, rfl⟩
  split
  · exact ⟨_, queues.advance handed _, rfl⟩
  split
  · exact ⟨_, queues.advance handed _, rfl⟩
  · split
    · exact ⟨_, (queues.submit handed).1, rfl⟩
    · exact ⟨_, ((queues.setParam handed .clientPar _).submit handed).1, rfl⟩

theorem Alike.emptied (alike : one.Alike id two) : one.emptied.Alike id two.emptied := by
  have stopped := alike.blind blind_stopTimer
  have suspended := stopped.queued alike.queue.suspend
  exact (suspended.blind blind_clearTree).blind (blind_setActivity .loading)

theorem Alike.reset (alike : one.Alike id two) : one.reset.Alike id two.reset := by
  rcases alike.frame with ⟨contact, -, -, -, filter, shuttingDown, -⟩
  have state := alike.queue.state
  rcases one.reset_cases with ⟨blocked, stays⟩ | ⟨ended, connected, going, setsOut⟩
  · rw [← state, ← contact, ← shuttingDown] at blocked
    rw [stays, two.reset_of_blocked blocked]
    exact alike
  · rw [← state] at ended
    rw [← contact] at connected
    rw [← shuttingDown] at going
    have task : two.loadTask = one.loadTask := by rw [loadTask, loadTask, filter]
    have suspended := alike.queue.suspend
    rw [setsOut, two.reset_of_free ended connected going, task, suspended.ledger.size]
    exact alike.emptied.queued ((suspended.enter _).1.reset _)

theorem Alike.connect (alike : one.Alike id two) : one.connect.Alike id two.connect := by
  have contacted := alike.blind (blind_setContact (.lost none))
  have reconnected : one.reconnected.Alike id two.reconnected :=
    (contacted.queued alike.queue.enable).blind blind_restartTimer
  rcases alike.frame with ⟨contact, -, -, mirror, -, shuttingDown, -⟩
  unfold Session.connect
  rw [contact, shuttingDown]
  split
  · exact alike
  · have empty : two.reconnected.mirror = one.reconnected.mirror := reconnected.frame.2.2.2.1
    show (if one.reconnected.mirror.isEmpty then one.reconnected.reset
        else one.reconnected.update.1).Alike id
      (if two.reconnected.mirror.isEmpty then two.reconnected.reset
        else two.reconnected.update.1)
    rw [empty]
    split
    · exact reconnected.reset
    · exact reconnected.update.1

theorem Alike.disconnect (alike : one.Alike id two) : one.disconnect.Alike id two.disconnect := by
  have contacted := alike.blind (blind_setContact .disconnected)
  have disabled := (contacted.queued contacted.queue.disable).blind blind_stopTimer
  rcases alike with ⟨queue, queues, rfl⟩
  simp only [Session.disconnect, withQueue_frame]
  split
  · exact ⟨queue, queues, rfl⟩
  · exact disabled

theorem Alike.shutdown (alike : one.Alike id two) : one.shutdown.Alike id two.shutdown := by
  have closing : Blind fun session => { session with shuttingDown := true } := fun _ _ => rfl
  have disabled := ((alike.blind closing).queued alike.queue.disable).blind blind_stopTimer
  have finished := disabled.finishIfIdle
  rcases alike with ⟨queue, queues, rfl⟩
  simp only [Session.shutdown, withQueue_frame]
  split
  · exact ⟨queue, queues, rfl⟩
  · exact finished

theorem Alike.updateFilter (alike : one.Alike id two) (filter : SuiteFilter) :
    (one.updateFilter filter).Alike id (two.updateFilter filter) := by
  have filters : Blind fun session =>
    { session with filter := session.filter.update filter } := fun _ _ => rfl
  have changed := alike.blind filters
  have follows (task : Task) := changed.follow task
  have resets := changed.reset
  rcases alike with ⟨queue, queues, rfl⟩
  simp only [Session.updateFilter, withQueue_frame]
  split
  · exact changed
  split
  · exact follows _
  · exact resets

/-! ## Completions -/

theorem Alike.handleNews (alike : one.Alike id two) (answer : Option News) :
    (one.handleNews answer).Alike id (two.handleNews answer) := by
  have gained := alike.blind blind_contactGained
  unfold Session.handleNews
  match answer with
  | some .news => exact gained.follow _
  | some .doFullSync => exact gained.reset
  | some .noNews => exact gained
  | none => exact gained

theorem Alike.syncSucceeded (alike : one.Alike id two) (returned : TaskId) (reply : Reply) :
    (one.syncSucceeded returned reply).Alike id (two.syncSucceeded returned reply) := by
  have ended := (alike.blind (blind_applySync reply)).advance returned (.finished .nothing)
  simp only [Session.syncSucceeded, ended.frame]
  split
  · exact ended.rescan.follow _
  · exact ended.follow _

theorem Alike.resetSucceeded (alike : one.Alike id two) (returned : TaskId) (reply : Reply) :
    (one.resetSucceeded returned reply).Alike id (two.resetSucceeded returned reply) := by
  have loads : Blind fun session => { session with definition := reply.definition.getD {} } :=
    fun _ _ => rfl
  have scanned := alike.blind (loads.andThen blind_resetFinished)
  simp only [Session.resetSucceeded, resetFinished_checked]
  exact (scanned.advance returned _).follow _

theorem Alike.taskSucceeded (alike : one.Alike id two) (returned : TaskId) (kind : TaskKind)
    (reply : Reply) :
    (one.taskSucceeded returned kind reply).Alike id (two.taskSucceeded returned kind reply) := by
  have ended := alike.advance returned (.finished (.ofReply kind.onSuccess reply))
  simp only [Session.taskSucceeded]
  split
  · exact ended.handleNews reply.news
  · exact alike.syncSucceeded returned reply
  · exact alike.resetSucceeded returned reply
  · exact ended.follow _
  · exact (alike.blind (blind_updateLoaded reply.lines)).advance returned _
  all_goals exact ended

theorem Alike.taskFailed (alike : one.Alike id two) (returned : TaskId) (kind : TaskKind)
    (failure : Failure) :
    (one.taskFailed returned kind failure).Alike id (two.taskFailed returned kind failure) := by
  have ended := alike.advance returned (.aborted failure.text)
  have lost := ended.blind (blind_contactLost failure.text)
  simp only [Session.taskFailed]
  split
  · exact lost
  · exact ended.blind (blind_resetFailed failure.text)
  · split
    · exact lost
    · exact ended

/-- What follows once the end of a task is recorded does not depend on that end. -/
theorem alike_recordOnly_of_ended (kind : TaskKind)
    (ended : one.Alike id two) : (if kind.isReset && one.activity = .loading then
        one.setActivity .idle else one).finishIfIdle.Alike id
      (if kind.isReset && two.activity = .loading then
        two.setActivity .idle else two).finishIfIdle := by
  rw [ended.frame.2.1]
  split
  · exact (ended.blind (blind_setActivity .idle)).finishIfIdle
  · exact ended.finishIfIdle

theorem Alike.recordOnly (alike : one.Alike id two) (returned : TaskId) (kind : TaskKind)
    (outcome : Outcome) :
    (one.recordOnly returned kind outcome).Alike id (two.recordOnly returned kind outcome) :=
  alike_recordOnly_of_ended kind (alike.advance returned _)

theorem Alike.isSuperseded (alike : one.Alike id two) (kind : TaskKind) :
    two.isSuperseded kind = one.isSuperseded kind := by
  rcases alike with ⟨queue, queues, rfl⟩
  simp only [Session.isSuperseded, withQueue_frame, Queue.isResetting, queues.frame]

theorem Alike.taskCompleted (alike : one.Alike id two) (returned : TaskId) (outcome : Outcome) :
    (one.taskCompleted returned outcome).Alike id (two.taskCompleted returned outcome) := by
  have back := alike.takenBack returned
  have kinds := congrFun alike.queue.kind? returned
  cases known : one.queue.kind? returned with
  | none => simpa [Session.taskCompleted, known, kinds] using alike
  | some kind =>
      rw [taskCompleted_of_known known, taskCompleted_of_known (kinds.trans known),
        back.isSuperseded kind]
      split
      · exact back.recordOnly returned kind outcome
      · cases outcome with
        | ok reply => exact back.taskSucceeded returned kind reply
        | error failure => exact back.taskFailed returned kind failure

/-! ## Any input -/

theorem Alike.takeStep (alike : one.Alike id two) :
    one.takeStep.1.Alike id two.takeStep.1 ∧ two.takeStep.2 = one.takeStep.2 := by
  rcases alike with ⟨queue, queues, rfl⟩
  rcases queues.next with ⟨handed, task⟩
  simp only [Session.takeStep, withQueue_frame, task]
  exact ⟨⟨_, handed, rfl⟩, trivial⟩

theorem Alike.receive (alike : one.Alike id two) (input : Input) :
    (one.receive input).Alike id (two.receive input) := by
  cases input with
  | make kind args params => exact (alike.enter _).1
  | setParam changed param value => exact alike.queued (alike.queue.setParam changed param value)
  | runCommand args => exact (alike.runCommand args).1
  | run handed => exact alike.run handed
  | update => exact alike.update.1
  | tick => exact alike.update.1
  | refresh => exact alike.update.1.blind blind_restartTimer
  | reset => exact alike.reset
  | connect => exact alike.connect
  | disconnect => exact alike.disconnect
  | updateFilter filter => exact alike.updateFilter filter
  | subscribe =>
      have isBlind : Blind (·.subscribe.1) := fun _ _ => rfl
      exact alike.blind isBlind
  | unsubscribe observer =>
      have isBlind : Blind fun session => (session.unsubscribe observer).1 := fun _ _ => rfl
      exact alike.blind isBlind
  | shutdown => exact alike.shutdown
  | takeStep => exact alike.takeStep.1
  | complete outcome =>
      simp only [Session.receive, alike.queue.frame]
      split
      · exact alike.taskCompleted _ outcome
      · exact alike

theorem Alike.receiveAll (alike : one.Alike id two) (inputs : List Input) :
    (one.receiveAll inputs).Alike id (two.receiveAll inputs) := by
  induction inputs using List.reverseRecOn with
  | nil => exact alike
  | append_singleton inputs input induction =>
      rw [receiveAll_concat, receiveAll_concat]
      exact induction.receive input

/-! ## What is seen -/

/-- What can be seen of a turn: what it hands out, which tasks callers come to hold by it,
and the session after it. -/
structure Sight where
  step : Option SessionStep
  shared : List TaskId
  notices : List Notice
  snapshot : Snapshot
  definition : Definition
  mirror : Mirror
  filter : SuiteFilter

def Turn.sight (turn : Turn) : Sight where
  step := match turn.input with
    | .takeStep => some turn.before.takeStep.2
    | _ => none
  shared := turn.shared
  notices := turn.after.notices
  snapshot := turn.after.snapshot
  definition := turn.after.definition
  mirror := turn.after.mirror
  filter := turn.after.filter

theorem Alike.snapshot (alike : one.Alike id two) : two.snapshot = one.snapshot := by
  rcases alike with ⟨queue, queues, rfl⟩
  have state := queues.state
  simp only [Session.snapshot, withQueue_frame, state]
  rfl

theorem Alike.shared (alike : one.Alike id two) (input : Input) :
    Turn.shared ⟨two, input⟩ = Turn.shared ⟨one, input⟩ := by
  cases input with
  | make kind args params => exact congrArg List.singleton alike.queue.ledger.size
  | runCommand args => exact congrArg Option.toList (alike.runCommand args).2
  | update => exact congrArg Option.toList alike.update.2
  | takeStep =>
      exact congrArg (·.commands.filterMap SessionCommand.task?) alike.takeStep.2
  | _ => rfl

theorem Alike.sight (alike : one.Alike id two) (input : Input) :
    Turn.sight ⟨two, input⟩ = Turn.sight ⟨one, input⟩ := by
  have after := alike.receive input
  have step := alike.takeStep.2
  have shared := alike.shared input
  simp only [Turn.sight, Turn.after, after.frame, after.snapshot, shared]
  cases input <;> simp [step]

theorem Alike.sights (alike : one.Alike id two) (inputs : List Input) :
    (two.turns inputs).map Turn.sight = (one.turns inputs).map Turn.sight := by
  induction inputs using List.reverseRecOn with
  | nil => rfl
  | append_singleton inputs input induction =>
      have now := (alike.receiveAll inputs).sight input
      simp only [turns_concat, List.map_append, induction, List.map_singleton, now]

/-! ## Dropped replies -/

/-- Whether the reply that is waited for will be of no use. -/
def dropsReply (session : Session) : Bool := session.flyingKind?.any session.isSuperseded

/-- What is dropped makes no difference but to the task that it ends. -/
theorem alike_complete (coherent : one.Coherent) (flying : one.queue.inFlight = some id)
    (dropped : one.dropsReply = true) (first second : Outcome) :
    (one.receive (.complete first)).Alike id (one.receive (.complete second)) := by
  rcases coherent.sound.inFlight_known id flying with ⟨kind, known⟩
  have superseded : (one.takenBack id).isSuperseded kind = true := by
    rw [isSuperseded_takenBack coherent.sound flying known]
    simpa [dropsReply, flyingKind?_of_known flying known] using dropped
  have recorded (outcome : Outcome) : one.receive (.complete outcome) =
      (one.takenBack id).recordOnly id kind outcome := by
    rw [receive_complete flying, taskCompleted_of_known known, if_pos superseded]
  rcases Queue.kind?_eq_some known with ⟨task, taskKnown, -⟩
  have backKnown : (one.takenBack id).queue.ledger.get? id = some task := by
    simpa [takenBack] using taskKnown
  rw [recorded first, recorded second]
  apply alike_recordOnly_of_ended kind
  refine ⟨_, ⟨_, Ledger.alike_advance _ backKnown ?_ ?_, rfl⟩, rfl⟩
  · cases first <;> rfl
  · cases second <;> rfl

/-- Two runs that part where a task comes back, and that can be told apart afterwards by how
that task ended and by nothing else. -/
structure Traceless (id : TaskId) (session : Session) (first second : Outcome)
    (later : List Input) : Prop where
  seen : (session.turns (.complete second :: later)).map Turn.sight =
    (session.turns (.complete first :: later)).map Turn.sight
  kept : (session.receiveAll (.complete first :: later)).Alike id
    (session.receiveAll (.complete second :: later))

/-- A reply that is dropped leaves no trace. -/
theorem traceless_of_dropsReply (options : SessionOptions) (earlier : List Input) {id : TaskId}
    (flying : ((new options).receiveAll earlier).queue.inFlight = some id)
    (dropped : ((new options).receiveAll earlier).dropsReply = true)
    (first second : Outcome) (later : List Input) :
    Traceless id ((new options).receiveAll earlier) first second later := by
  have coherent := coherent_receiveAll options earlier
  have alike := alike_complete coherent flying dropped first second
  refine ⟨?_, alike.receiveAll later⟩
  have now : Turn.sight ⟨(new options).receiveAll earlier, .complete second⟩ =
      Turn.sight ⟨(new options).receiveAll earlier, .complete first⟩ := by
    simp only [Turn.sight, Turn.shared, Turn.after, alike.frame, alike.snapshot]
  simp only [turns, List.map_cons, now, alike.sights later]

/-- Whether the poll before a reset fails or not, the reset goes on as it does. -/
theorem traceless_of_resetBehindPoll :
    ((new sampleOptions).receiveAll resetBehindPoll).queue.inFlight = some 2 ∧
      ((new sampleOptions).receiveAll resetBehindPoll).dropsReply = true ∧
      Traceless 2 ((new sampleOptions).receiveAll resetBehindPoll)
        (.ok { news := some .news }) (.error ⟨.timeout, "no reply"⟩) (.run 2 :: loads) :=
  have flying : ((new sampleOptions).receiveAll resetBehindPoll).queue.inFlight = some 2 := by
    decide +kernel
  have dropped : ((new sampleOptions).receiveAll resetBehindPoll).dropsReply = true := by
    decide +kernel
  ⟨flying, dropped, traceless_of_dropsReply sampleOptions resetBehindPoll flying dropped _ _ _⟩

end FlowClient.Session
