import FlowClient.Proofs.Session.Standing

/-! The timer of a session. A session says of its timer what the commands that it gave out
make of it, and lets it run only while the server may be polled. -/

namespace FlowClient

/-- Whether a timer is armed after a command, by whether one was armed before. -/
def SessionCommand.arms (armed : Bool) : SessionCommand → Bool
  | dispatch _ => armed
  | startTimer _ => true
  | stopTimer => false

/-- Whether commands that are carried out one after the other leave a timer armed. -/
def SessionCommand.leaveArmed (commands : List SessionCommand) : Bool :=
  commands.foldl arms false

namespace Session

variable {session before middle after : Session} {turns : List Turn} {input : Input}

/-! ## The timer as commands have it -/

/-- Whether the server may be polled, and is to be. -/
def isPolled (session : Session) : Bool :=
  !(session.contact = .disconnected || session.shuttingDown) &&
    session.options.refreshInterval.isSome

/-- Whether the timer is started with the session's own interval only. -/
def Punctual (session : Session) : Prop :=
  ∀ period, .startTimer period ∈ session.commands →
    session.options.refreshInterval = some period

/-- From `before` to `after` the timer is minded: it does what commands tell it, and goes on
only while the server is polled. -/
structure Minds (before after : Session) : Prop where
  options : after.options = before.options
  told : ∃ added, after.commands = before.commands ++ added ∧
    after.timerRunning = added.foldl SessionCommand.arms before.timerRunning
  polled : (before.timerRunning = true → before.isPolled = true) →
    after.timerRunning = true → after.isPolled = true
  punctual : before.Punctual → after.Punctual

theorem Minds.trans (first : before.Minds middle) (second : middle.Minds after) :
    before.Minds after where
  options := second.options.trans first.options
  told := by
    rcases first.told with ⟨added, commands, timer⟩
    rcases second.told with ⟨more, later, running⟩
    exact ⟨added ++ more, by rw [later, commands, List.append_assoc], by
      rw [running, timer, List.foldl_append]⟩
  polled := fun start => second.polled (first.polled start)
  punctual := fun start => second.punctual (first.punctual start)

theorem minds_of_same (options : after.options = before.options)
    (commands : after.commands = before.commands)
    (timer : after.timerRunning = before.timerRunning)
    (polled : before.isPolled = true → after.isPolled = true) : before.Minds after where
  options := options
  told := ⟨[], by simp [commands], timer⟩
  polled := fun start running => polled (start (timer ▸ running))
  punctual := fun start => by rwa [Punctual, options, commands]

theorem Minds.rfl : session.Minds session := minds_of_same (by rfl) (by rfl) (by rfl) id

section Parts

variable (session : Session)

@[simp] theorem timerRunning_announce (event : Event) :
    (session.announce event).timerRunning = session.timerRunning := rfl

@[simp] theorem timerRunning_setActivity (activity : Activity) :
    (session.setActivity activity).timerRunning = session.timerRunning := rfl

@[simp] theorem timerRunning_setContact (contact : Contact) :
    (session.setContact contact).timerRunning = session.timerRunning := rfl

@[simp] theorem timerRunning_contactGained :
    session.contactGained.timerRunning = session.timerRunning := by
  rw [contactGained]
  split <;> rfl

@[simp] theorem timerRunning_contactLost (reason : String) :
    (session.contactLost reason).timerRunning = session.timerRunning := by
  rw [contactLost]
  split <;> rfl

@[simp] theorem timerRunning_finishIfIdle :
    session.finishIfIdle.timerRunning = session.timerRunning := by
  rw [finishIfIdle]
  split <;> rfl

@[simp] theorem timerRunning_clearTree :
    session.clearTree.timerRunning = session.timerRunning := by
  rw [clearTree]
  split <;> rfl

@[simp] theorem timerRunning_scan : session.scan.1.timerRunning = session.timerRunning := rfl

@[simp] theorem timerRunning_update :
    session.update.1.timerRunning = session.timerRunning := by
  rw [update]
  split <;> rfl

@[simp] theorem timerRunning_nodeChanged (update : NodeUpdate) :
    (session.nodeChanged update).1.timerRunning = session.timerRunning := by
  rw [nodeChanged]
  repeat' split
  all_goals first | rfl | simp
  split <;> rfl

@[simp] theorem timerRunning_applyChange (update : NodeUpdate) :
    (session.applyChange update).timerRunning = session.timerRunning := by
  have followed := timerRunning_nodeChanged
    { session with definition := session.definition.updated update } update
  rcases session.applyChange_cases update with same | same
  · rw [same, followed]
  · rw [same, timerRunning_clearTree, followed]

@[simp] theorem timerRunning_applySync (reply : Reply) :
    (session.applySync reply).timerRunning = session.timerRunning := by
  have taken : (session.takeDefinition reply).timerRunning = session.timerRunning := by
    rw [takeDefinition]
    repeat' split
    all_goals rfl
  exact applySync_of_steps (fun before after => after.timerRunning = before.timerRunning)
    (fun first second => second.trans first) taken timerRunning_applyChange

/-! ## Operations that mind the timer -/

@[simp] theorem timerRunning_stopTimer : session.stopTimer.timerRunning = false := by
  rw [stopTimer]
  split
  · rfl
  · rename_i stopped
    simpa using stopped

theorem minds_stopTimer : session.Minds session.stopTimer where
  options := by simp
  told := by
    rw [stopTimer]
    split
    · exact ⟨[.stopTimer], by rfl, by rfl⟩
    · exact ⟨[], by simp, by rfl⟩
  polled := by simp
  punctual := by
    rw [stopTimer]
    split
    · simp [Punctual]
    · exact id

/-- A timer that is started anew runs just if the server is polled. -/
theorem timerRunning_restartTimer
    (polled : session.timerRunning = true → session.isPolled = true) :
    session.restartTimer.timerRunning = session.isPolled := by
  rw [restartTimer]
  split
  · rename_i closed
    have unpolled : session.isPolled = false := by
      rcases Bool.or_eq_true_iff.mp closed with disconnected | closing
      · simp [isPolled, of_decide_eq_true disconnected]
      · simp [isPolled, closing]
    simpa [unpolled] using polled
  · rename_i free
    have free : session.contact ≠ .disconnected ∧ session.shuttingDown = false := by
      simpa using free
    split
    · simp [isPolled, *]
    · simp [isPolled, *]

@[simp] theorem isPolled_restartTimer : session.restartTimer.isPolled = session.isPolled := by
  simp [isPolled]

theorem minds_restartTimer : session.Minds session.restartTimer where
  options := by simp
  told := by
    rw [restartTimer]
    split
    · exact ⟨[], by simp, by rfl⟩
    split
    · exact ⟨[.startTimer _], by rfl, by rfl⟩
    · exact session.minds_stopTimer.told
  polled := fun start => by
    rw [session.timerRunning_restartTimer start, isPolled_restartTimer]
    exact id
  punctual := by
    rw [restartTimer]
    split
    · exact id
    split
    · rename_i interval
      intro start asked member
      rcases List.mem_append.mp member with old | new
      · exact start asked old
      · cases List.mem_singleton.mp new
        exact interval
    · exact session.minds_stopTimer.punctual

theorem minds_setActivity (activity : Activity) : session.Minds (session.setActivity activity) :=
  minds_of_same (by simp) (by simp) (by simp) (by simp [isPolled])

theorem minds_setContact {contact : Contact} (connected : contact ≠ .disconnected) :
    session.Minds (session.setContact contact) :=
  minds_of_same (by simp) (by simp) (by simp) (by simp +contextual [isPolled, connected])

theorem minds_contactGained : session.Minds session.contactGained :=
  minds_of_same (by simp) (by simp) (by simp) (by simp +contextual [isPolled])

theorem minds_contactLost (reason : String) : session.Minds (session.contactLost reason) := by
  refine minds_of_same (by simp) (by simp) (by simp) ?_
  rw [contactLost]
  split
  · exact id
  · simp +contextual [isPolled]

theorem minds_finishIfIdle : session.Minds session.finishIfIdle :=
  minds_of_same (by simp) (by simp) (by simp) (by simp [isPolled])

theorem minds_scan : session.Minds session.scan.1 :=
  minds_of_same (by simp) (by simp) (by simp) (by simp [isPolled])

theorem minds_applySync (reply : Reply) : session.Minds (session.applySync reply) :=
  minds_of_same (by simp) (by simp) (by simp) (by simp [isPolled])

/-- Tasks that are queued have nothing to do with the timer. -/
theorem minds_queue (queue : Queue) : session.Minds { session with queue } :=
  minds_of_same (by rfl) (by rfl) (by rfl) id

theorem minds_advance (task : TaskId) (next : Progress) :
    session.Minds (session.advance task next) := session.minds_queue _

theorem minds_follow (task : Task) : session.Minds (session.follow task) := session.minds_queue _

theorem minds_update : session.Minds session.update.1 := by
  rw [update]
  split
  · exact .rfl
  · exact session.minds_queue _

theorem minds_rescan : session.Minds session.rescan.1 := by
  have stops := (session.minds_setActivity .rescanning).trans (minds_stopTimer _)
  refine (stops.trans ?_).trans (minds_setActivity _ .idle)
  exact .trans (minds_of_same (by simp) (by simp) (by simp) (by simp [isPolled])) (minds_restartTimer _)

@[simp] theorem timerRunning_emptied : session.emptied.timerRunning = false := by
  rw [emptied, timerRunning_setActivity, timerRunning_clearTree]
  exact session.timerRunning_stopTimer

theorem minds_emptied : session.Minds session.emptied :=
  session.minds_stopTimer.trans
    (minds_of_same (by simp [emptied]) (by simp [emptied]) (by simp) (by simp [isPolled, emptied]))

theorem minds_reset : session.Minds session.reset := by
  rcases session.reset_cases with ⟨-, stays⟩ | ⟨-, -, -, setsOut⟩
  · rw [stays]
    exact .rfl
  · rw [setsOut]
    exact session.minds_emptied.trans (minds_queue _ _)

theorem minds_resetFinished : session.Minds session.resetFinished.1 := by
  have stamped : (session.setActivity .idle).Minds (session.setActivity .idle).stampServer :=
    minds_of_same (by rfl) (by simp) (by rfl) (by simp [isPolled])
  exact (session.minds_setActivity .idle).trans (stamped.trans ((minds_scan _).trans
    ((minds_contactGained _).trans (minds_restartTimer _))))

theorem minds_resetFailed (reason : String) : session.Minds (session.resetFailed reason) := by
  have fails : session.Minds (({ session with contact := .lost (some reason) }.setActivity
      .idle).announce (.contactChanged (.lost (some reason)))) :=
    minds_of_same (by simp) (by simp) (by simp) (by simp +contextual [isPolled])
  exact fails.trans (minds_restartTimer _)

theorem minds_disconnect : session.Minds session.disconnect := by
  rw [disconnect]
  split
  · exact .rfl
  · have stops := minds_stopTimer { session.setContact .disconnected with
      queue := session.queue.disable }
    exact ⟨by simp, by simpa using stops.told, by simp,
      fun start => stops.punctual (by simpa [Punctual] using start)⟩

theorem minds_shutdown : session.Minds session.shutdown := by
  rw [shutdown]
  split
  · exact .rfl
  · have stopped := minds_stopTimer { session with
      shuttingDown := true, queue := session.queue.disable }
    have stops : session.Minds { session with
        shuttingDown := true, queue := session.queue.disable }.stopTimer :=
      ⟨by simp, stopped.told, by simp, stopped.punctual⟩
    exact stops.trans (minds_finishIfIdle _)

theorem minds_reconnected : session.Minds session.reconnected :=
  (session.minds_setContact (by simp : Contact.lost none ≠ .disconnected)).trans
    ((minds_queue _ _).trans (minds_restartTimer _))

theorem minds_connect : session.Minds session.connect := by
  by_cases disconnected : session.contact = .disconnected
  · cases going : session.shuttingDown with
    | true => simpa [connect, going] using Minds.rfl
    | false =>
        rw [session.connect_of_free disconnected going]
        split
        · exact session.minds_reconnected.trans (minds_reset _)
        · exact session.minds_reconnected.trans (minds_update _)
  · simpa [connect, disconnected] using Minds.rfl

theorem minds_updateFilter (filter : SuiteFilter) : session.Minds (session.updateFilter filter) := by
  have changes : session.Minds { session with filter := session.filter.update filter } :=
    minds_of_same (by rfl) (by rfl) (by rfl) id
  rw [updateFilter]
  simp only
  split
  · exact changes
  split
  · exact changes.trans (minds_follow _ _)
  · exact changes.trans (minds_reset _)

theorem minds_recordOnly (task : TaskId) (kind : TaskKind) (outcome : Outcome) :
    session.Minds (session.recordOnly task kind outcome) := by
  have settles (advanced : Session) (loaded : Bool) : advanced.Minds
      (if loaded then advanced.setActivity .idle else advanced).finishIfIdle := by
    refine .trans ?_ (minds_finishIfIdle _)
    split
    · exact minds_setActivity _ .idle
    · exact .rfl
  exact (minds_advance _ _ _).trans (settles _ _)

theorem minds_handleNews (answer : Option News) : session.Minds (session.handleNews answer) := by
  unfold handleNews
  refine session.minds_contactGained.trans ?_
  split
  · exact minds_follow _ _
  · exact minds_reset _
  · exact .rfl
  · exact .rfl

theorem minds_syncSucceeded (task : TaskId) (reply : Reply) :
    session.Minds (session.syncSucceeded task reply) := by
  have applies := (session.minds_applySync reply).trans (minds_advance _ task (.finished .nothing))
  simp only [syncSucceeded]
  refine (applies.trans ?_).trans (minds_follow _ _)
  split
  · exact minds_rescan _
  · exact .rfl

theorem minds_resetSucceeded (task : TaskId) (reply : Reply) :
    session.Minds (session.resetSucceeded task reply) := by
  have loads : session.Minds { session with definition := reply.definition.getD {} } :=
    minds_of_same (by rfl) (by rfl) (by rfl) id
  exact (loads.trans (minds_resetFinished _)).trans ((minds_advance _ _ _).trans (minds_follow _ _))

theorem minds_taskSucceeded (task : TaskId) (kind : TaskKind) (reply : Reply) :
    session.Minds (session.taskSucceeded task kind reply) := by
  simp only [taskSucceeded]
  split
  · exact (minds_advance _ _ _).trans (minds_handleNews _ _)
  · exact session.minds_syncSucceeded task reply
  · exact session.minds_resetSucceeded task reply
  · exact (minds_advance _ _ _).trans (minds_follow _ _)
  · have lists : session.Minds (session.updateLoaded reply.lines) :=
      minds_of_same (by rfl) (by rfl) (by rfl) id
    exact lists.trans (minds_advance _ _ _)
  all_goals exact minds_advance _ _ _

theorem minds_taskFailed (task : TaskId) (kind : TaskKind) (failure : Failure) :
    session.Minds (session.taskFailed task kind failure) := by
  simp only [taskFailed]
  refine (session.minds_advance task (.aborted failure.text)).trans ?_
  split
  · exact minds_contactLost _ _
  · exact minds_resetFailed _ _
  · split
    · exact minds_contactLost _ _
    · exact .rfl

theorem minds_taskCompleted (task : TaskId) (outcome : Outcome) :
    session.Minds (session.taskCompleted task outcome) := by
  rw [taskCompleted]
  split
  · exact .rfl
  · refine (session.minds_queue (session.queue.complete task).1).trans ?_
    simp only
    split
    · exact minds_recordOnly _ _ _ _
    split
    · exact minds_taskSucceeded _ _ _ _
    · exact minds_taskFailed _ _ _ _

end Parts

/-- Whatever happens to a session, but for a step, only adds commands. -/
theorem minds_receive (unstepped : input ≠ .takeStep) :
    session.Minds (session.receive input) := by
  cases input with
  | make | setParam => exact minds_queue _ _
  | runCommand args =>
      simp only [receive, runCommand]
      split
      · exact .rfl
      · exact minds_queue _ _
  | run id =>
      simp only [receive, run]
      split
      · exact .rfl
      split
      · exact minds_queue _ _
      split
      · exact minds_queue _ _
      · exact minds_queue _ _
  | update | tick => exact minds_update _
  | refresh => exact (minds_update _).trans (minds_restartTimer _)
  | reset => exact minds_reset _
  | connect => exact minds_connect _
  | disconnect => exact minds_disconnect _
  | updateFilter filter => exact minds_updateFilter _ filter
  | subscribe | unsubscribe => exact minds_of_same (by rfl) (by rfl) (by rfl) id
  | shutdown => exact minds_shutdown _
  | takeStep => exact absurd rfl unstepped
  | complete outcome =>
      simp only [receive]
      split
      · exact minds_taskCompleted _ _ _
      · exact .rfl

/-! ## Runs -/

/-- The commands that a turn gives out. -/
def Turn.commands (turn : Turn) : List SessionCommand :=
  match turn.input with
  | .takeStep => turn.before.takeStep.2.commands
  | _ => []

/-- All the commands of a run: those that were given out, and those that the session has
ready for the next step. -/
def allCommands (turns : List Turn) (session : Session) : List SessionCommand :=
  turns.flatMap Turn.commands ++ session.commands

theorem commands_of_unstepped (unstepped : input ≠ .takeStep) :
    Turn.commands ⟨session, input⟩ = [] := by
  cases input <;> first | rfl | exact absurd rfl unstepped

theorem allCommands_takeStep : allCommands (turns ++ [⟨session, .takeStep⟩])
    (session.receive .takeStep) =
      allCommands turns session ++ (session.queue.next.2.map SessionCommand.dispatch).toList := by
  simp [allCommands, Turn.commands, takeStep, receive]

theorem allCommands_of_added {added : List SessionCommand} (unstepped : input ≠ .takeStep)
    (commands : (session.receive input).commands = session.commands ++ added) :
    allCommands (turns ++ [⟨session, input⟩]) (session.receive input) =
      allCommands turns session ++ added := by
  simp [allCommands, commands_of_unstepped unstepped, commands]

/-- What holds of the timer between two inputs. -/
structure Minded (turns : List Turn) (session : Session) : Prop where
  told : SessionCommand.leaveArmed (allCommands turns session) = session.timerRunning
  polled : session.timerRunning = true → session.isPolled = true
  punctual : session.Punctual

theorem minded_receive (minded : Minded turns session) (input : Input) :
    Minded (turns ++ [⟨session, input⟩]) (session.receive input) := by
  have told := minded.told
  unfold SessionCommand.leaveArmed at told
  by_cases stepped : input = .takeStep
  · subst stepped
    refine ⟨?_, minded.polled, nofun⟩
    rw [allCommands_takeStep, SessionCommand.leaveArmed, List.foldl_append, told]
    cases session.queue.next.2 <;> rfl
  · have minds : session.Minds (session.receive input) := minds_receive stepped
    rcases minds.told with ⟨added, commands, running⟩
    refine ⟨?_, minds.polled minded.polled, minds.punctual minded.punctual⟩
    rw [allCommands_of_added stepped commands, SessionCommand.leaveArmed, List.foldl_append, told,
      running]

theorem minded_receiveAll (options : SessionOptions) (inputs : List Input) :
    Minded ((new options).turns inputs) ((new options).receiveAll inputs) := by
  induction inputs using List.reverseRecOn with
  | nil => exact ⟨rfl, (fun running => by cases running), nofun⟩
  | append_singleton inputs input induction =>
      rw [receiveAll_concat, turns_concat]
      exact minded_receive induction input

end Session

end FlowClient
