import FlowClient.Proofs.Queue.Placed
import FlowClient.Proofs.Session.Dispatch
import FlowClient.Proofs.Session.Timers

/-! A session that is disconnected, until its connection is taken up again. Whatever happens to
it, it asks for nothing and shows what it showed. Only what it had asked for before, and
had not yet handed out, is still handed out. -/

namespace FlowClient.Session

variable {session before after : Session} {input : Input} {id : TaskId}

/-! ## What stays -/

/-- What a queue keeps that is disabled: it takes nothing in and hands nothing out. -/
structure QueueRests (before after : Queue) : Prop where
  mode : after.mode = before.mode
  pending : after.pending = before.pending
  /-- What is in flight may come back. -/
  inFlight : after.inFlight = before.inFlight ∨ after.inFlight = none

theorem QueueRests.rfl {queue : Queue} : QueueRests queue queue := ⟨by rfl, by rfl, .inl (by rfl)⟩

theorem QueueRests.trans {first second third : Queue} (earlier : QueueRests first second)
    (later : QueueRests second third) : QueueRests first third where
  mode := later.mode.trans earlier.mode
  pending := later.pending.trans earlier.pending
  inFlight := by
    rcases later.inFlight with same | gone
    · exact same ▸ earlier.inFlight
    · exact .inr gone

/-- What a session keeps while it is disconnected. -/
structure Keeps (before after : Session) : Prop where
  contact : after.contact = before.contact
  queue : QueueRests before.queue after.queue
  timer : after.timerRunning = before.timerRunning
  definition : after.definition = before.definition
  mirror : after.mirror = before.mirror

theorem Keeps.rfl : Keeps session session := ⟨by rfl, .rfl, by rfl, by rfl, by rfl⟩

theorem Keeps.trans {middle : Session} (first : before.Keeps middle)
    (second : middle.Keeps after) : before.Keeps after where
  contact := second.contact.trans first.contact
  queue := first.queue.trans second.queue
  timer := second.timer.trans first.timer
  definition := second.definition.trans first.definition
  mirror := second.mirror.trans first.mirror

/-- What holds of a session while it is disconnected. -/
structure Asleep (session : Session) : Prop where
  disconnected : session.contact = .disconnected
  disabled : session.queue.mode = .disabled
  empty : session.queue.pending = []
  stopped : session.timerRunning = false

theorem Asleep.keep (asleep : before.Asleep) (keeps : before.Keeps after) : after.Asleep where
  disconnected := keeps.contact.trans asleep.disconnected
  disabled := keeps.queue.mode.trans asleep.disabled
  empty := keeps.queue.pending.trans asleep.empty
  stopped := keeps.timer.trans asleep.stopped

theorem asleep_disconnect (session : Session) (connected : session.contact ≠ .disconnected) :
    session.disconnect.Asleep := by
  rw [disconnect, if_neg connected]
  exact ⟨by simp, by simp, by simp, by simp⟩

/-! ## One turn -/

/-- What a turn does to a session that is disconnected: nothing, but that a step hands out the
commands that are left. -/
structure Turn.Idle (turn : Turn) : Prop where
  keeps : turn.before.Keeps turn.after
  undispatched : turn.dispatched = []
  /-- No command is added. -/
  unrecorded : turn.commands ++ turn.after.commands = turn.before.commands

/-- Whether a turn takes up the connection again. -/
def Turn.connects (turn : Turn) : Bool :=
  match turn.input with
  | .connect => turn.before.contact = .disconnected && !turn.before.shuttingDown
  | _ => false

theorem idle_of_keeps (unstepped : input ≠ .takeStep)
    (keeps : session.Keeps (session.receive input))
    (commands : (session.receive input).commands = session.commands) :
    Turn.Idle ⟨session, input⟩ where
  keeps := keeps
  undispatched := dispatched_of_unstepped unstepped
  unrecorded := by
    rw [commands_of_unstepped unstepped, List.nil_append]
    exact commands

theorem idle_of_same (unstepped : input ≠ .takeStep) (same : session.receive input = session) :
    Turn.Idle ⟨session, input⟩ :=
  idle_of_keeps unstepped (by rw [same]; exact .rfl) (by rw [same])

theorem idle_of_queue (unstepped : input ≠ .takeStep) {queue : Queue}
    (same : session.receive input = { session with queue })
    (rests : QueueRests session.queue queue) : Turn.Idle ⟨session, input⟩ := by
  refine idle_of_keeps unstepped ?_ (by rw [same])
  rw [same]
  exact ⟨by rfl, rests, by rfl, by rfl, by rfl⟩

theorem queueRests_add {queue : Queue} (disabled : queue.mode = .disabled) (task : Task) :
    QueueRests queue (queue.add task).1 where
  mode := (queue.add_frame task).1
  pending := Queue.submit_of_disabled (show (queue.enter task).1.mode = .disabled from disabled) _
  inFlight := .inl (queue.add_frame task).2.1

theorem updateFilter_of_asleep (asleep : session.Asleep) (filter : SuiteFilter) :
    ∃ queue, QueueRests session.queue queue ∧ session.updateFilter filter =
      { session with filter := session.filter.update filter, queue } := by
  simp only [updateFilter]
  split
  · exact ⟨session.queue, .rfl, rfl⟩
  split
  · exact ⟨_, queueRests_add asleep.disabled _, rfl⟩
  · exact ⟨session.queue, .rfl, reset_of_blocked _ (.inr (.inl asleep.disconnected))⟩

theorem idle_updateFilter (asleep : session.Asleep) (filter : SuiteFilter) :
    Turn.Idle ⟨session, .updateFilter filter⟩ := by
  rcases updateFilter_of_asleep asleep filter with ⟨queue, rests, same⟩
  have received : session.receive (.updateFilter filter) = _ := same
  refine idle_of_keeps nofun ?_ (by rw [received])
  rw [received]
  exact ⟨rfl, rests, rfl, rfl, rfl⟩

theorem run_of_disconnected (disconnected : session.contact = .disconnected) {kind : TaskKind}
    (known : session.queue.kind? id = some kind) :
    session.run id = session.advance id (.rejected disconnectedReason) := by
  simp [run, known, disconnected]

theorem idle_run (asleep : session.Asleep) (id : TaskId) : Turn.Idle ⟨session, .run id⟩ := by
  cases known : session.queue.kind? id with
  | none => exact idle_of_same nofun (by simp [receive, run, known])
  | some kind =>
      exact idle_of_queue nofun (run_of_disconnected asleep.disconnected known) ⟨rfl, rfl, .inl rfl⟩

theorem idle_shutdown (asleep : session.Asleep) : Turn.Idle ⟨session, .shutdown⟩ := by
  cases closing : session.shuttingDown with
  | true => exact idle_of_same nofun (by simp [receive, shutdown, closing])
  | false =>
      have stopped := asleep.stopped
      have disabled : QueueRests session.queue session.queue.disable :=
        ⟨by simp [asleep.disabled], by simp [asleep.empty], .inl (by simp)⟩
      have closed : session.receive .shutdown = ({ session with
          shuttingDown := true, queue := session.queue.disable } : Session).finishIfIdle := by
        simp [receive, shutdown, closing, stopTimer, stopped]
      refine idle_of_keeps nofun ?_ (by simp [closed])
      rw [closed]
      exact ⟨by simp, by simpa using disabled, by simp, by simp, by simp⟩

theorem idle_takeStep (coherent : session.Coherent) (asleep : session.Asleep) :
    Turn.Idle ⟨session, .takeStep⟩ := by
  have next : session.queue.next = (session.queue, none) := by
    simp [Queue.next, asleep.disabled]
  have stepped : session.receive .takeStep = { session with commands := [] } := by
    simp [receive, takeStep, next]
  refine ⟨?_, ?_, ?_⟩
  · rw [Turn.after, stepped]
    exact ⟨rfl, .rfl, rfl, rfl, rfl⟩
  · rw [dispatched_takeStep coherent, next]
    rfl
  · simp [Turn.commands, Turn.after, stepped, takeStep, next]

/-- What is only recorded leaves a session as it was, but for its activity. -/
theorem keeps_recordOnly (session : Session) (id : TaskId) (kind : TaskKind)
    (outcome : Outcome) : session.Keeps (session.recordOnly id kind outcome) ∧
      (session.recordOnly id kind outcome).commands = session.commands := by
  have settles (ending : Progress) (loaded : Bool) :
      session.Keeps (if loaded then (session.advance id ending).setActivity .idle
        else session.advance id ending).finishIfIdle ∧
      (if loaded then (session.advance id ending).setActivity .idle
        else session.advance id ending).finishIfIdle.commands = session.commands := by
    have rests : QueueRests session.queue (session.queue.advance id ending) :=
      ⟨rfl, rfl, .inl rfl⟩
    cases loaded <;>
      exact ⟨⟨by simp [advance], by simpa, by simp [advance], by simp [advance], by simp [advance]⟩,
        by simp [advance]⟩
  exact settles _ _

theorem idle_complete (sound : session.queue.Sound) (asleep : session.Asleep)
    (outcome : Outcome) : Turn.Idle ⟨session, .complete outcome⟩ := by
  cases flying : session.queue.inFlight with
  | none => exact idle_of_same nofun (receive_complete_none flying outcome)
  | some id =>
      rcases sound.inFlight_known id flying with ⟨kind, known⟩
      have superseded : (session.takenBack id).isSuperseded kind = true := by
        simp [isSuperseded, takenBack, asleep.disconnected]
      have received : session.receive (.complete outcome) =
          (session.takenBack id).recordOnly id kind outcome := by
        rw [receive_complete flying, taskCompleted_of_known known, if_pos superseded]
      have back : session.Keeps (session.takenBack id) := by
        refine ⟨rfl, ⟨?_, (session.queue.complete_frame id).2, .inr ?_⟩, rfl, rfl, rfl⟩
        · simp [takenBack, Queue.complete, flying]
        · simp [takenBack, Queue.complete, flying]
      rcases (session.takenBack id).keeps_recordOnly id kind outcome with ⟨keeps, commands⟩
      refine idle_of_keeps nofun ?_ (by rw [received]; exact commands)
      rw [received]
      exact back.trans keeps

/-- Nothing that happens to a session that is disconnected moves it, but that it is connected. -/
theorem idle_turn (coherent : session.Coherent) (asleep : session.Asleep) (input : Input)
    (apart : Turn.connects ⟨session, input⟩ = false) : Turn.Idle ⟨session, input⟩ := by
  have disconnected := asleep.disconnected
  cases input with
  | make kind args params => exact idle_of_queue (by simp) rfl ⟨rfl, rfl, .inl rfl⟩
  | setParam id param value => exact idle_of_queue (by simp) rfl ⟨rfl, rfl, .inl rfl⟩
  | runCommand args => exact idle_of_same (by simp) (by simp [receive, runCommand, disconnected])
  | run id => exact idle_run asleep id
  | update => exact idle_of_same (by simp) (by simp [receive, update, disconnected])
  | tick => exact idle_of_same (by simp) (by simp [receive, tick, update, disconnected])
  | refresh =>
      exact idle_of_same (by simp) (by simp [receive, refresh, update, restartTimer, disconnected])
  | reset => exact idle_of_same (by simp) (session.reset_of_blocked (.inr (.inl disconnected)))
  | connect =>
      have closing : session.shuttingDown = true := by simpa [Turn.connects, disconnected] using apart
      exact idle_of_same (by simp) (by simp [receive, connect, closing])
  | disconnect => exact idle_of_same (by simp) (by simp [receive, disconnect, disconnected])
  | updateFilter filter => exact idle_updateFilter asleep filter
  | subscribe => exact idle_of_keeps (by simp) ⟨rfl, .rfl, rfl, rfl, rfl⟩ rfl
  | unsubscribe id => exact idle_of_keeps (by simp) ⟨rfl, .rfl, rfl, rfl, rfl⟩ rfl
  | shutdown => exact idle_shutdown asleep
  | takeStep => exact idle_takeStep coherent asleep
  | complete outcome => exact idle_complete coherent.sound asleep outcome

/-! ## Runs -/

/-- What has become of a session that is disconnected after turns that do not connect it. -/
structure SleptThrough (session : Session) (turns : List Turn) (later : Session) : Prop where
  asleep : later.Asleep
  keeps : session.Keeps later
  undispatched : ∀ turn ∈ turns, turn.dispatched = []
  unrecorded : turns.flatMap Turn.commands ++ later.commands = session.commands
  collected : ∀ turn ∈ turns, turn.input = .takeStep → later.commands = []

theorem sleptThrough_receiveAll (coherent : session.Coherent) (asleep : session.Asleep)
    (inputs : List Input) (apart : ∀ turn ∈ session.turns inputs, turn.connects = false) :
    SleptThrough session (session.turns inputs) (session.receiveAll inputs) := by
  induction inputs using List.reverseRecOn with
  | nil => exact ⟨asleep, .rfl, by simp, by simp, by simp⟩
  | append_singleton inputs input induction =>
      rw [turns_concat] at apart
      have slept := induction fun turn member => apart turn (List.mem_append_left _ member)
      have later : (session.receiveAll inputs).Coherent :=
        receiveAll_keeps Coherent coherent (fun _ input before => coherent_receive before input) inputs
      have idle := idle_turn later slept.asleep input (apart _ (by simp))
      rw [receiveAll_concat, turns_concat]
      refine ⟨slept.asleep.keep idle.keeps, slept.keeps.trans idle.keeps, ?_, ?_, ?_⟩
      · intro turn member
        rcases List.mem_append.mp member with old | last
        · exact slept.undispatched turn old
        · exact List.mem_singleton.mp last ▸ idle.undispatched
      · rw [List.flatMap_append, List.flatMap_singleton, List.append_assoc, ← slept.unrecorded]
        exact congrArg _ idle.unrecorded
      · intro turn member stepped
        rcases List.mem_append.mp member with old | last
        · have none := idle.unrecorded.trans (slept.collected turn old stepped)
          exact (List.append_eq_nil_iff.mp none).2
        · rw [List.mem_singleton.mp last] at stepped
          have stepped : input = .takeStep := stepped
          rw [stepped]
          rfl

/-! ## Commands that are left -/

/-- A timer that commands leave stopped they leave stopped also if none was armed before. -/
theorem arms_of_unarmed (commands : List SessionCommand) {armed : Bool}
    (stopped : commands.foldl SessionCommand.arms armed = false) :
    SessionCommand.leaveArmed commands = false := by
  induction commands generalizing armed with
  | nil => rfl
  | cons command commands induction =>
      cases command with
      | dispatch id => exact induction stopped
      | startTimer period => exact stopped
      | stopTimer => exact stopped

/-- The commands that a session has ready when it is disconnected leave no timer armed. -/
theorem leaveArmed_of_stopped (options : SessionOptions) (inputs : List Input)
    (stopped : ((new options).receiveAll inputs).timerRunning = false) :
    SessionCommand.leaveArmed ((new options).receiveAll inputs).commands = false := by
  have told := (minded_receiveAll options inputs).told
  rw [stopped, allCommands, SessionCommand.leaveArmed, List.foldl_append] at told
  exact arms_of_unarmed _ told

theorem commands_disconnect (connected : session.contact ≠ .disconnected) :
    session.disconnect.commands =
      session.commands ++ if session.timerRunning then [.stopTimer] else [] := by
  rw [disconnect, if_neg connected]
  cases running : session.timerRunning with
  | true => simp [stopTimer, setContact, announce, running]
  | false => simp [stopTimer, setContact, announce, running]

/-! ## Between a disconnect and a connect -/

/-- How a session is that was disconnected, and has not been connected since these turns. -/
structure Silent (before : Session) (turns : List Turn) (session : Session) : Prop where
  disconnected : session.contact = .disconnected
  disabled : session.queue.state = .disabled
  empty : session.queue.pending = []
  stopped : session.timerRunning = false
  definition : session.definition = before.definition
  mirror : session.mirror = before.mirror
  /-- Nothing is in flight but what was so when the session was disconnected. -/
  inFlight : session.queue.inFlight = before.queue.inFlight ∨ session.queue.inFlight = none
  undispatched : ∀ turn ∈ turns, turn.dispatched = []
  /-- What is handed out, or still left, had been asked for before, but that the timer is
  stopped. -/
  unrecorded : turns.flatMap Turn.commands ++ session.commands =
    before.commands ++ if before.timerRunning then [.stopTimer] else []
  unarmed : SessionCommand.leaveArmed (turns.flatMap Turn.commands ++ session.commands) = false
  /-- The first step takes what is left, -/
  collected : ∀ turn ∈ turns, turn.input = .takeStep → session.commands = []
  /-- and if nothing is, no step starts the timer. -/
  unstarted : before.commands = [] →
    ∀ turn ∈ turns, ∀ period, SessionCommand.startTimer period ∉ turn.commands
  ignoresCommand : ∀ args, session.runCommand args = (session, none)
  ignoresUpdate : session.update = (session, none)
  rejects : ∀ id task, session.queue.task? id = some task →
    (session.run id).queue.task? id = some
      (if task.isTerminal then task else { task with progress := .rejected disconnectedReason })

theorem task?_run_of_disconnected (disconnected : session.contact = .disconnected) {task : Task}
    (known : session.queue.task? id = some task) :
    (session.run id).queue.task? id = some
      (if task.isTerminal then task
        else { task with progress := .rejected disconnectedReason }) := by
  have kind : session.queue.kind? id = some task.kind := by simp [Queue.kind?, known]
  have entry : session.queue.ledger.get? id = some task := known
  rw [run_of_disconnected disconnected kind]
  cases ended : task.progress.isTerminal <;>
    simp [advance, Queue.advance, Queue.task?, Ledger.advance, entry, Task.advance,
      Progress.advance, Task.isTerminal, ended]

/-- In any run, from a disconnect on until the session is connected again, it is silent. -/
theorem silent_receiveAll (options : SessionOptions) (earlier during : List Input)
    (connected : ((new options).receiveAll earlier).contact ≠ .disconnected)
    (apart : ∀ turn ∈ ((new options).receiveAll earlier).disconnect.turns during,
      turn.connects = false) :
    Silent ((new options).receiveAll earlier)
      (((new options).receiveAll earlier).disconnect.turns during)
      (((new options).receiveAll earlier).disconnect.receiveAll during) := by
  have coherent := coherent_receiveAll options (earlier ++ [.disconnect])
  have left := leaveArmed_of_stopped options (earlier ++ [.disconnect])
  rw [receiveAll_concat] at coherent left
  generalize (new options).receiveAll earlier = before at *
  have disconnect : before.receive .disconnect = before.disconnect := rfl
  rw [disconnect] at coherent left
  have fell := before.asleep_disconnect connected
  have slept := sleptThrough_receiveAll coherent fell during apart
  have unrecorded := slept.unrecorded.trans (commands_disconnect connected)
  generalize before.disconnect.receiveAll during = session at *
  generalize before.disconnect.turns during = turns at *
  have asleep := slept.asleep
  have disconnected := asleep.disconnected
  refine ⟨disconnected, by simp [Queue.state, asleep.disabled], asleep.empty, asleep.stopped, ?_,
    ?_, ?_, slept.undispatched, unrecorded, ?_, slept.collected, ?_, ?_, ?_, ?_⟩
  · rw [slept.keeps.definition]
    simp [Session.disconnect, connected]
  · rw [slept.keeps.mirror]
    simp [Session.disconnect, connected]
  · have kept : before.disconnect.queue.inFlight = before.queue.inFlight := by
      simp [Session.disconnect, connected]
    exact kept ▸ slept.keeps.queue.inFlight
  · rw [slept.unrecorded]
    exact left fell.stopped
  · intro none turn member period started
    have among : SessionCommand.startTimer period ∈ turns.flatMap Turn.commands ++ session.commands :=
      List.mem_append_left _ (List.mem_flatMap.mpr ⟨turn, member, started⟩)
    rw [unrecorded, none] at among
    cases running : before.timerRunning <;> simp [running] at among
  · intro args
    simp [runCommand, disconnected]
  · simp [update, disconnected]
  · intro id task known
    exact task?_run_of_disconnected disconnected known

/-- A poll is in flight when the session is disconnected, and its answer comes too late. -/
def pollInFlight : List Input := .reset :: loads ++ [.make .history [] {}, .tick, .takeStep]

def lateAnswer : List Input :=
  [.runCommand ["--ping"], .run 2, .tick, .refresh, .takeStep, .reset,
    .complete (.ok { news := some .doFullSync }), .disconnect, .takeStep]

theorem silent_of_lateAnswer :
    ((new sampleOptions).receiveAll pollInFlight).contact ≠ .disconnected ∧
      (∀ turn ∈ ((new sampleOptions).receiveAll pollInFlight).disconnect.turns lateAnswer,
        turn.connects = false) ∧
      Silent ((new sampleOptions).receiveAll pollInFlight)
        (((new sampleOptions).receiveAll pollInFlight).disconnect.turns lateAnswer)
        (((new sampleOptions).receiveAll pollInFlight).disconnect.receiveAll lateAnswer) :=
  ⟨by decide +kernel, by decide +kernel,
    silent_receiveAll sampleOptions pollInFlight lateAnswer (by decide +kernel) (by decide +kernel)⟩

/-- The definition has come, and nobody has taken a step since. -/
def justLoaded : List Input :=
  [.reset, .takeStep, .complete (.ok { definition := some oneSuite })]

/-- A step hands out after a disconnect the start of the timer that was asked for before. -/
theorem startTimer_of_justLoaded :
    ((new sampleOptions).receiveAll justLoaded).contact ≠ .disconnected ∧
      ∃ turn ∈ ((new sampleOptions).receiveAll justLoaded).disconnect.turns [.takeStep],
        turn.connects = false ∧ turn.commands = [.startTimer 60000, .stopTimer] := by
  decide +kernel

end FlowClient.Session
