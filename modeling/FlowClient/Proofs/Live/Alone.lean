import FlowClient.Proofs.Live.Shutdown
import FlowClient.Proofs.Session.Attempts

/-! A live session whose worker is gone. Each task that it dispatches comes back to it as failed,
and it is asked anew; and since no failure makes a task, it has soon come to the end of what
waits. Meanwhile it still carries out what it is told about its timer. -/

namespace FlowClient.LiveSession

variable {live next after : LiveSession} {now : Nat} {id : TaskId}

/-! ## Rounds -/

/-- Ask the session once what is to be done and carry that out, and say whether it is to be asked
again. -/
def round (now : Nat) (live : LiveSession) : LiveSession × Bool :=
  let step := live.session.takeStep
  match carryOut now step.2.keepRunning step.2.commands false { live with session := step.1 } with
  | (reached, none) => (reached, false)
  | (reached, some again) => afterRound step.2.keepRunning again reached

/-- The loop of rounds, without a limit to their number: where it ends, and what the queue handed
out in each of them. -/
inductive Loops (now : Nat) : LiveSession → List (Option TaskId) → LiveSession → Prop
  | last {live after : LiveSession} (ends : live.round now = (after, false)) :
      Loops now live [live.session.queue.next.2] after
  | more {live next after : LiveSession} {rounds : List (Option TaskId)}
      (again : live.round now = (next, true)) (loops : Loops now next rounds after) :
      Loops now live (live.session.queue.next.2 :: rounds) after

theorem driveFor_succ (now rounds : Nat) (live : LiveSession) :
    driveFor now (rounds + 1) live =
      match live.round now with
      | (next, true) => driveFor now rounds next
      | (next, false) => next := by
  simp only [driveFor, round]
  generalize carryOut now _ _ _ _ = carried
  rcases carried with ⟨reached, _ | again⟩
  · rfl
  · rfl

/-! ## One round -/

/-- What holds of a live session whose worker is gone each time that it is asked. -/
structure Alone (live : LiveSession) : Prop where
  coherent : live.session.Coherent
  concluded : live.session.Concluded
  tidy : live.session.queue.Tidy
  opens : live.session.queue.Opens
  punctual : live.session.Punctual
  gone : live.worker.running = false
  free : live.session.queue.inFlight = none
  /-- Once the commands that are out are carried out, the timer is as the session says. -/
  armed : live.session.commands.foldl SessionCommand.arms live.timer.isSome =
    live.session.timerRunning

/-- What a worker that is gone comes to for the session. -/
def goneFailure : Failure := ⟨.protocol, "dispatch worker stopped"⟩

/-- What a round comes to while the worker is gone. -/
inductive Laps (now : Nat) (live : LiveSession) : LiveSession × Bool → Prop
  /-- The timer cannot be started. -/
  | breaks {period} (asked : .startTimer period ∈ live.session.commands)
      (late : Timer.start? now period = none) :
      Laps now live ({ live with session := live.session.takeStep.1 }.breakDown, false)
  | rests {timer phase worker}
      (armed : timer.isSome = live.session.commands.foldl SessionCommand.arms live.timer.isSome)
      (unasked : live.session.queue.next.2 = none) (unbroken : phase ≠ .broken) :
      Laps now live
        ({ live with session := live.session.takeStep.1, timer, phase, worker }, false)
  | retries {id timer}
      (armed : timer.isSome = live.session.commands.foldl SessionCommand.arms live.timer.isSome)
      (asked : live.session.queue.next.2 = some id) :
      Laps now live ({ live with
        session := live.session.attempt goneFailure
        timer
        phase := .waiting }, true)

theorem laps_round (alone : Alone live) : Laps now live (live.round now) := by
  have commands : live.session.takeStep.2.commands = live.session.commands ++
      (live.session.queue.next.2.map SessionCommand.dispatch).toList := rfl
  have keepRunning : live.session.takeStep.2.keepRunning = !live.session.deleted := rfl
  have carries := carriesOut_of_unasked now alone.coherent.unasked (!live.session.deleted) false
    (live.session.queue.next.2.map SessionCommand.dispatch).toList
    { live with session := live.session.takeStep.1 }
  simp only [round, commands, keepRunning]
  cases carries with
  | goesOn timer armed carried =>
      rw [carried]
      cases asked : live.session.queue.next.2 with
      | none =>
          cases live.session.deleted with
          | true => exact .rests armed asked (by simp)
          | false => exact .rests armed asked (by simp)
      | some id =>
          have going := Session.going_of_asked alone.coherent alone.concluded asked
          have tried : live.session.attempt goneFailure =
              live.session.takeStep.1.taskCompleted id workerGone :=
            Session.attempt_of_asked asked _
          simpa [carryOut, alone.gone, going, afterRound, tried] using Laps.retries armed asked
  | breaks period asked late broken =>
      rw [broken]
      exact .breaks asked late

/-- A session that has tried in vain is as much alone as before. -/
theorem alone_retried (alone : Alone live) (asked : live.session.queue.next.2 = some id)
    {timer : Option Timer}
    (armed : timer.isSome = live.session.commands.foldl SessionCommand.arms live.timer.isSome) :
    Alone { live with
      session := live.session.attempt goneFailure, timer, phase := .waiting } := by
  have sound := alone.coherent.sound
  have stepped := Session.sound_receive sound .takeStep
  have attempted := Session.attempted_of_asked sound asked goneFailure
  have settled := Session.settled_receiveAll alone.coherent alone.concluded
    [.takeStep, .complete (.error goneFailure)]
  have tidy := Session.tidy_receive stepped (Session.tidy_receive sound alone.tidy .takeStep)
    (.complete (.error goneFailure))
  have opens := Session.opens_receive stepped (Session.opens_receive sound alone.opens .takeStep)
    (.complete (.error goneFailure))
  have minds := live.session.minds_attempt goneFailure
  have told : timer.isSome = live.session.takeStep.1.timerRunning := armed.trans alone.armed
  refine ⟨settled.1, settled.2, tidy, opens, minds.punctual nofun, alone.gone, attempted.idle, ?_⟩
  rcases minds.told with ⟨added, commands, running⟩
  have fresh : (live.session.attempt goneFailure).commands = added := commands
  rw [fresh, told]
  exact running.symm

/-! ## All rounds -/

/-- What has become of what waited, once the loop has come to its end. The tasks are those that
the queue handed out on the way. -/
structure GoneThrough (before : LiveSession) (tried : List TaskId) (after : LiveSession) :
    Prop where
  /-- All that waited was tried, unless it had come to its end, or nothing is handed out. -/
  tried_eq : tried = if before.session.queue.mode = .running then
    (before.session.queue.pending.filter fun id =>
      !before.session.queue.ledger.isTerminal id).eraseDups else []
  once : tried.Nodup
  aborted : ∀ id ∈ tried, before.session.queue.ledger.isTerminal id = false ∧
    after.session.queue.ledger.progress? id =
      some (.aborted "protocol error: dispatch worker stopped")
  spared : ∀ id ∉ tried, after.session.queue.task? id = before.session.queue.task? id
  idle : after.session.queue.inFlight = none
  empty : after.session.queue.state ≠ .suspended → after.session.queue.pending = []
  armed : after.timer.isSome = after.session.timerRunning

theorem goneThrough_rests (alone : Alone live) {timer : Option Timer} {phase : Phase}
    {worker : Worker}
    (armed : timer.isSome = live.session.commands.foldl SessionCommand.arms live.timer.isSome)
    (unasked : live.session.queue.next.2 = none) :
    GoneThrough live []
      { live with session := live.session.takeStep.1, timer, phase, worker } := by
  have sound := alone.coherent.sound
  have opens : live.session.queue.next.1.Opens :=
    Session.opens_receive sound alone.opens .takeStep
  have tidy : live.session.queue.next.1.Tidy := Session.tidy_receive sound alone.tidy .takeStep
  have unsuspended (given : live.session.queue.next.1.state ≠ .suspended) :
      live.session.queue.next.1.mode ≠ .suspended := Queue.state_of_opens opens given
  have timed : timer.isSome = live.session.takeStep.1.timerRunning := armed.trans alone.armed
  rcases Queue.next_of_unasked alone.free unasked with ⟨running, next, ended⟩ | ⟨stopped, next⟩
  · have none : (live.session.queue.pending.filter fun id =>
        !live.session.queue.ledger.isTerminal id) = [] :=
      List.filter_eq_nil_iff.mpr fun id member => by simp [ended id member]
    have queue : live.session.takeStep.1.queue = { live.session.queue with pending := [] } := next
    refine ⟨by rw [if_pos running, none]; rfl, List.nodup_nil, by simp, fun id _ => ?_, ?_, ?_, timed⟩
    · simp [queue, Queue.task?]
    · exact queue ▸ alone.free
    · exact fun _ => congrArg Queue.pending queue
  · have queue : live.session.takeStep.1.queue = live.session.queue := next
    refine ⟨by rw [if_neg stopped], List.nodup_nil, by simp, fun id _ => ?_, ?_, ?_, timed⟩
    · simp [queue]
    · exact queue ▸ alone.free
    · intro given
      have disabled : live.session.takeStep.1.queue.mode = .disabled := by
        cases mode : live.session.queue.next.1.mode with
        | disabled => exact mode
        | suspended => exact absurd mode (unsuspended given)
        | running => exact absurd (next ▸ mode) stopped
      exact tidy disabled

/-- A task that was tried is the first of those that are, and the others follow it. -/
theorem goneThrough_retried (attempted : live.session.Attempted id goneFailure next.session)
    {tried : List TaskId} (through : GoneThrough next tried after) :
    GoneThrough live (id :: tried) after := by
  rcases attempted.waiting with ⟨skipped, pending, ended⟩
  have terminal : next.session.queue.ledger.isTerminal id = true := by
    simp [Ledger.isTerminal_eq_any, attempted.aborted, Progress.isTerminal]
  have same (other : TaskId) (different : other ≠ id) :
      next.session.queue.ledger.isTerminal other = live.session.queue.ledger.isTerminal other :=
    Ledger.isTerminal_congr (attempted.spared other different)
  have fresh : id ∉ tried := by
    intro member
    simp [(through.aborted id member).1] at terminal
  have running : next.session.queue.mode = .running := attempted.mode.trans attempted.running
  have others : next.session.queue.pending.filter
        (fun other => !next.session.queue.ledger.isTerminal other) =
      next.session.queue.pending.filter
        (fun other => !other == id && !live.session.queue.ledger.isTerminal other) := by
    refine List.filter_congr fun other _ => ?_
    by_cases equal : other = id
    · simp [equal, terminal]
    · simp [equal, same other equal]
  refine ⟨?_, List.nodup_cons.mpr ⟨fresh, through.once⟩, ?_, ?_, through.idle, through.empty,
    through.armed⟩
  · have none : skipped.filter (fun other => !live.session.queue.ledger.isTerminal other) = [] :=
      List.filter_eq_nil_iff.mpr fun other member => by simp [ended other member]
    rw [through.tried_eq, if_pos running, if_pos attempted.running, others, pending,
      List.filter_append, none, List.nil_append, List.filter_cons_of_pos (by simp [attempted.ready]),
      List.eraseDups_cons, List.filter_filter]
  · intro other member
    rcases List.mem_cons.mp member with rfl | later
    · refine ⟨attempted.ready, ?_⟩
      rw [Ledger.progress?_congr (through.spared other fresh), attempted.aborted]
      rfl
    · have different : other ≠ id := fun equal => fresh (equal ▸ later)
      have found := through.aborted other later
      exact ⟨(same other different).symm.trans found.1, found.2⟩
  · intro other unlisted
    rw [List.mem_cons, not_or] at unlisted
    exact (through.spared other unlisted.2).trans (attempted.spared other unlisted.1)

/-- How the loop ends. -/
structure Settles (now : Nat) (before : LiveSession) (rounds : List (Option TaskId))
    (after : LiveSession) : Prop where
  few : rounds.length ≤ before.session.queue.pending.length + 1
  through : after.phase ≠ .broken → GoneThrough before rounds.reduceOption after
  /-- A session breaks down only where its own timer cannot be started. -/
  broken : after.phase = .broken → ∃ period,
    before.session.options.refreshInterval = some period ∧ Timer.start? now period = none

theorem settles_driveFor (alone : Alone live) {fuel : Nat}
    (enough : live.session.queue.pending.length < fuel) :
    ∃ rounds, Loops now live rounds (driveFor now fuel live) ∧
      Settles now live rounds (driveFor now fuel live) := by
  induction fuel generalizing live with
  | zero => exact absurd enough (Nat.not_lt_zero _)
  | succ fuel induction =>
      have laps : Laps now live (live.round now) := laps_round alone
      rw [driveFor_succ]
      generalize reached : live.round now = lap at laps
      cases laps with
      | breaks asked late =>
          refine ⟨_, .last reached, ?_, fun unbroken => absurd rfl unbroken, fun _ => ?_⟩
          · simp
          · exact ⟨_, alone.punctual _ asked, late⟩
      | rests armed unasked unbroken =>
          refine ⟨_, .last reached, ?_, fun _ => ?_, fun broken => absurd broken unbroken⟩
          · simp
          · rw [unasked]
            exact goneThrough_rests alone armed unasked
      | @retries id timer armed asked =>
          have retried := alone_retried alone asked armed
          have attempted := Session.attempted_of_asked alone.coherent.sound asked goneFailure
          rcases attempted.waiting with ⟨skipped, pending, -⟩
          have length := congrArg List.length pending
          simp only [List.length_append, List.length_cons] at length
          have options : (live.session.attempt goneFailure).options = live.session.options :=
            (live.session.minds_attempt goneFailure).options
          have shorter : (live.session.attempt goneFailure).queue.pending.length <
              live.session.queue.pending.length := by
            omega
          rcases induction retried (shorter.trans_le (Nat.le_of_lt_succ enough)) with
            ⟨rounds, loops, settles⟩
          refine ⟨some id :: rounds, asked ▸ .more reached loops, ?_, ?_, ?_⟩
          · exact Nat.succ_le_succ (settles.few.trans shorter)
          · intro unbroken
            exact goneThrough_retried attempted (settles.through unbroken)
          · intro broken
            rcases settles.broken broken with ⟨period, interval, late⟩
            exact ⟨period, options ▸ interval, late⟩

variable {options : SessionOptions} {inputs : List Session.Input}

theorem alone_of_gone (core : live.session = (Session.new options).receiveAll inputs)
    (free : live.session.queue.inFlight = none) (gone : live.worker.running = false)
    (carried : live.timer.isSome = SessionCommand.leaveArmed
      (((Session.new options).turns inputs).flatMap Session.Turn.commands)) : Alone live := by
  have minded := Session.minded_receiveAll options inputs
  have told := minded.told
  rw [Session.allCommands, SessionCommand.leaveArmed, List.foldl_append] at told
  refine ⟨?_, ?_, ?_, ?_, ?_, gone, free, ?_⟩
  · exact core ▸ Session.coherent_receiveAll options inputs
  · exact core ▸ Session.concluded_receiveAll options inputs
  · exact core ▸ Session.tidy_receiveAll options inputs
  · exact core ▸ Session.opens_receiveAll options inputs
  · exact core ▸ minded.punctual
  · rw [carried, core]
    exact told

/-- Whatever a session has come to, with nothing in flight: if its worker is gone, then the loop
of rounds ends after no more rounds than tasks wait, and one, and all that waited was gone through,
unless a timer could not be started. Its timer was left as the commands that it gave out before
have it. -/
theorem settles_drive (now : Nat) (core : live.session = (Session.new options).receiveAll inputs)
    (free : live.session.queue.inFlight = none) (gone : live.worker.running = false)
    (carried : live.timer.isSome = SessionCommand.leaveArmed
      (((Session.new options).turns inputs).flatMap Session.Turn.commands)) :
    ∃ rounds, Loops now live rounds (live.drive now) ∧ Settles now live rounds (live.drive now) :=
  settles_driveFor (alone_of_gone core free gone carried) (Nat.lt_succ_self _)

/-- A session that is loaded, with two commands that wait. -/
def deserted : LiveSession where
  session := (Session.new Session.sampleOptions).receiveAll
    (.reset :: Session.loads ++ [.runCommand ["first"], .runCommand ["second"]])
  worker := { running := false }
  timer := some ⟨60000, 60000⟩

theorem settles_deserted :
    deserted.session.queue.inFlight = none ∧ deserted.worker.running = false ∧
      deserted.session.queue.pending = [2, 3] ∧
      ∃ rounds, Loops 0 deserted rounds (deserted.drive 0) ∧
        Settles 0 deserted rounds (deserted.drive 0) :=
  ⟨by decide, rfl, by decide, settles_drive 0 rfl (by decide) rfl (by decide)⟩

/-- What a session takes in before it asks for a timer: it was not answered, and a command waits. -/
def unanswered : List Session.Input :=
  [.reset, .takeStep, .complete (.error ⟨.timeout, "no reply"⟩), .runCommand ["first"]]

/-- A session that is to poll without a pause, and was not answered. -/
def restless : LiveSession where
  session := (Session.new restlessOptions).receiveAll unanswered
  worker := { running := false }

/-- The timer of such a session cannot be started. So it breaks down in its first round, with a
command in flight that was not so much as tried, and without the timer that it takes to be
running. -/
theorem stranded_of_restless :
    restless.session.queue.inFlight = none ∧ restless.worker.running = false ∧
      restless.timer.isSome = SessionCommand.leaveArmed
        (((Session.new restlessOptions).turns unanswered).flatMap Session.Turn.commands) ∧
      restless.session.queue.pending = [1] ∧
      (restless.drive 0).phase = .broken ∧
      (restless.drive 0).session.queue.inFlight = some 1 ∧
      (restless.drive 0).session.queue.ledger.progress? 1 = some .submitted ∧
      (restless.drive 0).session.timerRunning = true ∧ (restless.drive 0).timer = none := by
  decide +kernel

/-- The first reset of such a session fails, while its worker is at work. -/
def resetFails : LiveSession :=
  (start restlessOptions 0).happenAll
    [.work, .answer (.error ⟨.timeout, "no reply"⟩), .complete 0]

/-- Nothing has to wait for that: the session is gone with nothing left to send. -/
theorem unarmed_of_resetFails :
    resetFails.session.queue.inFlight = none ∧ resetFails.session.queue.pending = [] ∧
      resetFails.phase = .broken ∧ resetFails.session.timerRunning = true ∧
      resetFails.timer = none := by
  decide +kernel

end FlowClient.LiveSession
