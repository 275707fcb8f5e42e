import FlowClient.Proofs.Conversation
import FlowClient.Proofs.Live.Run
import FlowClient.Proofs.Session.Dispatch
import FlowClient.Proofs.Session.Released
import FlowClient.Proofs.Session.Timers

/-! A live session and the session in it. Whatever happens, the worker has just the task in
flight, unless that is still to be handed over; and what the session in it has gone through
is a run of its own. -/

namespace FlowClient

namespace Session

variable {session : Session}

/-- A session that has something in flight is not over. -/
theorem going_of_flying (concluded : session.Concluded) {id : TaskId}
    (flying : session.queue.inFlight = some id) : session.deleted = false := by
  simpa [Session.Concluded, flying] using concluded

/-- Nor is one that hands out a task. -/
theorem going_of_asked (coherent : session.Coherent) (concluded : session.Concluded) {id : TaskId}
    (asked : session.queue.next.2 = some id) : session.deleted = false := by
  have kept : session.takeStep.1.deleted = session.deleted := rfl
  exact kept ▸ going_of_flying (concluded_takeStep coherent concluded) (inFlight_takeStep asked).2

theorem settled_receiveAll (coherent : session.Coherent)
    (concluded : session.Concluded) (inputs : List Input) :
    (session.receiveAll inputs).Coherent ∧ (session.receiveAll inputs).Concluded :=
  receiveAll_keeps (fun session => session.Coherent ∧ session.Concluded) ⟨coherent, concluded⟩
    (fun _ input ⟨coherent, concluded⟩ =>
      ⟨coherent_receive coherent input, concluded_receive coherent concluded input⟩) inputs

end Session

theorem Call.inputs_single (call : Call) :
    call.inputs = [] ∨ ∃ input, input.isCall = true ∧ call.inputs = [input] := by
  cases call <;> simp [inputs, Session.Input.isCall]

namespace LiveSession

variable {live : LiveSession} {now : Nat}

/-! ## Carrying out -/

/-- What comes of commands when others have been carried out before them, which are about the
timer: it is armed as they say, unless it cannot be started. -/
inductive CarriesOut (now : Nat) (keepRunning again : Bool) (commands more : List SessionCommand)
    (live : LiveSession) : Prop
  | goesOn (timer : Option Timer)
      (armed : timer.isSome = commands.foldl SessionCommand.arms live.timer.isSome)
      (carried : carryOut now keepRunning (commands ++ more) again live =
        carryOut now keepRunning more again { live with timer })
  | breaks (period : Nat) (asked : .startTimer period ∈ commands)
      (late : Timer.start? now period = none)
      (broken : carryOut now keepRunning (commands ++ more) again live = (live.breakDown, none))

theorem carriesOut_of_unasked (now : Nat) {commands : List SessionCommand}
    (asked : commands.filterMap SessionCommand.task? = []) (keepRunning again : Bool)
    (more : List SessionCommand) (live : LiveSession) :
    CarriesOut now keepRunning again commands more live := by
  induction commands generalizing live with
  | nil => exact .goesOn live.timer rfl rfl
  | cons command commands induction =>
      have later (timer : Option Timer) (armed : timer.isSome = command.arms live.timer.isSome)
          (carried : carryOut now keepRunning (command :: commands ++ more) again live =
            carryOut now keepRunning (commands ++ more) again { live with timer })
          (unasked : commands.filterMap SessionCommand.task? = []) :
          CarriesOut now keepRunning again (command :: commands) more live := by
        cases induction unasked { live with timer } with
        | goesOn last arms rest =>
            exact .goesOn last (by rw [arms, List.foldl_cons, armed]) (carried.trans rest)
        | breaks period member late broken =>
            exact .breaks period (List.mem_cons_of_mem _ member) late (carried.trans broken)
      cases command with
      | dispatch id => simp [SessionCommand.task?] at asked
      | stopTimer => exact later none rfl rfl asked
      | startTimer period =>
          cases started : Timer.start? now period with
          | none =>
              refine .breaks period List.mem_cons_self started ?_
              rw [List.cons_append, carryOut, started]
          | some timer =>
              refine later (some timer) rfl ?_ asked
              rw [List.cons_append, carryOut, started]

/-- What a live session can come to when it carries out what the session asks for. -/
inductive Drives (live : LiveSession) : LiveSession → Prop
  | idles (timer : Option Timer) (going : live.session.deleted = false)
      (unasked : live.session.queue.next.2 = none) :
      Drives live { live with session := live.session.takeStep.1, timer, phase := .waiting }
  | hands {id} (timer : Option Timer) (asked : live.session.queue.next.2 = some id)
      (room : live.worker.hasRoom = true) :
      Drives live { live with
        session := live.session.takeStep.1
        timer
        phase := .waiting
        worker := live.worker.tell (.run id) }
  | waits {id} (timer : Option Timer) (asked : live.session.queue.next.2 = some id)
      (full : live.worker.hasRoom = false) :
      Drives live { live with
        session := live.session.takeStep.1
        timer
        phase := .handing id [] true false }
  | stops (timer : Option Timer) (deleted : live.session.deleted = true) :
      Drives live { live with
        session := live.session.takeStep.1
        timer
        phase := .stopping
        worker := live.worker.close }
  | breaks : Drives live { live with session := live.session.takeStep.1 }.breakDown

/-- While its worker runs, a live session asks for commands just once. -/
theorem drives_drive (coherent : live.session.Coherent) (concluded : live.session.Concluded)
    (running : live.worker.running = true) : live.Drives (live.drive now) := by
  have commands : live.session.takeStep.2.commands = live.session.commands ++
      (live.session.queue.next.2.map SessionCommand.dispatch).toList := rfl
  have keepRunning : live.session.takeStep.2.keepRunning = !live.session.deleted := rfl
  have carries := carriesOut_of_unasked now coherent.unasked (!live.session.deleted) false
    (live.session.queue.next.2.map SessionCommand.dispatch).toList
    { live with session := live.session.takeStep.1 }
  simp only [drive, driveFor, commands, keepRunning]
  cases carries with
  | goesOn timer armed carried =>
      rw [carried]
      cases asked : live.session.queue.next.2 with
      | none =>
          cases deleted : live.session.deleted with
          | true => exact .stops timer deleted
          | false => exact .idles timer deleted asked
      | some id =>
          have going := Session.going_of_asked coherent concluded asked
          cases room : live.worker.hasRoom with
          | true => simpa [carryOut, running, room, going, afterRound] using .hands timer asked room
          | false => simpa [carryOut, running, room, going] using .waits timer asked room
  | breaks period asked late broken =>
      rw [broken]
      exact .breaks

theorem Drives.session_eq {after : LiveSession} (drives : live.Drives after) :
    after.session = live.session.takeStep.1 := by
  cases drives <;> rfl

/-! ## Where a live session stands -/

/-- Where a live session stands between two happenings. -/
inductive Stands (live : LiveSession) : Prop
  /-- The worker has just the task that is in flight. -/
  | waiting (phase : live.phase = .waiting) (going : live.session.deleted = false)
      (atWork : live.worker.AtWork)
      (load : live.worker.load = live.session.queue.inFlight.toList)
  /-- The task in flight is still to be handed to the worker, and nothing else is to be done. -/
  | handing {id} (phase : live.phase = .handing id [] true false) (atWork : live.worker.AtWork)
      (load : live.worker.load = []) (flying : live.session.queue.inFlight = some id)
  | finished (phase : live.phase = .stopping ∨ live.phase = .ended)
      (deleted : live.session.deleted = true)
  | broken (phase : live.phase = .broken)

/-- What holds of a live session between two happenings. -/
structure Linked (live : LiveSession) : Prop where
  coherent : live.session.Coherent
  concluded : live.session.Concluded
  stands : live.Stands
  emptied : live.isEnded = true → live.mailbox = []

theorem Stands.of_same {after : LiveSession} (stands : live.Stands)
    (phase : after.phase = live.phase) (worker : after.worker = live.worker)
    (deleted : after.session.deleted = live.session.deleted)
    (inFlight : after.session.queue.inFlight = live.session.queue.inFlight) : after.Stands := by
  cases stands with
  | waiting waits going atWork load =>
      refine .waiting (phase.trans waits) (deleted.trans going) (worker ▸ atWork) ?_
      rw [worker, inFlight]
      exact load
  | handing hands atWork load flying =>
      exact .handing (phase.trans hands) (worker ▸ atWork) (worker ▸ load) (inFlight.trans flying)
  | finished ends gone => exact .finished (phase ▸ ends) (deleted.trans gone)
  | broken fails => exact .broken (phase.trans fails)

theorem Stands.atWork_of_waiting (stands : live.Stands) (waits : live.phase = .waiting) :
    live.session.deleted = false ∧ live.worker.AtWork ∧
      live.worker.load = live.session.queue.inFlight.toList := by
  cases stands with
  | waiting phase going atWork load => exact ⟨going, atWork, load⟩
  | handing phase => cases waits.symm.trans phase
  | finished phase => rcases phase with stops | ended <;> simp_all
  | broken phase => cases waits.symm.trans phase

theorem Drives.stands {after : LiveSession} (concluded : live.session.takeStep.1.Concluded)
    (atWork : live.worker.AtWork)
    (load : live.worker.load = live.session.queue.inFlight.toList) (drives : live.Drives after) :
    after.Stands := by
  cases drives with
  | idles timer going unasked =>
      refine .waiting rfl going atWork (load.trans ?_)
      exact (congrArg Option.toList (Session.inFlight_takeStep_none unasked)).symm
  | @hands id timer asked room =>
      rcases Session.inFlight_takeStep asked with ⟨free, flying⟩
      obtain ⟨perm, told, -⟩ := live.worker.tell_spec id
      refine .waiting rfl (Session.going_of_flying concluded flying) (told atWork) ?_
      simp only [flying]
      rw [load, free] at perm
      exact eq_toList_of_perm perm
  | waits timer asked full =>
      rcases Session.inFlight_takeStep asked with ⟨free, flying⟩
      exact .handing rfl atWork (by simpa [free] using load) flying
  | stops timer deleted => exact .finished (.inl rfl) deleted
  | breaks => exact .broken rfl

/-! ## The session inside -/

/-- What a happening comes to. The session inside has received some inputs, and calls are
lost only when the live session ends. -/
structure Follows (live : LiveSession) (course : Course) (after : LiveSession) : Prop where
  session : after.session = live.session.receiveAll course.inputs
  stands : after.Stands
  emptied : after.isEnded = true → after.mailbox = []
  mailbox : ∃ lost, live.mailbox ++ course.left = course.taken ++ lost ++ after.mailbox ∧
    (after.isEnded = false → lost = [])

theorem Follows.linked {course : Course} {after : LiveSession} (linked : live.Linked)
    (follows : live.Follows course after) : after.Linked := by
  rcases Session.settled_receiveAll linked.coherent linked.concluded course.inputs with
    ⟨coherent, concluded⟩
  rw [← follows.session] at coherent concluded
  exact ⟨coherent, concluded, follows.stands, follows.emptied⟩

/-- Nothing is done to the mailbox, and no step is taken. -/
theorem Follows.of_aside {inputs : List Session.Input} {after : LiveSession} (linked : live.Linked)
    (session : after.session = live.session.receiveAll inputs)
    (mailbox : after.mailbox = live.mailbox) (phase : after.isEnded = live.isEnded)
    (stands : after.Stands) : live.Follows { inputs } after where
  session := session
  stands := stands
  emptied ended := mailbox.trans (linked.emptied (phase.symm.trans ended))
  mailbox := ⟨[], by simp [mailbox], fun _ => rfl⟩

/-- A live session that carries out what the session asks for keeps the mailbox, unless it breaks
down. -/
theorem Drives.mailbox_eq {after : LiveSession} (drives : live.Drives after) :
    after.isEnded = false ∧ after.mailbox = live.mailbox ∨
      after.isEnded = true ∧ after.mailbox = [] := by
  cases drives with
  | idles | hands | waits | stops => exact .inl ⟨rfl, rfl⟩
  | breaks => exact .inr ⟨rfl, rfl⟩

/-- A step follows what the session was told. -/
theorem follows_drive {told : LiveSession} {inputs : List Session.Input}
    {taken : List (Ticket × Call)} (linked : live.Linked)
    (session : told.session = live.session.receiveAll inputs)
    (mailbox : live.mailbox = taken ++ told.mailbox) (atWork : told.worker.AtWork)
    (load : told.worker.load = told.session.queue.inFlight.toList) :
    live.Follows { inputs := inputs ++ [.takeStep], taken } (told.drive now) := by
  rcases Session.settled_receiveAll linked.coherent linked.concluded inputs with ⟨coherent, concluded⟩
  rw [← session] at coherent concluded
  have drives : told.Drives (told.drive now) := drives_drive coherent concluded atWork.running
  have stands := drives.stands (Session.concluded_takeStep coherent concluded) atWork load
  have stepped : (told.drive now).session = live.session.receiveAll (inputs ++ [.takeStep]) := by
    rw [drives.session_eq, Session.receiveAll_concat, ← session]
    rfl
  rcases drives.mailbox_eq with ⟨going, kept⟩ | ⟨ended, empty⟩
  · refine ⟨stepped, stands, fun ended => ?_, [], ?_, fun _ => rfl⟩
    · simp [going] at ended
    · simp [mailbox, kept]
  · refine ⟨stepped, stands, fun _ => empty, told.mailbox, ?_, fun going => ?_⟩
    · simp [mailbox, empty]
    · simp [going] at ended

theorem handle_frame (live : LiveSession) (ticket : Ticket) (call : Call) :
    (live.handle ticket call).session = live.session.receiveAll call.inputs ∧
      (live.handle ticket call).mailbox = live.mailbox := by
  cases call with
  | setCredential credential =>
      rw [handle, forwardCredential]
      split <;> exact ⟨rfl, rfl⟩
  | _ => exact ⟨rfl, rfl⟩

/-- No call gives the worker a task, or takes one from it. -/
theorem handle_worker (live : LiveSession) (atWork : live.worker.AtWork) (ticket : Ticket)
    (call : Call) : (live.handle ticket call).worker.AtWork ∧
      (live.handle ticket call).worker.load = live.worker.load := by
  cases call with
  | setCredential credential =>
      rw [handle, forwardCredential]
      split
      · refine ⟨⟨atWork.isOpen, atWork.isHeard, atWork.running⟩, ?_⟩
        simp [Worker.load, Worker.tell]
      · exact ⟨atWork, rfl⟩
  | _ => exact ⟨atWork, rfl⟩

theorem inFlight_inputs {session : Session} (sound : session.queue.Sound) (call : Call) :
    (session.receiveAll call.inputs).queue.inFlight = session.queue.inFlight := by
  rcases call.inputs_single with none | ⟨input, isCall, single⟩
  · rw [none]
    rfl
  · rw [single]
    exact Session.inFlight_of_call sound input isCall

theorem follows_takes {ticket : Ticket} {call : Call} {rest : List (Ticket × Call)}
    (linked : live.Linked) (waits : live.phase = .waiting)
    (mailbox : live.mailbox = (ticket, call) :: rest) :
    live.Follows { inputs := call.inputs ++ [.takeStep], taken := [(ticket, call)] }
      (({ live with mailbox := rest }.handle ticket call).drive now) := by
  obtain ⟨-, atWork, load⟩ := linked.stands.atWork_of_waiting waits
  let opened : LiveSession := { live with mailbox := rest }
  rcases opened.handle_frame ticket call with ⟨told, kept⟩
  rcases opened.handle_worker atWork ticket call with ⟨handledAtWork, handledLoad⟩
  have left : live.mailbox = [(ticket, call)] ++ (opened.handle ticket call).mailbox :=
    mailbox.trans (congrArg _ kept.symm)
  refine follows_drive linked told left handledAtWork ?_
  rw [handledLoad, told, inFlight_inputs linked.coherent.sound call]
  exact load

/-- A caller who goes away, or a tick of the timer, is like a call. -/
theorem follows_turn {told : LiveSession} {input : Session.Input} (linked : live.Linked)
    (waits : live.phase = .waiting) (isCall : input.isCall = true)
    (session : told.session = live.session.receive input) (worker : told.worker = live.worker)
    (mailbox : told.mailbox = live.mailbox) :
    live.Follows { inputs := [input, .takeStep] } (told.drive now) := by
  obtain ⟨-, atWork, load⟩ := linked.stands.atWork_of_waiting waits
  rw [← worker] at atWork load
  have received : told.session = live.session.receiveAll [input] := session
  refine follows_drive linked received mailbox.symm atWork (load.trans ?_)
  rw [session, Session.inFlight_of_call linked.coherent.sound input isCall]

theorem follows_collects {id : TaskId} {outcome : Outcome} {rest : List (TaskId × Outcome)}
    (linked : live.Linked) (waits : live.phase = .waiting)
    (completions : live.worker.completions = (id, outcome) :: rest) :
    live.Follows { inputs := [.complete outcome, .takeStep] } ({ live with
      session := live.session.taskCompleted id outcome
      worker := { live.worker with completions := rest } }.drive now) := by
  obtain ⟨-, atWork, load⟩ := linked.stands.atWork_of_waiting waits
  rcases Worker.load_of_completions load completions with ⟨flying, -, empty⟩
  let collected : LiveSession := { live with
    session := live.session.taskCompleted id outcome
    worker := { live.worker with completions := rest } }
  have told : collected.session = live.session.receiveAll [.complete outcome] :=
    (Session.receive_complete flying outcome).symm
  have free := Session.inFlight_complete linked.coherent.sound outcome
  have left : live.mailbox = [] ++ collected.mailbox := rfl
  refine follows_drive linked told left ⟨atWork.isOpen, atWork.isHeard, atWork.running⟩ ?_
  rw [told]
  exact empty.trans (congrArg Option.toList free).symm

theorem follows_answers (linked : live.Linked) (outcome : Outcome) :
    live.Follows {} (live.finish outcome) := by
  refine .of_aside linked rfl rfl rfl ?_
  cases busy : live.worker.busy with
  | none =>
      have same : live.worker.finish outcome = live.worker := by simp [Worker.finish, busy]
      exact linked.stands.of_same rfl same rfl rfl
  | some id =>
      cases linked.stands with
      | waiting waits going atWork load =>
          obtain ⟨finished, perm, -⟩ := Worker.finish_spec atWork busy outcome
          rw [load] at perm
          exact .waiting waits going finished (eq_toList_of_perm perm)
      | handing hands atWork load flying => simp [Worker.load, busy] at load
      | finished ends gone => exact .finished ends gone
      | broken fails => exact .broken fails

theorem resumes_handing (linked : live.Linked) {after : LiveSession}
    (resumed : live.resume? now = some after) : ∃ id, live.phase = .handing id [] true false ∧
      live.worker.hasRoom = true ∧
      after = { live with worker := live.worker.tell (.run id), phase := .waiting } := by
  cases linked.stands with
  | waiting waits => simp [resume?, waits] at resumed
  | @handing id hands atWork load flying =>
      refine ⟨id, hands, ?_⟩
      cases room : live.worker.hasRoom with
      | false => simp [resume?, hands, atWork.running, room] at resumed
      | true =>
          simp [resume?, hands, atWork.running, room, carryOut, afterRound] at resumed
          exact ⟨rfl, resumed.symm⟩
  | finished ends => rcases ends with stops | ended <;> simp_all [resume?]
  | broken fails => simp [resume?, fails] at resumed

theorem follows_resumes (linked : live.Linked) {after : LiveSession}
    (resumed : live.resume? now = some after) : live.Follows {} after := by
  rcases resumes_handing linked resumed with ⟨id, phase, -, rfl⟩
  have going : live.isEnded = false := by simp [isEnded, isBroken, phase]
  refine .of_aside linked rfl rfl going.symm ?_
  cases linked.stands with
  | handing hands atWork load flying =>
      cases phase.symm.trans hands
      obtain ⟨perm, told, -⟩ := live.worker.tell_spec id
      refine .waiting rfl (Session.going_of_flying linked.concluded flying) (told atWork) ?_
      rw [load] at perm
      simp only [flying]
      exact eq_toList_of_perm perm
  | waiting waits => cases phase.symm.trans waits
  | finished ends => rcases ends with stops | ended <;> simp_all
  | broken fails => cases phase.symm.trans fails

theorem follows_works (linked : live.Linked) {worker : Worker}
    (worked : live.worker.step? live.session.queue.ledger = some worker) :
    live.Follows {} { live with worker } := by
  refine .of_aside linked rfl rfl rfl ?_
  cases linked.stands with
  | waiting waits going atWork load =>
      have known := known_of_load linked.coherent.sound load
      have tookUp := Worker.tookUp_step? atWork known worked
      exact .waiting waits going tookUp.atWork (eq_toList_of_perm (load ▸ tookUp.load))
  | handing hands atWork load flying =>
      have tookUp := Worker.tookUp_step? atWork (by simp [load]) worked
      refine .handing hands tookUp.atWork ?_ flying
      exact List.perm_nil.mp (load ▸ tookUp.load)
  | finished ends gone => exact .finished ends gone
  | broken fails => exact .broken fails

theorem follows_stops (linked : live.Linked) (stopping : live.phase = .stopping) :
    live.Follows {} { live with phase := .ended, mailbox := [] } := by
  refine ⟨rfl, ?_, fun _ => rfl, live.mailbox, by simp, fun going => by cases going⟩
  cases linked.stands with
  | waiting waits => cases stopping.symm.trans waits
  | handing hands => cases stopping.symm.trans hands
  | finished ends gone => exact .finished (.inr rfl) gone
  | broken fails => cases stopping.symm.trans fails

theorem follows_happens {happening : Happening} {course : Course} {after : LiveSession}
    (linked : live.Linked) (happens : live.Happens happening course after) :
    live.Follows course after := by
  cases happens with
  | nothing => exact .of_aside linked rfl rfl rfl linked.stands
  | makes | changes | leaves =>
      exact .of_aside linked rfl rfl rfl (linked.stands.of_same rfl rfl rfl rfl)
  | calls goesOn room =>
      refine ⟨rfl, linked.stands.of_same rfl rfl rfl rfl, fun ended => ?_, [], rfl, fun _ => rfl⟩
      cases goesOn.symm.trans ended
  | answers => exact follows_answers linked _
  | resumes resumed => exact follows_resumes linked resumed
  | takes waits listens mailbox => exact follows_takes linked waits mailbox
  | closes waits => exact follows_turn linked waits rfl rfl rfl rfl
  | collects waits completions => exact follows_collects linked waits completions
  | ticks waits => exact follows_turn linked waits rfl rfl rfl rfl
  | works worked => exact follows_works linked worked
  | stops stopping => exact follows_stops linked stopping

/-! ## Runs -/

theorem linked_new (options : SessionOptions) :
    ({ session := .new options } : LiveSession).Linked where
  coherent := Session.coherent_new options
  concluded := rfl
  stands := .waiting rfl rfl ⟨rfl, rfl, rfl⟩ rfl
  emptied _ := rfl

theorem follows_start (options : SessionOptions) (now : Nat) :
    ({ session := .new options } : LiveSession).Follows { inputs := [.reset, .takeStep] }
      (start options now) :=
  follows_turn (linked_new options) rfl rfl rfl rfl rfl

/-- All that the session inside receives in a run. -/
def received (occasions : List Occasion) : List Session.Input :=
  .reset :: .takeStep :: occasions.flatMap (·.course.inputs)

theorem received_concat (occasions : List Occasion) (occasion : Occasion) :
    received (occasions ++ [occasion]) = received occasions ++ occasion.course.inputs := by
  simp [received]

/-- In any run the session inside goes through a run of its own. -/
theorem linked_happenAll (options : SessionOptions) (now : Nat) (happenings : List Happening) :
    ((start options now).happenAll happenings).Linked ∧
      ((start options now).happenAll happenings).session =
        (Session.new options).receiveAll (received ((start options now).occasions happenings)) := by
  induction happenings using List.reverseRecOn with
  | nil =>
      have follows := follows_start options now
      exact ⟨follows.linked (linked_new options), follows.session⟩
  | append_singleton happenings happening induction =>
      rcases induction with ⟨linked, session⟩
      have follows := follows_happens linked (happens _ happening)
      rw [happenAll_concat, occasions_concat, received_concat, Session.receiveAll_append, ← session]
      exact ⟨follows.linked linked, follows.session⟩

end LiveSession

end FlowClient
