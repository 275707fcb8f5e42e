import FlowClient.Proofs.Live.Tickets
import FlowClient.Proofs.Session.Commands

/-! Live sessions that attend to their callers. As long as nobody takes the connection from such
a session or shuts it down, and its timer can be started, it comes to every call that was left in
its mailbox; and whoever has left a command there finds the task of it under the ticket. -/

namespace FlowClient

namespace Call

/-- Whether a call leaves the session its connection, and lets it go on. -/
def isPeaceful : Call → Bool
  | disconnect => false
  | shutdown => false
  | _ => true

theorem inputs_peaceful {call : Call} (peaceful : call.isPeaceful = true) :
    ∀ input ∈ call.inputs, input.isPeaceful = true := by
  cases call <;> simp [Call.inputs, Call.isPeaceful, Session.Input.isPeaceful] at peaceful ⊢

end Call

namespace LiveSession

variable {live after : LiveSession} {now limit known : Nat} {happening : Happening}
  {course : Course} {ticket : Ticket} {args : List String}

/-! ## Sessions that are left in peace -/

/-- Whether nobody takes the connection away or shuts the session down, and the clock has not
gone beyond a limit. -/
def Happening.isPeaceful (limit : Nat) : Happening → Bool
  | .call left => left.isPeaceful
  | .leave => false
  | happening => happening.moment?.all (· ≤ limit)

/-- A session that is connected and running, and has somebody to attend to. Nobody has asked it
to give that up, and its timer can be started until the clock has reached a limit. -/
structure Ready (limit : Nat) (live : LiveSession) : Prop where
  lived : live.Lived
  active : live.session.Active
  unbroken : live.phase ≠ .broken
  hasCallers : live.hasCallers = true
  undisturbed : ∀ entry ∈ live.mailbox, entry.2.isPeaceful = true
  punctual : ∀ period, live.session.options.refreshInterval = some period →
    (Timer.start? limit period).isSome = true

/-- What holds of such a session from then on. -/
structure Attends (limit : Nat) (live : LiveSession) : Prop where
  linked : live.Linked
  orderly : Orderly live.session.options (List.range (limit + 1)) live
  ticketed : live.Ticketed
  active : live.session.Active
  listens : live.isListening = true
  hasCallers : live.hasCallers = true
  undisturbed : ∀ entry ∈ live.mailbox, entry.2.isPeaceful = true
  punctual : ∀ period, live.session.options.refreshInterval = some period →
    (Timer.start? limit period).isSome = true

theorem Ready.attends (ready : Ready limit live) : Attends limit live := by
  rcases regular_of_lived ready.lived with ⟨linked, ⟨moments, orderly⟩, ticketed, listens⟩
  exact ⟨linked, ⟨rfl, orderly.punctual, orderly.releases, fun broken => absurd broken ready.unbroken⟩,
    ticketed, ready.active, listens ready.active.2, ready.hasCallers, ready.undisturbed,
    ready.punctual⟩

/-- A timer that can be started can be started earlier. -/
theorem isSome_start?_of_le {period : Nat} (started : (Timer.start? limit period).isSome = true)
    (earlier : now ≤ limit) : (Timer.start? now period).isSome = true := by
  simp only [Timer.start?] at started ⊢
  split at started
  · cases started
  · rename_i proper
    have proper : ¬ (decide (period = 0) || decide (clockEnd ≤ now + period)) = true := by
      simp only [Bool.or_eq_true, decide_eq_true_eq, not_or, Nat.not_le] at proper ⊢
      exact ⟨proper.1, by omega⟩
    rw [if_neg proper]
    rfl

theorem Attends.going (attends : Attends limit live) : live.isOver = false := by
  have deleted : live.session.deleted = false := by
    rw [attends.linked.concluded, attends.active.2]
    rfl
  cases attends.linked.stands with
  | waiting phase | handing phase => simp [isOver, isEnded, isBroken, phase]
  | finished phase gone => cases deleted.symm.trans gone
  | broken phase =>
      rcases attends.orderly.broken phase with ⟨period, interval, moment, member, late⟩
      have earlier : moment ≤ limit := Nat.le_of_lt_succ (List.mem_range.mp member)
      have started := isSome_start?_of_le (attends.punctual period interval) earlier
      rw [late] at started
      cases started

theorem Attends.not_ended (attends : Attends limit live) : live.isEnded = false := by
  have going := attends.going
  simp only [isOver, Bool.or_eq_false_iff] at going
  exact going.2

/-- What a session that is left in peace receives leaves it in peace too. -/
theorem Attends.inputs_peaceful (attends : Attends limit live)
    (happens : live.Happens happening course after) :
    ∀ input ∈ course.inputs, input.isPeaceful = true := by
  cases happens with
  | @takes now ticket call rest waits listens mailbox =>
      intro input member
      rcases List.mem_append.mp member with asked | step
      · exact Call.inputs_peaceful (attends.undisturbed (ticket, call) (by simp [mailbox])) input asked
      · rw [List.mem_singleton.mp step]
        rfl
  | closes waits listens mailbox alone => cases attends.hasCallers.symm.trans alone
  | _ => simp [Session.Input.isPeaceful]

theorem moment_le_of_peaceful (peaceful : happening.isPeaceful limit = true)
    (moment : happening.moment? = some now) : now ≤ limit := by
  cases happening <;> simp_all [Happening.isPeaceful, Happening.moment?]

theorem left_peaceful (peaceful : happening.isPeaceful limit = true)
    (happens : live.Happens happening course after) :
    ∀ entry ∈ course.left, entry.2.isPeaceful = true := by
  cases happens with
  | calls =>
      intro entry member
      rw [List.mem_singleton.mp member]
      exact peaceful
  | _ => simp

theorem attends_happens (attends : Attends limit live) (peaceful : happening.isPeaceful limit = true)
    (happens : live.Happens happening course after) : Attends limit after := by
  have follows := follows_happens attends.linked happens
  have records := records_happens happens
  have active : after.session.Active := follows.session ▸
    Session.active_receiveAll attends.linked.coherent attends.active (attends.inputs_peaceful happens)
  have present : ∀ now, happening.moment? = some now → now ∈ List.range (limit + 1) := by
    intro now moment
    exact List.mem_range.mpr (Nat.lt_succ_of_le (moment_le_of_peaceful peaceful moment))
  have orderly := orderly_happens attends.linked attends.orderly happens present
  have options : after.session.options = live.session.options := orderly.own
  have stays : happening ≠ .leave := by
    rintro rfl
    cases peaceful
  refine ⟨follows.linked attends.linked, options.symm ▸ orderly,
    ticketed_happens attends.ticketed follows records, active, ?_,
    (records.hasCallers stays).trans attends.hasCallers, ?_, options.symm ▸ attends.punctual⟩
  · rcases records.isListening with same | closes
    · exact same.trans attends.listens
    · cases attends.inputs_peaceful happens .shutdown closes
  · intro entry member
    rcases follows.mailbox with ⟨lost, mailbox, -⟩
    have before : entry ∈ live.mailbox ++ course.left := by
      rw [mailbox]
      exact List.mem_append_right _ member
    rcases List.mem_append.mp before with old | new
    · exact attends.undisturbed entry old
    · exact left_peaceful peaceful happens entry new

theorem attends_happenAll (attends : Attends limit live) {happenings : List Happening}
    (peaceful : ∀ happening ∈ happenings, happening.isPeaceful limit = true) :
    Attends limit (live.happenAll happenings) := by
  induction happenings generalizing live with
  | nil => exact attends
  | cons happening happenings induction =>
      have next := attends_happens attends (peaceful happening List.mem_cons_self)
        (live.happens happening)
      exact induction next fun later member => peaceful later (List.mem_cons_of_mem _ member)

/-! ## Commands that were left -/

/-- What a live session still has to do with a command that was left under a ticket, and what it
has done. The task is one that was not there before. -/
inductive Owes (known : Nat) (live : LiveSession) (ticket : Ticket) (args : List String) : Prop
  | waits (left : (ticket, .runCommand args) ∈ live.mailbox)
      (known_le : known ≤ live.session.queue.ledger.size)
  | answered (id : TaskId) (answer : (ticket, .command (some id)) ∈ live.answers)
      (fresh : known ≤ id) (has : live.session.HasCommand id args)

/-- A command that is taken is answered with its task. -/
theorem answered_of_taken (attends : Attends limit live)
    (happens : live.Happens happening course after)
    (taken : (ticket, .runCommand args) ∈ course.taken) :
    after.Owes live.session.queue.ledger.size ticket args := by
  cases happens with
  | @takes now other call rest waits listens mailbox =>
      cases List.mem_singleton.mp taken
      let opened : LiveSession := { live with mailbox := rest }
      have sound := attends.linked.coherent.sound
      rcases Session.runCommand_of_connected attends.active.1 args with ⟨made, has⟩
      have session : ((opened.handle ticket (.runCommand args)).drive now).session =
          live.session.receiveAll [.runCommand args, .takeStep] :=
        (follows_takes attends.linked waits mailbox).session
      have answers : ((opened.handle ticket (.runCommand args)).drive now).answers =
          live.answers ++ [(ticket, .command (live.session.runCommand args).2)] :=
        congrArg Desk.answers (desk_drive now _)
      refine .answered live.session.queue.ledger.size ?_ (Nat.le_refl _) ?_
      · rw [answers, made]
        exact List.mem_append_right _ (List.mem_singleton_self _)
      · rw [session]
        exact has.receive (Session.sound_receive sound (.runCommand args)) .takeStep
  | _ => cases taken

/-- What it means that a live session goes on to attend to its callers. -/
structure GoesOn (limit : Nat) (live after : LiveSession) : Prop where
  attends : Attends limit after
  serial : after.serial = live.serial
  known : live.session.queue.ledger.size ≤ after.session.queue.ledger.size
  has : ∀ id args, live.session.HasCommand id args → after.session.HasCommand id args
  owes : ∀ known ticket args, live.Owes known ticket args → after.Owes known ticket args

theorem goesOn_same (attends : Attends limit live) : live.GoesOn limit live :=
  ⟨attends, rfl, Nat.le_refl _, fun _ _ has => has, fun _ _ _ owes => owes⟩

theorem goesOn_happens (attends : Attends limit live) (peaceful : happening.isPeaceful limit = true)
    (happens : live.Happens happening course after) : live.GoesOn limit after := by
  have follows := follows_happens attends.linked happens
  have records := records_happens happens
  have next := attends_happens attends peaceful happens
  have sound := attends.linked.coherent.sound
  have larger : live.session.queue.ledger.size ≤ after.session.queue.ledger.size :=
    follows.session ▸ (Session.extends_receiveAll sound _).size_le
  refine ⟨next, records.serial, larger, fun id args has => follows.session ▸ has.receiveAll sound _, ?_⟩
  intro known ticket args owes
  cases owes with
  | waits left known_le =>
      rcases follows.mailbox with ⟨lost, mailbox, unlost⟩
      rw [unlost next.not_ended, List.append_nil] at mailbox
      have member : (ticket, Call.runCommand args) ∈ course.taken ++ after.mailbox :=
        mailbox ▸ List.mem_append_left _ left
      rcases List.mem_append.mp member with taken | still
      · cases answered_of_taken attends happens taken with
        | waits again => exact .waits again (known_le.trans larger)
        | answered id answer fresh has => exact .answered id answer (known_le.trans fresh) has
      · exact .waits still (known_le.trans larger)
  | answered id answer fresh has =>
      rcases records.answers with ⟨replies, answers, -⟩
      exact .answered id (answers ▸ List.mem_append_left _ answer) fresh
        (follows.session ▸ has.receiveAll sound _)

theorem happen_of_room (attends : Attends limit live) (room : live.mailbox.length < capacity)
    (args : List String) :
    live.happen (.call (.runCommand args)) = { live with
      mailbox := live.mailbox ++ [(live.calls, .runCommand args)]
      calls := live.calls + 1 } := by
  have full : ¬ capacity ≤ live.mailbox.length := Nat.not_le.mpr room
  simp [happen, call?, attends.hasCallers, attends.not_ended, full]

/-- A session takes a command that it has room for. -/
theorem call?_of_room (attends : Attends limit live) (room : live.mailbox.length < capacity)
    (args : List String) :
    live.call? (.runCommand args) = some (live.happen (.call (.runCommand args)), live.calls) := by
  rw [happen_of_room attends room]
  simp [call?, attends.not_ended, room]

theorem owes_of_room (attends : Attends limit live) (room : live.mailbox.length < capacity)
    (args : List String) (known_le : known ≤ live.session.queue.ledger.size) :
    (live.happen (.call (.runCommand args))).Owes known live.calls args := by
  rw [happen_of_room attends room]
  exact .waits (by simp) known_le

/-! ## Coming to what waits -/

theorem happenAll_append (live : LiveSession) (earlier later : List Happening) :
    live.happenAll (earlier ++ later) = (live.happenAll earlier).happenAll later :=
  List.foldl_append

/-- That a session can come to something while it is left in peace. -/
def ComesTo (limit : Nat) (live : LiveSession) (reached : LiveSession → Prop) : Prop :=
  ∃ happenings : List Happening, (∀ happening ∈ happenings, happening.isPeaceful limit = true) ∧
    reached (live.happenAll happenings)

variable {middle reached : LiveSession → Prop}

theorem comesTo_now (holds : reached live) : ComesTo limit live reached :=
  ⟨[], by simp, holds⟩

theorem comesTo_happen (peaceful : happening.isPeaceful limit = true)
    (next : ComesTo limit (live.happen happening) reached) : ComesTo limit live reached := by
  rcases next with ⟨happenings, stillPeaceful, comes⟩
  exact ⟨happening :: happenings, List.forall_mem_cons.mpr ⟨peaceful, stillPeaceful⟩, comes⟩

theorem Attends.comesTo (attends : Attends limit live) (first : ComesTo limit live middle)
    (next : ∀ later, Attends limit later → middle later → ComesTo limit later reached) :
    ComesTo limit live reached := by
  rcases first with ⟨earlier, peaceful, comes⟩
  rcases next _ (attends_happenAll attends peaceful) comes with ⟨later, stillPeaceful, holds⟩
  refine ⟨earlier ++ later, List.forall_mem_append.mpr ⟨peaceful, stillPeaceful⟩, ?_⟩
  rw [happenAll_append]
  exact holds

/-- A worker that has no task and no room for one has a credential to take up. -/
theorem setCredential_of_full {worker : Worker} (load : worker.load = [])
    (full : worker.hasRoom = false) :
    ∃ credential rest, worker.mailbox = .setCredential credential :: rest := by
  have none : worker.mailbox.filterMap Worker.taskOf? = [] := by
    simp only [Worker.load, List.append_eq_nil_iff] at load
    exact load.1.1
  cases mailbox : worker.mailbox with
  | nil => simp [Worker.hasRoom, mailbox, Worker.capacity] at full
  | cons message rest =>
      cases message with
      | run id => simp [mailbox] at none
      | setCredential credential => exact ⟨credential, rest, rfl⟩

theorem comesTo_resumed {id : TaskId} (hands : live.phase = .handing id [] true false)
    (atWork : live.worker.AtWork) (room : live.worker.hasRoom = true) :
    ComesTo limit live fun later => later.phase = .waiting ∧ later.mailbox = live.mailbox := by
  have resumed : live.resume? 0 = some { live with
      worker := live.worker.tell (.run id), phase := .waiting } := by
    simp [resume?, hands, atWork.running, room, carryOut, afterRound]
  have peaceful : Happening.isPeaceful limit (.resume 0) = true := by
    simp [Happening.isPeaceful, Happening.moment?]
  refine comesTo_happen peaceful (comesTo_now ?_)
  simp [happen, resumed]

/-- A session that waits for room in the mailbox of its worker gets it: the worker has no task,
and so nothing to wait for. -/
theorem comesTo_handed {id : TaskId} (hands : live.phase = .handing id [] true false)
    (atWork : live.worker.AtWork) (load : live.worker.load = []) :
    ComesTo limit live fun later => later.phase = .waiting ∧ later.mailbox = live.mailbox := by
  generalize size : live.worker.mailbox.length = length
  induction length generalizing live with
  | zero =>
      have room : live.worker.hasRoom = true := by simp [Worker.hasRoom, size, Worker.capacity]
      exact comesTo_resumed hands atWork room
  | succ length induction =>
      cases room : live.worker.hasRoom with
      | true => exact comesTo_resumed hands atWork room
      | false =>
          rcases setCredential_of_full load room with ⟨credential, rest, messages⟩
          have idle : live.worker.busy = none := by
            simp only [Worker.load, List.append_eq_nil_iff] at load
            exact Option.toList_eq_nil_iff.mp load.1.2
          let worked : LiveSession := { live with
            worker := { live.worker with mailbox := rest }.perform (.setCredential credential) }
          have works : live.happen .work = worked := by
            simp [happen, work?, Worker.step?, idle, atWork.running, messages, worked]
          have stillHands : worked.phase = .handing id [] true false := hands
          have stillAtWork : worked.worker.AtWork :=
            ⟨atWork.isOpen, atWork.isHeard, atWork.running⟩
          have lighter : worked.worker.load = [] := by
            simpa [Worker.load, messages, worked, Worker.perform] using load
          have shorter : rest.length = length := by simpa [messages] using size
          refine comesTo_happen (show Happening.isPeaceful limit .work = true from rfl) ?_
          rw [works]
          exact induction stillHands stillAtWork lighter shorter

/-- A session that is left in peace comes to wait for the next call. -/
theorem comesTo_waiting (attends : Attends limit live) :
    ComesTo limit live fun later => later.phase = .waiting ∧ later.mailbox = live.mailbox := by
  have going := attends.going
  cases attends.linked.stands with
  | waiting phase => exact comesTo_now ⟨phase, rfl⟩
  | handing phase atWork load => exact comesTo_handed phase atWork load
  | finished phase => rcases phase with stops | ended <;> simp_all [isOver, isEnded]
  | broken phase => simp [isOver, isEnded, isBroken, phase] at going

/-- A session that is left in peace comes to every call that waits. -/
theorem comesTo_emptied (attends : Attends limit live) :
    ComesTo limit live fun later => later.mailbox = [] := by
  generalize waiting : live.mailbox = mailbox
  induction mailbox generalizing live with
  | nil => exact comesTo_now waiting
  | cons entry rest induction =>
      rcases entry with ⟨ticket, call⟩
      refine attends.comesTo (comesTo_waiting attends) ?_
      rintro waits ready ⟨phase, kept⟩
      rw [waiting] at kept
      have peaceful : Happening.isPeaceful limit (.receive 0) = true := by
        simp [Happening.isPeaceful, Happening.moment?]
      have happened := waits.happens (.receive 0)
      have taken : waits.course (.receive 0) =
          { inputs := call.inputs ++ [.takeStep], taken := [(ticket, call)] } := by
        simp [LiveSession.course, phase, ready.listens, kept]
      rw [taken] at happened
      have next := attends_happens ready peaceful happened
      rcases (follows_happens ready.linked happened).mailbox with ⟨lost, mailbox, unlost⟩
      have left : (waits.happen (.receive 0)).mailbox = rest := by
        simpa [kept, unlost next.not_ended, eq_comm] using mailbox
      exact comesTo_happen peaceful (induction next left)

end LiveSession

end FlowClient
