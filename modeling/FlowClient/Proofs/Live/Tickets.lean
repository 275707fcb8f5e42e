import FlowClient.Proofs.Live.Shutdown

/-! Tickets. A caller gets a ticket for each call, and finds the answer under it. Tickets are
given out in order and calls are taken in order, so no two calls are answered under one ticket. -/

namespace FlowClient

namespace LiveSession

variable {live after : LiveSession} {happening : Happening} {course : Course} {ticket : Ticket}

/-! ## What is not touched when commands are carried out -/

/-- What of a live session only its callers have to do with. -/
structure Desk where
  serial : Nat
  calls : Nat
  answers : List (Ticket × CallAnswer)
  hasCallers : Bool
  isListening : Bool

def desk (live : LiveSession) : Desk where
  serial := live.serial
  calls := live.calls
  answers := live.answers
  hasCallers := live.hasCallers
  isListening := live.isListening

@[simp] theorem desk_carryOut (now : Nat) (keepRunning : Bool) (commands : List SessionCommand)
    (again : Bool) (live : LiveSession) :
    (carryOut now keepRunning commands again live).1.desk = live.desk := by
  induction commands generalizing live again with
  | nil => rfl
  | cons command rest induction =>
      cases command with
      | stopTimer => exact induction again { live with timer := none }
      | startTimer period =>
          rw [carryOut]
          split
          · exact induction again { live with timer := _ }
          · rfl
      | dispatch id =>
          rw [carryOut]
          split
          · exact induction true { live with session := _ }
          split
          · exact induction again { live with worker := _ }
          · rfl

@[simp] theorem desk_afterRound (keepRunning again : Bool) (live : LiveSession) :
    (afterRound keepRunning again live).1.desk = live.desk := by
  rw [afterRound]
  split <;> rfl

@[simp] theorem desk_driveFor (now rounds : Nat) (live : LiveSession) :
    (driveFor now rounds live).desk = live.desk := by
  induction rounds generalizing live with
  | zero => rfl
  | succ rounds induction =>
      have carried := desk_carryOut now live.session.takeStep.2.keepRunning
        live.session.takeStep.2.commands false { live with session := live.session.takeStep.1 }
      simp only [driveFor]
      split
      · rename_i reached ended
        rwa [ended] at carried
      · rename_i reached again ended
        rw [ended] at carried
        have rounded := desk_afterRound live.session.takeStep.2.keepRunning again reached
        split
        · rename_i next goesOn
          rw [goesOn] at rounded
          exact (induction next).trans (rounded.trans carried)
        · rename_i next goesOn
          rw [goesOn] at rounded
          exact rounded.trans carried

@[simp] theorem desk_drive (now : Nat) (live : LiveSession) :
    (live.drive now).desk = live.desk := desk_driveFor now _ live

theorem desk_resume {now : Nat} (resumed : live.resume? now = some after) :
    after.desk = live.desk := by
  rw [resume?] at resumed
  split at resumed
  · rename_i id rest keepRunning again hands
    have carried := desk_carryOut now keepRunning (.dispatch id :: rest) again live
    split at resumed
    · cases resumed
    split at resumed
    · rename_i reached ended
      cases resumed
      rwa [ended] at carried
    · rename_i reached again ended
      rw [ended] at carried
      have rounded := desk_afterRound keepRunning again reached
      split at resumed
      · rename_i next goesOn
        cases resumed
        rw [goesOn] at rounded
        exact (desk_drive now next).trans (rounded.trans carried)
      · rename_i next goesOn
        cases resumed
        rw [goesOn] at rounded
        exact rounded.trans carried
  · cases resumed

/-! ## Tickets -/

/-- Tickets are given out in order, and taken in order: those of the answers, of the calls that
wait, and the next one. -/
def tickets (live : LiveSession) : List Ticket :=
  live.answers.map (·.1) ++ live.mailbox.map (·.1) ++ [live.calls]

def Ticketed (live : LiveSession) : Prop := live.tickets.Pairwise (· < ·)

instance (live : LiveSession) : Decidable live.Ticketed :=
  inferInstanceAs (Decidable (List.Pairwise _ _))

theorem find?_of_pairwise {α : Type} {entries : List (Ticket × α)} {answer : α}
    (ordered : (entries.map (·.1)).Pairwise (· < ·)) (member : (ticket, answer) ∈ entries) :
    entries.find? (·.1 == ticket) = some (ticket, answer) := by
  induction entries with
  | nil => cases member
  | cons entry entries induction =>
      rw [List.map_cons, List.pairwise_cons] at ordered
      rcases List.mem_cons.mp member with rfl | later
      · simp
      · have before : entry.1 < ticket := ordered.1 ticket (List.mem_map_of_mem later)
        have different : (entry.1 == ticket) = false := beq_false_of_ne before.ne
        rw [List.find?_cons, different]
        exact induction ordered.2 later

theorem Ticketed.answer? (ticketed : live.Ticketed) {answer : CallAnswer}
    (member : (ticket, answer) ∈ live.answers) : live.answer? ticket = some answer := by
  have ordered := (List.pairwise_append.mp (List.pairwise_append.mp ticketed).1).1
  rw [LiveSession.answer?, find?_of_pairwise ordered member]
  rfl

/-- Nobody is answered while the call still waits. -/
theorem Ticketed.answer?_of_waiting (ticketed : live.Ticketed) {call : Call}
    (waits : (ticket, call) ∈ live.mailbox) : live.answer? ticket = none := by
  have apart := (List.pairwise_append.mp (List.pairwise_append.mp ticketed).1).2.2
  rw [LiveSession.answer?, Option.map_eq_none_iff, List.find?_eq_none]
  intro entry member same
  have before := apart entry.1 (List.mem_map_of_mem member) ticket (List.mem_map_of_mem waits)
  exact absurd (beq_iff_eq.mp same) before.ne

/-- What a happening does to what the callers have to do with. -/
structure Records (live : LiveSession) (happening : Happening) (course : Course)
    (after : LiveSession) : Prop where
  serial : after.serial = live.serial
  /-- Calls that are taken may be answered. -/
  answers : ∃ replies, after.answers = live.answers ++ replies ∧
    (replies.map (·.1)).Sublist (course.taken.map (·.1))
  calls : course.left = [] ∧ after.calls = live.calls ∨
    ∃ call, course.left = [(live.calls, call)] ∧ after.calls = live.calls + 1
  hasCallers : happening ≠ .leave → after.hasCallers = live.hasCallers
  isListening : after.isListening = live.isListening ∨ .shutdown ∈ course.inputs

theorem records_of_desk (left : course.left = []) (same : after.desk = live.desk) :
    live.Records happening course after where
  serial := congrArg Desk.serial same
  answers := ⟨[], (congrArg Desk.answers same).trans (List.append_nil _).symm, List.nil_sublist _⟩
  calls := .inl ⟨left, congrArg Desk.calls same⟩
  hasCallers _ := congrArg Desk.hasCallers same
  isListening := .inl (congrArg Desk.isListening same)

theorem handle_desk (live : LiveSession) (ticket : Ticket) (call : Call) :
    ∃ replies, (live.handle ticket call).desk =
        { live.desk with answers := live.answers ++ replies } ∧
      (replies.map (·.1)).Sublist [ticket] := by
  cases call with
  | runCommand args => exact ⟨[(ticket, .command _)], rfl, .refl _⟩
  | subscribe => exact ⟨[(ticket, .subscription _)], rfl, .refl _⟩
  | snapshot => exact ⟨[(ticket, .snapshot _)], rfl, .refl _⟩
  | setCredential credential =>
      refine ⟨[], ?_, List.nil_sublist _⟩
      rw [handle, forwardCredential, List.append_nil]
      split <;> rfl
  | _ => exact ⟨[], by rw [List.append_nil]; rfl, List.nil_sublist _⟩

theorem records_happens (happens : live.Happens happening course after) :
    live.Records happening course after := by
  cases happens with
  | nothing | makes | changes | answers | works | stops => exact records_of_desk rfl rfl
  | calls => exact ⟨rfl, ⟨[], by simp, List.nil_sublist _⟩, .inr ⟨_, rfl, rfl⟩, fun _ => rfl, .inl rfl⟩
  | leaves =>
      exact ⟨rfl, ⟨[], by simp [dropCallers], List.nil_sublist _⟩, .inl ⟨rfl, rfl⟩,
        fun stays => absurd rfl stays, .inl rfl⟩
  | resumes resumed => exact records_of_desk rfl (desk_resume resumed)
  | @takes now ticket call rest =>
      let opened : LiveSession := { live with mailbox := rest }
      rcases opened.handle_desk ticket call with ⟨replies, handled, sublist⟩
      have same := (desk_drive now (opened.handle ticket call)).trans handled
      exact ⟨congrArg Desk.serial same, ⟨replies, congrArg Desk.answers same, sublist⟩,
        .inl ⟨rfl, congrArg Desk.calls same⟩, fun _ => congrArg Desk.hasCallers same,
        .inl (congrArg Desk.isListening same)⟩
  | @closes now =>
      let closed : LiveSession :=
        { live with session := live.session.shutdown, isListening := false }
      have same : (closed.drive now).desk = closed.desk := desk_drive now closed
      exact ⟨congrArg Desk.serial same,
        ⟨[], (congrArg Desk.answers same).trans (List.append_nil _).symm, List.nil_sublist _⟩,
        .inl ⟨rfl, congrArg Desk.calls same⟩, fun _ => congrArg Desk.hasCallers same, .inr (by simp)⟩
  | collects | ticks => exact records_of_desk rfl (desk_drive _ _)

theorem ticketed_happens (ticketed : live.Ticketed) (follows : live.Follows course after)
    (records : live.Records happening course after) : after.Ticketed := by
  rcases follows.mailbox with ⟨lost, mailbox, -⟩
  rcases records.answers with ⟨replies, answers, replied⟩
  have given : (live.answers.map (·.1) ++ (live.mailbox ++ course.left).map (·.1) ++
      [after.calls]).Pairwise (· < ·) := by
    rcases records.calls with ⟨left, calls⟩ | ⟨call, left, calls⟩
    · simpa [Ticketed, tickets, left, calls] using ticketed
    · have longer : (live.tickets ++ [live.calls + 1]).Pairwise (· < ·) := by
        refine List.pairwise_append.mpr ⟨ticketed, List.pairwise_singleton _ _, ?_⟩
        intro earlier member next isNext
        rw [List.mem_singleton.mp isNext]
        rcases List.mem_append.mp member with before | last
        · have order := (List.pairwise_append.mp ticketed).2.2 earlier before live.calls (by simp)
          exact Nat.lt_succ_of_lt order
        · exact Nat.lt_succ_of_le (List.mem_singleton.mp last).le
      simpa [tickets, left, calls] using longer
  rw [mailbox] at given
  refine given.sublist ?_
  rw [tickets, answers, List.map_append, List.map_append, List.map_append]
  refine List.Sublist.append ?_ (.refl _)
  rw [List.append_assoc, List.append_assoc]
  exact (List.Sublist.refl _).append (replied.append (List.sublist_append_right _ _))

/-! ## Sessions of the program -/

/-- What a live session can come to. -/
inductive Lived : LiveSession → Prop
  | starts (options : SessionOptions) (now serial : Nat) : Lived { start options now with serial }
  | goesOn {live : LiveSession} (lived : Lived live) (happening : Happening) : Lived (live.happen happening)
  /-- Somebody takes note of what it told and of what its worker wants done. -/
  | noted {live : LiveSession} (lived : Lived live) : Lived { live with
      worker := live.worker.withoutActions, session := live.session.withoutNotices }

/-- What holds of a live session whatever it has gone through. -/
structure Regular (live : LiveSession) : Prop where
  linked : live.Linked
  orderly : ∃ moments, Orderly live.session.options moments live
  ticketed : live.Ticketed
  listens : live.session.shuttingDown = false → live.isListening = true

theorem shuttingDown_receiveAll {session : Session} (sound : session.queue.Sound)
    (inputs : List Session.Input) (going : (session.receiveAll inputs).shuttingDown = false) :
    session.shuttingDown = false ∧ .shutdown ∉ inputs := by
  induction inputs generalizing session with
  | nil => exact ⟨going, List.not_mem_nil⟩
  | cons input inputs induction =>
      rcases induction (Session.sound_receive sound input) going with ⟨first, later⟩
      rw [Session.shuttingDown_receive sound, Bool.or_eq_false_iff] at first
      refine ⟨first.1, fun member => ?_⟩
      rcases List.mem_cons.mp member with rfl | others
      · cases first.2
      · exact later others

theorem regular_happens (regular : live.Regular) (happens : live.Happens happening course after) :
    after.Regular := by
  rcases regular with ⟨linked, ⟨moments, orderly⟩, ticketed, listens⟩
  have follows := follows_happens linked happens
  have records := records_happens happens
  have present : ∀ now, happening.moment? = some now →
      now ∈ moments ++ happening.moment?.toList := by
    intro now moment
    simp [moment]
  have next := orderly_happens linked (orderly_mono orderly (List.subset_append_left _ _)) happens
    present
  refine ⟨follows.linked linked, ⟨_, next.own.symm ▸ next⟩, ticketed_happens ticketed follows records, ?_⟩
  intro going
  rw [follows.session] at going
  rcases shuttingDown_receiveAll linked.coherent.sound _ going with ⟨before, unasked⟩
  rcases records.isListening with same | closes
  · exact same.trans (listens before)
  · exact absurd closes unasked

theorem regular_of_lived (lived : live.Lived) : live.Regular := by
  induction lived with
  | starts options now serial =>
      have linked := (linked_happenAll options now []).1
      have orderly := orderly_start options now
      have desk : (start options now).desk = _ := desk_drive now _
      have mailbox : (start options now).mailbox = [] := by
        rcases (follows_start options now).mailbox with ⟨lost, mailbox, -⟩
        have empty : lost = [] ∧ (start options now).mailbox = [] := by simpa using mailbox
        exact empty.2
      refine ⟨⟨linked.coherent, linked.concluded, linked.stands.of_same rfl rfl rfl rfl,
        linked.emptied⟩, ⟨[now], orderly.own.symm ▸ ⟨orderly.own, orderly.punctual, orderly.releases,
          orderly.broken⟩⟩, ?_, fun _ => congrArg Desk.isListening desk⟩
      have answers : (start options now).answers = [] := congrArg Desk.answers desk
      simp [Ticketed, tickets, answers, mailbox]
  | @goesOn live lived happening induction =>
      exact regular_happens induction (live.happens happening)
  | @noted live lived induction =>
      rcases induction with ⟨linked, ⟨moments, orderly⟩, ticketed, listens⟩
      have coherent := linked.coherent
      refine ⟨⟨⟨⟨coherent.disabled, coherent.loading, coherent.unasked⟩, coherent.sound⟩,
        linked.concluded, ?_, linked.emptied⟩, ⟨moments, orderly.own, orderly.punctual, nofun,
        orderly.broken⟩, ticketed, listens⟩
      cases linked.stands with
      | waiting phase going atWork load =>
          exact .waiting phase going ⟨atWork.isOpen, atWork.isHeard, atWork.running⟩ load
      | handing phase atWork load flying =>
          exact .handing phase ⟨atWork.isOpen, atWork.isHeard, atWork.running⟩ load flying
      | finished phase deleted => exact .finished phase deleted
      | broken phase => exact .broken phase

end LiveSession

end FlowClient
