import FlowClient.Proofs.Live.Linked
import FlowClient.Proofs.Session.Resets

/-! Which tasks a live session answers. Calls are taken in the order in which they were left,
and when the session has ended, all tasks of the calls that it took have come to their end.
But it ends as soon as it is over, and the calls that still wait then are lost. -/

namespace FlowClient.LiveSession

variable {live after : LiveSession} {happening : Happening} {course : Course} {id : TaskId}

/-! ## The end -/

/-- Whether a live session takes nothing any more. -/
def isOver (live : LiveSession) : Bool := live.phase == .stopping || live.isEnded

def isAnswered (live : LiveSession) (id : TaskId) : Bool :=
  live.session.queue.ledger.isTerminal id

/-- What a live session that is over leaves as it is. -/
structure Rests (before after : LiveSession) : Prop where
  past : after.isOver = true
  ended : before.isEnded = true → after.isEnded = true
  known : before.session.queue.ledger.size ≤ after.session.queue.ledger.size
  answered : ∀ id, id < before.session.queue.ledger.size → after.isAnswered id = before.isAnswered id

theorem not_waiting_of_over (past : live.isOver = true) : live.phase ≠ .waiting := by
  intro waits
  simp [isOver, isEnded, isBroken, waits] at past

theorem resume_of_over (past : live.isOver = true) (now : Nat) : live.resume? now = none := by
  rw [resume?]
  split
  · rename_i hands
    simp [isOver, isEnded, isBroken, hands] at past
  · rfl

theorem rests_of_same (past : live.isOver = true) (phase : after.phase = live.phase)
    (session : after.session = live.session) : live.Rests after where
  past := by rw [← past, isOver, isEnded, isBroken, phase]; rfl
  ended ended := by rw [← ended, isEnded, isBroken, phase]; rfl
  known := by rw [session]
  answered id _ := by rw [isAnswered, session]; rfl

/-- A live session that is over takes no call, and answers no task. -/
theorem rests_happens (past : live.isOver = true) (happens : live.Happens happening course after) :
    course.taken = [] ∧ live.Rests after := by
  cases happens with
  | nothing => exact ⟨rfl, rests_of_same past rfl rfl⟩
  | @makes kind args params =>
      let task : Task := { kind, args, params }
      refine ⟨rfl, past, id, Nat.le.intro (live.session.queue.size_enter task).symm, ?_⟩
      intro id within
      exact Ledger.isTerminal_congr (live.session.queue.ledger.get?_add_old task within)
  | @changes id param value =>
      refine ⟨rfl, past, fun ended => ended, (Ledger.size_change _ id _).ge, ?_⟩
      intro other _
      exact live.session.queue.ledger.isTerminal_change id other fun _ => rfl
  | calls | leaves | answers | works => exact ⟨rfl, rests_of_same past rfl rfl⟩
  | resumes resumed =>
      rw [resume_of_over past] at resumed
      cases resumed
  | takes waits | closes waits | collects waits | ticks waits =>
      exact absurd waits (not_waiting_of_over past)
  | stops stopping gone => exact ⟨rfl, rfl, fun _ => rfl, Nat.le_refl _, fun _ _ => rfl⟩

theorem Rests.trans {middle : LiveSession} (first : live.Rests middle)
    (second : middle.Rests after) : live.Rests after where
  past := second.past
  ended ended := second.ended (first.ended ended)
  known := first.known.trans second.known
  answered id within := (second.answered id (within.trans_le first.known)).trans
    (first.answered id within)

theorem rests_happenAll (past : live.isOver = true) (happenings : List Happening) :
    (live.occasions happenings).flatMap (·.course.taken) = [] ∧
      live.Rests (live.happenAll happenings) := by
  induction happenings using List.reverseRecOn with
  | nil => exact ⟨rfl, rests_of_same past rfl rfl⟩
  | append_singleton happenings happening induction =>
      rcases induction with ⟨untaken, rests⟩
      rcases rests_happens rests.past (happens _ happening) with ⟨last, further⟩
      rw [occasions_concat, happenAll_concat, List.flatMap_append, untaken]
      exact ⟨by simpa [Occasion.course] using last, rests.trans further⟩

/-! ## Calls that are taken -/

theorem inputs_of_taken {ticket : Ticket} {call : Call}
    (happens : live.Happens happening course after) (member : (ticket, call) ∈ course.taken) :
    course.inputs = call.inputs ++ [.takeStep] := by
  cases happens with
  | takes waits listens mailbox =>
      cases List.mem_singleton.mp member
      rfl
  | _ => cases member

/-- What the session inside receives first in a happening is a turn of its run. -/
theorem mem_turns_received (options : SessionOptions) (now : Nat) (happenings : List Happening) :
    ∀ occasion ∈ (start options now).occasions happenings, ∀ input more,
      occasion.course.inputs = input :: more →
        ⟨occasion.before.session, input⟩ ∈
          (Session.new options).turns (received ((start options now).occasions happenings)) := by
  induction happenings using List.reverseRecOn with
  | nil => simp
  | append_singleton happenings happening induction =>
      intro occasion member input more inputs
      rw [occasions_concat] at member ⊢
      rw [received_concat, Session.turns_append]
      rcases List.mem_append.mp member with old | last
      · exact List.mem_append_left _ (induction occasion old input more inputs)
      · refine List.mem_append_right _ ?_
        cases List.mem_singleton.mp last
        rw [inputs, Session.turns, ← (linked_happenAll options now happenings).2]
        exact List.mem_cons_self

/-- What becomes of the calls of a run. -/
structure Answered (occasions : List Occasion) (live : LiveSession) : Prop where
  /-- Calls are taken in the order in which they were left, and are lost only when the live
  session ends. -/
  inOrder : ∃ lost, occasions.flatMap (·.course.left) =
      occasions.flatMap (·.course.taken) ++ lost ++ live.mailbox ∧
    (live.isEnded = false → lost = [])
  /-- Once the live session goes no further, the task of each call that it took has come to
  its end. -/
  answered : live.phase = .stopping ∨ live.phase = .ended → ∀ occasion ∈ occasions,
    ∀ ticket id, (ticket, .run id) ∈ occasion.course.taken →
      id < occasion.before.session.queue.ledger.size → live.isAnswered id = true

theorem inOrder_happenAll (options : SessionOptions) (now : Nat) (happenings : List Happening) :
    ∃ lost, ((start options now).occasions happenings).flatMap (·.course.left) =
        ((start options now).occasions happenings).flatMap (·.course.taken) ++ lost ++
          ((start options now).happenAll happenings).mailbox ∧
      (((start options now).happenAll happenings).isEnded = false → lost = []) := by
  induction happenings using List.reverseRecOn with
  | nil => simpa using (follows_start options now).mailbox
  | append_singleton happenings happening induction =>
      rcases induction with ⟨lost, calls, unlost⟩
      have linked := (linked_happenAll options now happenings).1
      have happened := happens ((start options now).happenAll happenings) happening
      rcases (follows_happens linked happened).mailbox with ⟨lostNow, mailbox, unlostNow⟩
      rw [occasions_concat, happenAll_concat, List.flatMap_append, List.flatMap_append, calls]
      generalize (start options now).happenAll happenings = live at *
      simp only [List.flatMap_cons, List.flatMap_nil, List.append_nil, Occasion.course]
      cases ended : live.isEnded with
      | false =>
          refine ⟨lostNow, ?_, unlostNow⟩
          rw [unlost ended]
          simpa using mailbox
      | true =>
          have past : live.isOver = true := by simp [isOver, ended]
          rcases rests_happens past happened with ⟨untaken, rests⟩
          refine ⟨lost ++ lostNow, ?_, fun going => ?_⟩
          · rw [untaken] at mailbox ⊢
            simpa using mailbox
          · simp [rests.ended ended] at going

/-- A session that is over has brought all tasks it was entrusted with to their end. -/
theorem isTerminal_of_entrusts (options : SessionOptions) (inputs : List Session.Input)
    (deleted : ((Session.new options).receiveAll (.reset :: inputs)).deleted = true)
    {turn : Session.Turn} (member : turn ∈ (Session.new options).turns (.reset :: inputs))
    (entrusts : turn.Entrusts id) :
    ((Session.new options).receiveAll (.reset :: inputs)).queue.ledger.isTerminal id = true :=
  Session.isTerminal_of_deleted (Session.coherent_receiveAll options _)
    (Session.concluded_receiveAll options _) (Session.flows_receiveAll options inputs).tidy deleted
    (Session.placed_receiveAll options _ turn member id entrusts)

/-- Whoever left a call that was taken does not wait in vain. -/
theorem answered_happenAll (options : SessionOptions) (now : Nat) (happenings : List Happening) :
    Answered ((start options now).occasions happenings)
      ((start options now).happenAll happenings) where
  inOrder := inOrder_happenAll options now happenings
  answered := by
    intro phase occasion member ticket id taken within
    rcases linked_happenAll options now happenings with ⟨linked, session⟩
    have deleted : ((start options now).happenAll happenings).session.deleted = true := by
      cases linked.stands with
      | finished ends gone => exact gone
      | waiting waits => simp [waits] at phase
      | handing hands => simp [hands] at phase
      | broken fails => simp [fails] at phase
    have inputs := inputs_of_taken (happens occasion.before occasion.happening) taken
    have turn := mem_turns_received options now happenings occasion member _ _ inputs
    rw [isAnswered, session]
    rw [session] at deleted
    exact isTerminal_of_entrusts options _ deleted turn ⟨rfl, within⟩

/-! ## Calls that are lost -/

theorem isOver_of_deleted (linked : live.Linked) (deleted : live.session.deleted = true) :
    live.isOver = true := by
  cases linked.stands with
  | waiting waits going => cases deleted.symm.trans going
  | handing hands atWork load flying =>
      cases deleted.symm.trans (Session.going_of_flying linked.concluded flying)
  | finished ends => rcases ends with stops | ended <;> simp [isOver, isEnded, *]
  | broken fails => simp [isOver, isEnded, isBroken, fails]

/-- A call to shut down, when nothing is in flight, is the last that is taken. The calls behind
it are lost: whatever happens then, a task that did not wait in the queue stays as it is. -/
theorem unanswered_of_shutdown (linked : live.Linked) {ticket : Ticket}
    {rest : List (Ticket × Call)} (waits : live.phase = .waiting)
    (listens : live.isListening = true) (mailbox : live.mailbox = (ticket, .shutdown) :: rest)
    (idle : live.session.queue.inFlight = none) (now : Nat) (happenings : List Happening) :
    ((live.happen (.receive now)).occasions happenings).flatMap (·.course.taken) = [] ∧
      ∀ id, id < live.session.queue.ledger.size → id ∉ live.session.queue.pending →
        ((live.happen (.receive now)).happenAll happenings).isAnswered id = live.isAnswered id := by
  obtain ⟨alive, -, -⟩ := linked.stands.atWork_of_waiting waits
  have going : live.session.shuttingDown = false := by
    simpa [Session.Concluded, alive, idle] using linked.concluded
  have queue : live.session.shutdown.queue = live.session.queue.disable := by
    simp [Session.shutdown, going]
  have deleted : live.session.shutdown.deleted = true := by
    have lasting := live.session.lasting_shutdown
    rw [going, if_neg Bool.false_ne_true, idle] at lasting
    exact (congrArg Lasting.deleted lasting).trans (Bool.or_true _)
  have happened := happens live (.receive now)
  have course : live.course (.receive now) =
      { inputs := [.shutdown, .takeStep], taken := [(ticket, .shutdown)] } := by
    simp [LiveSession.course, waits, listens, mailbox, Call.inputs]
  rw [course] at happened
  have follows := follows_happens linked happened
  have session : (live.happen (.receive now)).session = live.session.shutdown.takeStep.1 :=
    follows.session
  have disabled : (live.happen (.receive now)).session.queue = live.session.queue.disable := by
    simp [session, Session.takeStep, Queue.next, queue]
  have past := isOver_of_deleted (follows.linked linked) (session ▸ deleted)
  rcases rests_happenAll past happenings with ⟨untaken, rests⟩
  refine ⟨untaken, fun id within aside => ?_⟩
  have known : id < (live.happen (.receive now)).session.queue.ledger.size :=
    within.trans_le (disabled ▸ live.session.queue.extends_disable.size_le)
  rw [rests.answered id known, isAnswered, disabled]
  exact Session.isTerminal_disable aside

/-- Two callers turn to a session that has nothing in flight: one shuts it down, and the other
hands over a task just after that. -/
def lateCall : List Happening :=
  [.work, .answer (.ok { definition := some Session.oneSuite }), .complete 0, .work,
    .answer (.ok { lines := ["s1"] }), .complete 0, .make .stats [] {}, .call .shutdown,
    .call (.run 2), .receive 0, .work, .stop]

/-- The late call was left in the mailbox, and nobody ever answers its task. -/
example :
    ((start Session.sampleOptions 0).occasions lateCall).flatMap (·.course.left) =
      [(0, .shutdown), (1, .run 2)] ∧
    ((start Session.sampleOptions 0).happenAll lateCall).phase = .ended ∧
    ((start Session.sampleOptions 0).happenAll lateCall).isAnswered 2 = false := by
  decide

end FlowClient.LiveSession
