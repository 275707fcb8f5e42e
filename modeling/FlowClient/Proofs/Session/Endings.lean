import FlowClient.Proofs.Queue.Outstanding
import FlowClient.Proofs.Session.Chronicles
import FlowClient.Proofs.Session.Dispatch
import FlowClient.Proofs.Session.Released

/-! How a session ends. Once it is shut down it dispatches nothing more. If nothing is in flight
then, it says that it is over at once; otherwise it waits for the task in flight, and says so
when that comes back. -/

namespace FlowClient.Session

variable {session : Session} {input : Input} {turns earlier : List Turn} {id : TaskId}

/-! ## What is told of the end -/

/-- How often the observers were told that the session is over. -/
def endings (session : Session) : Nat := session.notices.countP (·.event = .deleted)

theorem endings_receive (coherent : session.Coherent) (blank : Standing.Blank session.standing)
    (told : session.endings = session.deleted.toNat) (input : Input) :
    (session.receive input).endings = (session.receive input).deleted.toNat := by
  have chronicles := chronicles_receive coherent blank input
  have tells (chronicles : session.Chronicles (session.receive input)) :
      (session.receive input).endings = (session.receive input).deleted.toNat := by
    rcases chronicles.told with ⟨added, notices, -, account⟩
    rw [endings, notices, List.countP_append]
    exact (congrArg (· + _) told).trans account.count_deleted
  cases input with
  | subscribe | unsubscribe => exact told
  | _ => exact tells (chronicles (by simp) (by simp))

/-- The end is told once, and when it comes. -/
theorem endings_receiveAll (options : SessionOptions) (inputs : List Input) :
    ((new options).receiveAll inputs).endings =
      ((new options).receiveAll inputs).deleted.toNat := by
  induction inputs using List.reverseRecOn with
  | nil => rfl
  | append_singleton inputs input induction =>
      rw [receiveAll_concat]
      exact endings_receive (coherent_receiveAll options inputs) (blank_receiveAll options inputs)
        induction input

/-- If a session is over, that was the last it told. -/
def EndsLast (session : Session) : Prop :=
  session.deleted = true → ∃ told ending, session.notices = told ++ [ending] ∧
    ending.event = .deleted

theorem endsLast_of_going (going : session.deleted = false) : session.EndsLast := by
  intro deleted
  cases going.symm.trans deleted

theorem endsLast_finishIfIdle (going : session.deleted = false) :
    session.finishIfIdle.EndsLast := by
  rw [finishIfIdle]
  split
  · exact fun _ => ⟨session.notices, _, rfl, rfl⟩
  · exact endsLast_of_going going

theorem endsLast_shutdown (going : session.deleted = false) : session.shutdown.EndsLast := by
  rw [shutdown]
  split
  · exact endsLast_of_going going
  · refine endsLast_finishIfIdle (.trans ?_ going)
    exact congrArg Lasting.deleted (lasting_stopTimer _)

theorem endsLast_recordOnly (going : session.deleted = false) (kind : TaskKind)
    (outcome : Outcome) : (session.recordOnly id kind outcome).EndsLast := by
  simp only [recordOnly]
  apply endsLast_finishIfIdle
  split <;> split <;> exact going

theorem endsLast_complete (sound : session.queue.Sound) (going : session.deleted = false)
    (outcome : Outcome) : (session.receive (.complete outcome)).EndsLast := by
  cases flying : session.queue.inFlight with
  | none =>
      rw [receive_complete_none flying]
      exact endsLast_of_going going
  | some id =>
      rcases sound.inFlight_known id flying with ⟨kind, known⟩
      have taken : (session.takenBack id).deleted = false := going
      rw [receive_complete flying, taskCompleted_of_known known]
      split
      · exact endsLast_recordOnly taken kind outcome
      · cases outcome with
        | ok reply =>
            exact endsLast_of_going
              ((congrArg Lasting.deleted (lasting_taskSucceeded _ id kind reply)).trans taken)
        | error failure =>
            exact endsLast_of_going
              ((congrArg Lasting.deleted (lasting_taskFailed _ id kind failure)).trans taken)

/-- A session that comes to its end says so, and nothing after it. -/
theorem endsLast_receive (sound : session.queue.Sound) (going : session.deleted = false)
    (input : Input) : (session.receive input).EndsLast := by
  have deleted := congrArg Lasting.deleted (lasting_receive sound input)
  cases input with
  | shutdown => exact endsLast_shutdown going
  | complete outcome => exact endsLast_complete sound going outcome
  | _ => exact endsLast_of_going (deleted.trans going)

/-! ## Sessions that are shut down -/

def Turn.shutsDown (turn : Turn) : Bool :=
  match turn.input with
  | .shutdown => true
  | _ => false

/-- Whether the observers are told in a turn that the session is over. -/
def Turn.tellsEnd (turn : Turn) : Bool := turn.before.endings < turn.after.endings

/-- The turn in which a session has to end, by the turns before it. -/
inductive Concludes (earlier : List Turn) (turn : Turn) : Prop
  /-- It is shut down, and nothing is in flight. -/
  | atOnce (first : earlier.find? Turn.shutsDown = none) (shutsDown : turn.shutsDown = true)
      (idle : turn.before.queue.inFlight = none)
  /-- The task comes back that was in flight when it was shut down. -/
  | afterwards {closing id} (first : earlier.find? Turn.shutsDown = some closing)
      (flying : closing.before.queue.inFlight = some id) (back : turn.returned = [id])

/-- What holds of a session by whether it was shut down. -/
structure Closing (turns : List Turn) (session : Session) : Prop where
  shut : session.shuttingDown = (turns.find? Turn.shutsDown).isSome
  /-- What was in flight then may still be. -/
  flying : ∀ closing, turns.find? Turn.shutsDown = some closing →
    session.queue.inFlight = none ∨
      session.queue.inFlight = closing.before.queue.inFlight

theorem shuttingDown_receive (sound : session.queue.Sound) (input : Input) :
    (session.receive input).shuttingDown =
      (session.shuttingDown || Turn.shutsDown ⟨session, input⟩) := by
  have closing := congrArg Lasting.shuttingDown (lasting_receive sound input)
  cases input with
  | shutdown =>
      cases going : session.shuttingDown <;> simp [receive, shutdown, going, Turn.shutsDown]
  | _ => exact closing.trans (Bool.or_false _).symm

theorem next_of_shuttingDown (coherent : session.Coherent) (closing : session.shuttingDown = true) :
    session.queue.next = (session.queue, none) := by
  simp [Queue.next, mode_of_shuttingDown coherent closing]

/-- In a session that is shut down what is in flight comes back, and nothing else sets out. -/
theorem inFlight_of_shuttingDown (coherent : session.Coherent) (input : Input)
    (closing : (session.receive input).shuttingDown = true) :
    (session.receive input).queue.inFlight =
      if Turn.returned ⟨session, input⟩ = [] then session.queue.inFlight else none := by
  have kept := inFlight_of_call coherent.sound input
  cases input with
  | complete outcome =>
      rw [inFlight_complete coherent.sound outcome]
      cases flying : session.queue.inFlight <;> simp [Turn.returned, flying]
  | takeStep =>
      have next := next_of_shuttingDown coherent closing
      simp [receive, takeStep, next, Turn.returned]
  | _ => exact (kept rfl).trans (if_pos rfl).symm

theorem dispatched_of_shuttingDown (coherent : session.Coherent)
    (closing : session.shuttingDown = true) (input : Input) :
    Turn.dispatched ⟨session, input⟩ = [] := by
  by_cases stepped : input = .takeStep
  · subst stepped
    rw [dispatched_takeStep coherent, next_of_shuttingDown coherent closing]
    rfl
  · exact dispatched_of_unstepped stepped

theorem find?_shutsDown_concat (turns : List Turn) (turn : Turn) :
    (turns ++ [turn]).find? Turn.shutsDown =
      (turns.find? Turn.shutsDown).or (if turn.shutsDown then some turn else none) := by
  rw [List.find?_append, List.find?_singleton]

theorem closing_receive (coherent : session.Coherent) (closing : Closing turns session)
    (input : Input) : Closing (turns ++ [⟨session, input⟩]) (session.receive input) := by
  have shut : (session.receive input).shuttingDown =
      ((turns ++ [(⟨session, input⟩ : Turn)]).find? Turn.shutsDown).isSome := by
    rw [shuttingDown_receive coherent.sound, closing.shut, find?_shutsDown_concat]
    cases turns.find? Turn.shutsDown <;> cases Turn.shutsDown ⟨session, input⟩ <;> rfl
  refine ⟨shut, fun first found => ?_⟩
  rw [found] at shut
  rw [inFlight_of_shuttingDown coherent input shut]
  split
  · rw [find?_shutsDown_concat] at found
    cases earlier : turns.find? Turn.shutsDown with
    | some other =>
        rw [earlier, Option.some_or] at found
        exact closing.flying first (earlier.trans found)
    | none =>
        -- This is the turn that shuts the session down.
        rw [earlier, Option.none_or] at found
        split at found
        · cases found
          exact .inr rfl
        · cases found
  · exact .inl rfl

theorem closing_receiveAll (options : SessionOptions) (inputs : List Input) :
    Closing ((new options).turns inputs) ((new options).receiveAll inputs) := by
  induction inputs using List.reverseRecOn with
  | nil => exact ⟨rfl, by simp⟩
  | append_singleton inputs input induction =>
      rw [receiveAll_concat, turns_concat]
      exact closing_receive (coherent_receiveAll options inputs) induction input

/-- The observers are told when a session comes to its end. -/
theorem tellsEnd_iff {turn : Turn} (before : turn.before.endings = turn.before.deleted.toNat)
    (after : turn.after.endings = turn.after.deleted.toNat) :
    turn.tellsEnd = true ↔ turn.before.deleted = false ∧ turn.after.deleted = true := by
  rw [Turn.tellsEnd, before, after, decide_eq_true_iff]
  cases turn.before.deleted <;> cases turn.after.deleted <;> simp

theorem ends_iff_concludes (coherent : session.Coherent) (concluded : session.Concluded)
    (closing : Closing earlier session) (input : Input) :
    session.deleted = false ∧ (session.receive input).deleted = true ↔
      Concludes earlier ⟨session, input⟩ := by
  have after : (session.receive input).Concluded := concluded_receive coherent concluded input
  have shut := shuttingDown_receive coherent.sound input
  rw [Concluded] at concluded after
  constructor
  · rintro ⟨going, ends⟩
    rw [ends] at after
    obtain ⟨closed, landed⟩ : (session.receive input).shuttingDown = true ∧
        (session.receive input).queue.inFlight.isNone = true := by
      simpa using after.symm
    have flight := inFlight_of_shuttingDown coherent input closed
    have shutNow := shut.symm.trans closed
    rw [going] at concluded
    cases already : session.shuttingDown with
    | false =>
        have shutsDown : Turn.shutsDown ⟨session, input⟩ = true := by simpa [already] using shutNow
        have idle : session.queue.inFlight = none := by
          cases input with
          | shutdown => simpa [inFlight_of_call coherent.sound .shutdown rfl] using landed
          | _ => cases shutsDown
        exact .atOnce (by simpa [already] using closing.shut) shutsDown idle
    | true =>
        cases flying : session.queue.inFlight with
        | none => simp [already, flying] at concluded
        | some id =>
            obtain ⟨first, found⟩ := Option.isSome_iff_exists.mp (closing.shut.symm.trans already)
            have back : Turn.returned ⟨session, input⟩ ≠ [] := by
              intro none
              simp [flight, none, flying] at landed
            have aloft : first.before.queue.inFlight = some id := by
              rcases closing.flying first found with gone | same
              · cases gone.symm.trans flying
              · exact same.symm.trans flying
            refine .afterwards found aloft ?_
            cases input with
            | complete outcome => exact congrArg Option.toList flying
            | _ => exact absurd rfl back
  · intro concludes
    cases concludes with
    | atOnce first shutsDown idle =>
        have already : session.shuttingDown = false := by simpa [first] using closing.shut
        have closed : (session.receive input).shuttingDown = true := by simp [shut, shutsDown]
        have flight := inFlight_of_shuttingDown coherent input closed
        rw [idle, ite_self] at flight
        exact ⟨by simp [concluded, already], by simp [after, closed, flight]⟩
    | @afterwards first id found flying back =>
        have already : session.shuttingDown = true := by simp [closing.shut, found]
        have closed : (session.receive input).shuttingDown = true := by simp [shut, already]
        have flight := inFlight_of_shuttingDown coherent input closed
        rw [back, if_neg (by simp)] at flight
        have aloft : session.queue.inFlight = some id := by
          cases input <;> simp [Turn.returned] at back
          exact back
        exact ⟨by simp [concluded, aloft], by simp [after, closed, flight]⟩

/-! ## Any run -/

/-- How a session ends in a run. -/
structure ClosesDown (turns : List Turn) : Prop where
  /-- The observers are told of the end in just the turn in which it has to come. -/
  told : ∀ earlier turn later, turns = earlier ++ turn :: later →
    (turn.tellsEnd = true ↔ Concludes earlier turn)
  /-- Nothing is waiting then, and nothing is in flight. -/
  done : ∀ turn ∈ turns, turn.tellsEnd = true → turn.after.queue.outstanding = []
  undispatched : ∀ earlier closing later, turns = earlier ++ closing :: later →
    closing.shutsDown = true → ∀ turn ∈ closing :: later, turn.dispatched = []

/-- A session that is over has nothing waiting. -/
theorem outstanding_of_deleted (options : SessionOptions) {inputs : List Input}
    (begins : inputs.head? = some .reset)
    (deleted : ((new options).receiveAll inputs).deleted = true) :
    ((new options).receiveAll inputs).queue.outstanding = [] := by
  rcases List.head?_eq_some_iff.mp begins with ⟨rest, rfl⟩
  have coherent := coherent_receiveAll options (.reset :: rest)
  have concluded := concluded_receiveAll options (.reset :: rest)
  have tidy := (flows_receiveAll options rest).tidy
  generalize (new options).receiveAll (.reset :: rest) = session at *
  rw [Concluded, deleted] at concluded
  obtain ⟨closed, landed⟩ : session.shuttingDown = true ∧ session.queue.inFlight.isNone = true := by
    simpa using concluded.symm
  have empty : session.queue.pending = [] := tidy (mode_of_shuttingDown coherent closed)
  rw [Queue.outstanding, empty, Option.isNone_iff_eq_none.mp landed]
  rfl

/-- In any run that begins with a reset a session ends in order. -/
theorem closesDown_turns (options : SessionOptions) (inputs : List Input) :
    ClosesDown ((new options).turns (.reset :: inputs)) where
  told := by
    intro earlier turn later split
    rcases turns_split split with ⟨before, after, -, rfl, same, -⟩
    rcases turn with ⟨session, input⟩
    cases same
    refine (tellsEnd_iff (endings_receiveAll options before) ?_).trans ?_
    · have told := endings_receiveAll options (before ++ [input])
      rwa [receiveAll_concat] at told
    · exact ends_iff_concludes (coherent_receiveAll options before)
        (concluded_receiveAll options before) (closing_receiveAll options before) input
  done := by
    intro turn member tells
    rcases List.append_of_mem member with ⟨earlier, later, split⟩
    rcases turns_split split with ⟨before, after, whole, -, same, -⟩
    have reached : turn.after = (new options).receiveAll (before ++ [turn.input]) := by
      rw [receiveAll_concat, ← same]
      rfl
    have deleted : turn.after.deleted = true := by
      refine ((tellsEnd_iff ?_ ?_).mp tells).2
      · rw [same, endings_receiveAll]
      · rw [reached, endings_receiveAll]
    have begins : (before ++ [turn.input]).head? = some .reset := by
      have first := congrArg List.head? whole
      cases before <;> simpa using first.symm
    rw [reached] at deleted ⊢
    exact outstanding_of_deleted options begins deleted
  undispatched := by
    intro earlier closing later split shuts turn member
    rcases List.mem_cons.mp member with rfl | afterwards
    · refine dispatched_of_unstepped fun stepped => ?_
      rw [Turn.shutsDown, stepped] at shuts
      cases shuts
    · rcases List.append_of_mem afterwards with ⟨between, rest, rfl⟩
      rw [← List.cons_append, ← List.append_assoc] at split
      rcases turns_split split with ⟨before, after, -, past, same, -⟩
      have closed : turn.before.shuttingDown = true := by
        rw [same, (closing_receiveAll options before).shut, ← past, List.find?_isSome]
        exact ⟨closing, by simp, shuts⟩
      have coherent : turn.before.Coherent := same ▸ coherent_receiveAll options before
      exact dispatched_of_shuttingDown coherent closed turn.input

end FlowClient.Session
