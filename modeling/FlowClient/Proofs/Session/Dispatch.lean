import FlowClient.Proofs.Queue.Waiting
import FlowClient.Proofs.Session.Effects

/-! In which order a session dispatches its tasks. There is one task in flight at a time;
no task is dispatched twice, or after it has come to its end; and among the tasks that
the queue accepted, dispatches keep the order. -/

namespace FlowClient.Session

/-! ## What a turn does to tasks -/

/-- The tasks that the commands of a step dispatch. -/
def Turn.dispatched (turn : Turn) : List TaskId :=
  match turn.input with
  | .takeStep => turn.before.takeStep.2.commands.filterMap SessionCommand.task?
  | _ => []

def Turn.returned (turn : Turn) : List TaskId :=
  match turn.input with
  | .complete _ => turn.before.queue.inFlight.toList
  | _ => []

def Turn.accepted (turn : Turn) : List TaskId := turn.before.queue.arrivals turn.after.queue

def Turn.departed (turn : Turn) : List TaskId := turn.before.queue.departures turn.after.queue

/-- That a task sets out, or comes back. -/
inductive Mark where
  | dispatched (id : TaskId)
  | returned (id : TaskId)
deriving DecidableEq

def Turn.marks (turn : Turn) : List Mark :=
  turn.dispatched.map .dispatched ++ turn.returned.map .returned

def roundTrip (id : TaskId) : List Mark := [.dispatched id, .returned id]

variable {turns : List Turn} {session : Session} {input : Input}

/-- Tasks are dispatched by steps alone. -/
theorem dispatched_of_unstepped (unstepped : input ≠ .takeStep) :
    Turn.dispatched ⟨session, input⟩ = [] := by
  cases input <;> first | rfl | exact absurd rfl unstepped

theorem dispatched_of_call (call : input.isCall = true) :
    Turn.dispatched ⟨session, input⟩ = [] :=
  dispatched_of_unstepped (by rintro rfl; cases call)

theorem dispatched_turns_of_unstepped {inputs : List Input}
    (unstepped : ∀ input ∈ inputs, input ≠ .takeStep) :
    (session.turns inputs).flatMap Turn.dispatched = [] := by
  induction inputs generalizing session with
  | nil => rfl
  | cons input inputs induction =>
      rw [turns, List.flatMap_cons, dispatched_of_unstepped (unstepped input List.mem_cons_self)]
      exact induction fun later member => unstepped later (List.mem_cons_of_mem _ member)

theorem returned_of_call (call : input.isCall = true) :
    Turn.returned ⟨session, input⟩ = [] := by
  cases input <;> first | rfl | cases call

/-- A step dispatches what the queue hands out. -/
theorem dispatched_takeStep (coherent : session.Coherent) :
    Turn.dispatched ⟨session, .takeStep⟩ = session.queue.next.2.toList :=
  asked_takeStep coherent

theorem inFlight_takeStep {id : TaskId}
    (asked : session.queue.next.2 = some id) : session.queue.inFlight = none ∧
      session.takeStep.1.queue.inFlight = some id := by
  have queue : session.takeStep.1.queue = session.queue.next.1 := rfl
  have steps := session.queue.steps_next
  rw [queue]
  generalize session.queue.next = step at steps asked
  cases steps with
  | waits => cases asked
  | clears ended => cases asked
  | dispatches free pending ended ready =>
      cases asked
      exact ⟨free, rfl⟩

theorem inFlight_takeStep_none (unasked : session.queue.next.2 = none) :
    session.takeStep.1.queue.inFlight = session.queue.inFlight := by
  have queue : session.takeStep.1.queue = session.queue.next.1 := rfl
  have steps := session.queue.steps_next
  rw [queue]
  generalize session.queue.next = step at steps unasked
  cases steps with
  | waits => rfl
  | clears ended => rfl
  | dispatches free pending ended ready => cases unasked

/-! ## One turn -/

/-- A dispatched task has not come to its end. What a step takes from the queue, and does
not dispatch, has; and nothing is accepted by a step. -/
theorem departed_takeStep (coherent : session.Coherent) :
    (∀ id ∈ Turn.dispatched ⟨session, .takeStep⟩, session.queue.ledger.isTerminal id = false) ∧
      Turn.accepted ⟨session, .takeStep⟩ = [] ∧
      ∃ skipped, Turn.departed ⟨session, .takeStep⟩ =
          skipped ++ Turn.dispatched ⟨session, .takeStep⟩ ∧
        ∀ id ∈ skipped, session.queue.ledger.isTerminal id = true := by
  rw [dispatched_takeStep coherent]
  refine ⟨?_, session.queue.steps_next.waiting⟩
  have steps := session.queue.steps_next
  generalize session.queue.next = step at steps
  cases steps with
  | waits => simp
  | clears ended => simp
  | dispatches free pending ended ready => simpa using ready

/-- Other inputs take tasks from the queue only to bring them to their end, all at once: when
the queue is disabled, or taken over by a reset. -/
theorem departed_of_unstepped (coherent : session.Coherent) (unstepped : input ≠ .takeStep) :
    Turn.departed ⟨session, input⟩ = [] ∨
      Turn.departed ⟨session, input⟩ = session.queue.pending ∧
        (∀ id ∈ session.queue.pending,
          (session.receive input).queue.ledger.isTerminal id = true) ∧
        (input = .disconnect ∨ input = .shutdown ∨ (session.receive input).queue.TakenOver) := by
  have sound := coherent.sound
  unfold Turn.departed Turn.after
  simp only
  cases queueing_receive sound input with
  | moves call moves =>
      refine (sound.waiting moves).imp_right fun ⟨left, taken, ended⟩ => ?_
      exact ⟨left, ended, .inr (.inr taken)⟩
  | disconnects same =>
      rw [same]
      exact .inr ⟨sound.waiting_disable.1, sound.waiting_disable.2, .inl rfl⟩
  | closes same =>
      rw [same]
      exact .inr ⟨sound.waiting_disable.1, sound.waiting_disable.2, .inr (.inl rfl)⟩
  | dispatches same => exact absurd rfl unstepped
  | idles free same =>
      rw [same]
      exact .inl (Queue.departures_of_begins List.prefix_rfl)
  | @returns outcome id ending flying terminal moves =>
      have pending : ((session.queue.complete id).1.advance id ending).pending =
          session.queue.pending := (session.queue.complete_frame id).2
      have middleSound := (sound.complete flying).advance id ending
      have departures := Queue.departures_congr pending (session.receive (.complete outcome)).queue
      rcases middleSound.waiting moves with none | ⟨left, taken, ended⟩
      · exact .inl (departures.symm.trans none)
      · exact .inr ⟨departures.symm.trans (left.trans pending), pending ▸ ended, .inr (.inr taken)⟩

/-! ## Runs -/

/-- How dispatches, returns and acceptances of these turns stand to each other and to what
is in flight and what waits after them. -/
structure Dispatching (turns : List Turn) (session : Session) : Prop where
  alternate : ∃ done : List TaskId, turns.flatMap Turn.marks =
    done.flatMap roundTrip ++ session.queue.inFlight.toList.map .dispatched
  ended : ∀ id ∈ turns.flatMap Turn.dispatched, session.queue.inFlight = some id ∨
    session.queue.ledger.isTerminal id = true
  once : (turns.flatMap Turn.dispatched).Nodup
  fifo : (turns.flatMap Turn.dispatched ++ session.queue.pending).Sublist
    (turns.flatMap Turn.accepted)

/-- Tasks that leave the queue keep the order of those that are dispatched. -/
theorem Dispatching.fifo_later (dispatching : Dispatching turns session) {turn : Turn}
    (before : turn.before = session) (dispatched : turn.dispatched.Sublist turn.departed) :
    ((turns ++ [turn]).flatMap Turn.dispatched ++ turn.after.queue.pending).Sublist
      ((turns ++ [turn]).flatMap Turn.accepted) := by
  subst before
  have waited := turn.before.queue.departures_append turn.after.queue
  have waits := turn.before.queue.append_arrivals turn.after.queue
  generalize Queue.stillWaiting turn.before.queue.pending turn.after.queue.pending = kept at waited waits
  have fifo := dispatching.fifo
  simp only [List.flatMap_append, List.flatMap_singleton]
  rw [← waits, ← List.append_assoc]
  apply List.Sublist.append _ (.refl _)
  rw [← waited] at fifo
  refine .trans ?_ fifo
  rw [List.append_assoc]
  exact .append (.refl _) (dispatched.append (.refl _))

theorem Dispatching.later (dispatching : Dispatching turns session)
    (dispatched : Turn.dispatched ⟨session, input⟩ = [])
    (returned : Turn.returned ⟨session, input⟩ = [])
    (inFlight : (session.receive input).queue.inFlight = session.queue.inFlight)
    (extended : session.queue.ledger.Extends (session.receive input).queue.ledger) :
    Dispatching (turns ++ [⟨session, input⟩]) (session.receive input) where
  alternate := by
    rcases dispatching.alternate with ⟨done, marks⟩
    exact ⟨done, by simp [Turn.marks, dispatched, returned, inFlight, marks]⟩
  ended := by
    intro id member
    simp only [List.flatMap_append, List.flatMap_singleton, dispatched, List.append_nil] at member
    rw [inFlight]
    exact (dispatching.ended id member).imp_right extended.isTerminal
  once := by simpa [dispatched] using dispatching.once
  fifo := dispatching.fifo_later rfl (dispatched ▸ List.nil_sublist _)

theorem dispatching_takeStep (coherent : session.Coherent) (dispatching : Dispatching turns session) :
    Dispatching (turns ++ [⟨session, .takeStep⟩]) (session.receive .takeStep) := by
  have dispatched := dispatched_takeStep coherent
  rcases departed_takeStep coherent with ⟨-, -, skipped, departed, -⟩
  have fifo := dispatching.fifo_later rfl
    (departed ▸ List.sublist_append_right skipped (Turn.dispatched ⟨session, .takeStep⟩))
  have after : (session.receive .takeStep).queue = session.queue.next.1 := rfl
  have steps := session.queue.steps_next
  generalize session.queue.next = step at steps dispatched after
  cases steps with
  | waits =>
      exact dispatching.later dispatched rfl (by rw [after]) (after ▸ .rfl)
  | clears ended =>
      exact dispatching.later dispatched rfl (by rw [after]) (after ▸ .rfl)
  | @dispatches skipped id rest free pending ended ready =>
      have extended : session.queue.ledger.Extends (session.queue.advance id .submitted).ledger :=
        session.queue.ledger.extends_advance id _
      -- Nothing was in flight, so all that set out before has come to its end.
      have ended : ∀ other ∈ turns.flatMap Turn.dispatched,
          session.queue.ledger.isTerminal other = true := by
        intro other member
        simpa [free] using dispatching.ended other member
      refine ⟨?_, ?_, ?_, fifo⟩
      · rcases dispatching.alternate with ⟨done, marks⟩
        rw [after]
        exact ⟨done, by simp [Turn.marks, dispatched, Turn.returned, free, marks]⟩
      · intro other member
        rw [after]
        simp only [List.flatMap_append, List.flatMap_singleton, dispatched, List.mem_append,
          Option.toList_some, List.mem_singleton] at member
        rcases member with earlier | same
        · exact .inr (extended.isTerminal (ended other earlier))
        · exact .inl (congrArg some same.symm)
      · simp only [List.flatMap_append, List.flatMap_singleton, dispatched, Option.toList_some]
        refine List.nodup_append.mpr ⟨dispatching.once, by simp, ?_⟩
        rintro other earlier last member rfl
        rw [List.mem_singleton.mp member] at earlier
        simp [ended id earlier] at ready

theorem dispatching_complete (coherent : session.Coherent) (dispatching : Dispatching turns session)
    {outcome : Outcome} {id : TaskId} {ending : Progress}
    (flying : session.queue.inFlight = some id) (terminal : ending.isTerminal = true)
    {made : Task → Prop} (moves : ((session.queue.complete id).1.advance id ending).Moves [] made
      (session.receive (.complete outcome)).queue) :
    Dispatching (turns ++ [⟨session, .complete outcome⟩]) (session.receive (.complete outcome)) := by
  have inFlight := inFlight_complete coherent.sound outcome
  have extended : session.queue.ledger.Extends (session.receive (.complete outcome)).queue.ledger := by
    refine .trans ?_ moves.extends
    simpa [Queue.advance] using session.queue.ledger.extends_advance id ending
  refine ⟨?_, ?_, ?_, dispatching.fifo_later rfl (List.nil_sublist _)⟩
  · rcases dispatching.alternate with ⟨done, marks⟩
    refine ⟨done ++ [id], ?_⟩
    simp [Turn.marks, Turn.dispatched, Turn.returned, inFlight, flying, marks, roundTrip]
  · intro other member
    simp only [List.flatMap_append, List.flatMap_singleton, Turn.dispatched, List.append_nil] at member
    right
    rcases dispatching.ended other member with here | ended
    · rcases coherent.sound.inFlight_known id flying with ⟨kind, known⟩
      rcases Queue.kind?_eq_some known with ⟨task, taskKnown, -⟩
      rw [flying] at here
      rw [← Option.some.inj here]
      apply moves.extends.isTerminal
      simpa [Queue.advance] using Ledger.isTerminal_advance taskKnown terminal
    · exact extended.isTerminal ended
  · simpa [Turn.dispatched] using dispatching.once

theorem dispatching_receive (coherent : session.Coherent) (dispatching : Dispatching turns session)
    (input : Input) : Dispatching (turns ++ [⟨session, input⟩]) (session.receive input) := by
  cases queueing_receive coherent.sound input with
  | moves call moves =>
      exact dispatching.later (dispatched_of_call call) (returned_of_call call) moves.inFlight
        moves.extends
  | disconnects same =>
      exact dispatching.later rfl rfl (by simp [same]) (same ▸ session.queue.extends_disable)
  | closes same =>
      exact dispatching.later rfl rfl (by simp [same]) (same ▸ session.queue.extends_disable)
  | dispatches same => exact dispatching_takeStep coherent dispatching
  | idles free same =>
      exact dispatching.later rfl (by simp [Turn.returned, free]) (by rw [same]) (same ▸ .rfl)
  | returns id ending flying terminal moves =>
      exact dispatching_complete coherent dispatching flying terminal moves

theorem dispatching_receiveAll (options : SessionOptions) (inputs : List Input) :
    Dispatching ((new options).turns inputs) ((new options).receiveAll inputs) := by
  induction inputs using List.reverseRecOn with
  | nil => exact ⟨⟨[], rfl⟩, by simp, by simp, by simp [new]⟩
  | append_singleton inputs input induction =>
      rw [receiveAll_concat, turns_concat]
      exact dispatching_receive (coherent_receiveAll options inputs) induction input

/-! ## The order of a run -/

/-- Where tasks set out and come back by turns, the first of two that set out has come back
before the second. -/
theorem returned_between {done flying : List TaskId} (single : flying.length ≤ 1)
    {earlier between later : List Mark} {first second : TaskId}
    (marks : done.flatMap roundTrip ++ flying.map .dispatched =
      earlier ++ .dispatched first :: between ++ .dispatched second :: later) :
    .returned first ∈ between := by
  induction done generalizing earlier with
  | nil =>
      have length := congrArg List.length marks
      simp at length
      omega
  | cons id done induction =>
      simp only [List.flatMap_cons, roundTrip, List.cons_append, List.nil_append] at marks
      match earlier with
      | [] =>
          simp only [List.nil_append, List.cons_append, List.cons.injEq, Mark.dispatched.injEq] at marks
          rcases marks with ⟨rfl, rest⟩
          cases between with
          | nil => cases (List.cons.inj rest).1
          | cons mark between =>
              rw [← (List.cons.inj rest).1]
              exact List.mem_cons_self
      | [mark] =>
          simp at marks
      | mark :: next :: earlier =>
          simp only [List.cons_append, List.cons.injEq] at marks
          exact induction marks.2.2

/-- How the tasks of a run set out. -/
structure InOrder (turns : List Turn) : Prop where
  /-- Of two tasks that set out, the first has come back before the second sets out. -/
  oneAtATime : ∀ earlier first between second later, turns.flatMap Turn.marks =
    earlier ++ .dispatched first :: between ++ .dispatched second :: later →
      .returned first ∈ between
  once : (turns.flatMap Turn.dispatched).Nodup
  alive : ∀ turn ∈ turns, ∀ id ∈ turn.dispatched,
    turn.before.queue.ledger.isTerminal id = false
  fifo : (turns.flatMap Turn.dispatched).Sublist (turns.flatMap Turn.accepted)
  /-- A step accepts nothing, and passes over tasks only if they have come to their end. -/
  skipped : ∀ turn ∈ turns, turn.input = .takeStep → turn.accepted = [] ∧
    ∃ passed, turn.departed = passed ++ turn.dispatched ∧
      ∀ id ∈ passed, turn.before.queue.ledger.isTerminal id = true
  /-- Else tasks leave the queue all together and come to their end, when the session is
  disconnected or shut down, or when a reset takes the queue over. -/
  dropped : ∀ turn ∈ turns, turn.input ≠ .takeStep → turn.departed = [] ∨
    turn.departed = turn.before.queue.pending ∧
      (∀ id ∈ turn.before.queue.pending, turn.after.queue.ledger.isTerminal id = true) ∧
      (turn.input = .disconnect ∨ turn.input = .shutdown ∨ turn.after.queue.TakenOver)

theorem inOrder_turns (options : SessionOptions) (inputs : List Input) :
    InOrder ((new options).turns inputs) := by
  have coherent (turn : Turn) (member : turn ∈ (new options).turns inputs) :
      turn.before.Coherent := by
    rcases before_of_mem_turns member with ⟨earlier, before⟩
    rw [before]
    exact coherent_receiveAll options earlier
  have dispatching := dispatching_receiveAll options inputs
  refine ⟨?_, dispatching.once, ?_, (List.sublist_append_left _ _).trans dispatching.fifo, ?_, ?_⟩
  · intro earlier first between second later marks
    rcases dispatching.alternate with ⟨done, alternate⟩
    refine returned_between ?_ (alternate.symm.trans marks)
    cases ((new options).receiveAll inputs).queue.inFlight <;> simp
  · intro turn member id sets
    rcases turn with ⟨before, input⟩
    cases input with
    | takeStep => exact (departed_takeStep (coherent _ member)).1 id sets
    | _ => cases sets
  · rintro ⟨before, input⟩ member rfl
    exact (departed_takeStep (coherent _ member)).2
  · rintro ⟨before, input⟩ member unstepped
    exact departed_of_unstepped (coherent _ member) unstepped

end FlowClient.Session
