import FlowClient.Proofs.Session.Dispatch
import FlowClient.Proofs.Session.Failures
import FlowClient.Proofs.Session.Timers

/-! A task that is dispatched and fails at once. The queue is then as it was, but for what waited
up to that task and for the end that the task has come to; so whoever goes on like this comes to
an end of what waits. -/

namespace FlowClient

/-! ## Queues that were not opened yet -/

namespace Queue

variable {queue before after : Queue} {named : List TaskId} {made : Task → Prop}

/-- A queue that is suspended has no reset on its way. -/
def Opens (queue : Queue) : Prop := queue.mode = .suspended → queue.resetting = none

theorem Opens.move (opens : before.Opens) (moves : before.Moves named made after) : after.Opens := by
  intro suspended
  have kept : before.mode = .suspended := by
    rcases moves.mode with same | running
    · exact same.symm.trans suspended
    · cases suspended.symm.trans running
  rcases moves with ⟨middle, adjusts, acts⟩
  have middleOpen : middle.resetting = none := adjusts.keeps.2.2.trans (opens kept)
  cases acts with
  | nothing => exact middleOpen
  | submit => exact (middle.submit_frame _).2.2.trans middleOpen
  | @add task => exact (middle.add_frame task).2.2.trans middleOpen
  | @load task =>
      by_cases disabled : middle.mode = .disabled
      · simp [reset, enter, advance, disabled] at suspended
      · have running := (reset_frame (middle.enter task).1 middle.ledger.size disabled).1
        cases suspended.symm.trans running

theorem state_of_opens (opens : queue.Opens) (unsuspended : queue.state ≠ .suspended) :
    queue.mode ≠ .suspended := by
  intro suspended
  simp [state, suspended, opens suspended] at unsuspended

/-- A queue that hands nothing out, though nothing is in flight, has come to the end of what
waits, or hands nothing out at all. -/
theorem next_of_unasked (free : queue.inFlight = none) (unasked : queue.next.2 = none) :
    queue.mode = .running ∧ queue.next.1 = { queue with pending := [] } ∧
        (∀ id ∈ queue.pending, queue.ledger.isTerminal id = true) ∨
      queue.mode ≠ .running ∧ queue.next.1 = queue := by
  by_cases running : queue.mode = .running
  · left
    have goesOn : (queue.mode = .running && queue.inFlight.isNone) = true := by
      simp [running, free]
    rw [next, if_pos goesOn] at unasked ⊢
    cases waiting : queue.pending.dropWhile queue.ledger.isTerminal with
    | nil => exact ⟨running, rfl, List.dropWhile_eq_nil_iff.mp waiting⟩
    | cons id rest => simp [waiting] at unasked
  · exact .inr ⟨running, by simp [next, running]⟩

end Queue

namespace Session

variable {session : Session} {id other : TaskId} {failure : Failure}

theorem opens_receive (sound : session.queue.Sound) (opens : session.queue.Opens) (input : Input) :
    (session.receive input).queue.Opens := by
  cases queueing_receive sound input with
  | moves call moves => exact opens.move moves
  | disconnects same | closes same =>
      intro suspended
      simp [same] at suspended
  | dispatches same =>
      intro suspended
      have frame := session.queue.next_frame
      rw [same] at suspended ⊢
      exact frame.2.trans (opens (frame.1.symm.trans suspended))
  | idles free same => exact same ▸ opens
  | @returns outcome other ending flying terminal moves =>
      have mode : (session.queue.complete other).1.mode = session.queue.mode := by
        simp [Queue.complete, flying]
      have returned : ((session.queue.complete other).1.advance other ending).Opens := by
        intro suspended
        have none : session.queue.resetting = none := opens (mode.symm.trans suspended)
        rcases session.queue.resetting_completed other with same | gone
        · exact same.trans none
        · exact gone
      exact returned.move moves

theorem opens_receiveAll (options : SessionOptions) (inputs : List Input) :
    ((new options).receiveAll inputs).queue.Opens := by
  induction inputs using List.reverseRecOn with
  | nil => exact fun _ => rfl
  | append_singleton inputs input induction =>
      rw [receiveAll_concat]
      exact opens_receive (coherent_receiveAll options inputs).sound induction input

/-! ## One attempt -/

/-- The session after the task that it dispatched has failed. -/
def attempt (session : Session) (failure : Failure) : Session :=
  session.receiveAll [.takeStep, .complete (.error failure)]

theorem attempt_of_asked (asked : session.queue.next.2 = some id) (failure : Failure) :
    session.attempt failure = session.takeStep.1.taskCompleted id (.error failure) :=
  receive_complete (inFlight_takeStep asked).2 (.error failure)

theorem minds_attempt (session : Session) (failure : Failure) :
    session.takeStep.1.Minds (session.attempt failure) := by
  have unstepped : Input.complete (.error failure) ≠ .takeStep := nofun
  exact minds_receive unstepped

/-- What becomes of a session whose dispatch of a task fails. -/
structure Attempted (session : Session) (id : TaskId) (failure : Failure) (after : Session) :
    Prop where
  running : session.queue.mode = .running
  ready : session.queue.ledger.isTerminal id = false
  /-- Tasks that have come to their end are passed over. -/
  waiting : ∃ skipped, session.queue.pending = skipped ++ id :: after.queue.pending ∧
    ∀ other ∈ skipped, session.queue.ledger.isTerminal other = true
  idle : after.queue.inFlight = none
  mode : after.queue.mode = session.queue.mode
  aborted : after.queue.ledger.progress? id = some (.aborted failure.text)
  spared : ∀ other, other ≠ id → after.queue.task? other = session.queue.task? other

theorem mode_of_asked {queue : Queue} (asked : queue.next.2 = some id) : queue.mode = .running := by
  rw [Queue.next] at asked
  split at asked
  · rename_i free
    simp only [Bool.and_eq_true, decide_eq_true_eq] at free
    exact free.1
  · cases asked

theorem queue_attempt (sound : session.queue.Sound) (asked : session.queue.next.2 = some id)
    (failure : Failure) : (session.attempt failure).queue =
      (session.queue.next.1.complete id).1.advance id (.aborted failure.text) := by
  have stepped : session.takeStep.1.queue.Sound := sound.next
  rcases inFlight_takeStep asked with ⟨-, flying⟩
  rcases stepped.inFlight_known id flying with ⟨kind, known⟩
  rw [attempt_of_asked asked, (spares_taskCompleted known failure).queue]
  rfl

theorem attempted_of_asked (sound : session.queue.Sound) (asked : session.queue.next.2 = some id)
    (failure : Failure) : session.Attempted id failure (session.attempt failure) := by
  have running := mode_of_asked asked
  have queue := queue_attempt sound asked failure
  have steps := session.queue.steps_next
  generalize session.queue.next = step at steps asked queue
  cases steps with
  | waits | clears => cases asked
  | @dispatches skipped first rest free pending ended ready =>
      cases asked
      rcases sound.pending_known id (by simp [pending]) with ⟨kind, known⟩
      rcases Queue.kind?_eq_some known with ⟨task, taskKnown, -⟩
      have taskKnown : session.queue.ledger.get? id = some task := taskKnown
      have going : task.progress.isTerminal = false := by
        simpa [Ledger.isTerminal, taskKnown, Task.isTerminal] using ready
      have ledger : (session.attempt failure).queue.ledger =
          (session.queue.ledger.advance id .submitted).advance id (.aborted failure.text) := by
        rw [queue]
        simp [Queue.complete, Queue.advance]
      refine ⟨running, ready, ⟨skipped, ?_, ended⟩, ?_, ?_, ?_, ?_⟩
      · rw [queue]
        simpa [Queue.complete, Queue.advance] using pending
      · rw [queue]
        simp [Queue.complete, Queue.advance]
      · rw [queue]
        simp [Queue.complete, Queue.advance]
      · have before : session.queue.ledger.progress? id = some task.progress := by
          simp [Ledger.progress?, taskKnown]
        have submitted : task.progress.advance .submitted = .submitted := by
          simp [Progress.advance, going]
        rw [ledger, Ledger.progress?_advance, Ledger.progress?_advance, before, Option.map_some,
          Option.map_some, submitted]
        rfl
      · intro other different
        rw [Queue.task?, ledger, Ledger.get?_advance_other _ different,
          Ledger.get?_advance_other _ different]
        rfl

end Session

end FlowClient
