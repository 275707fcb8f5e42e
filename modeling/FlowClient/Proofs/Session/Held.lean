import FlowClient.Proofs.Queue.Held
import FlowClient.Proofs.Session.Dispatch

/-! What callers of a session hold: the tasks that they made, the tasks that their calls gave
them, and the tasks that they were told to dispatch. A caller can name no other task. -/

namespace FlowClient.Session

/-- The tasks that callers come to hold in a turn. -/
def Turn.shared (turn : Turn) : List TaskId :=
  match turn.input with
  | .make _ _ _ => [turn.before.queue.ledger.size]
  | .runCommand args => (turn.before.runCommand args).2.toList
  | .update => turn.before.update.2.toList
  | .takeStep => turn.dispatched
  | _ => []

/-- Whether callers that hold some tasks to begin with name only tasks that they hold. -/
def namesHeld (held : List TaskId) : List Turn → Bool
  | [] => true
  | turn :: turns =>
      turn.input.named.all held.contains && namesHeld (held ++ turn.shared) turns

@[simp] theorem namesHeld_concat (held : List TaskId) (turns : List Turn) (turn : Turn) :
    namesHeld held (turns ++ [turn]) = (namesHeld held turns &&
      turn.input.named.all (held ++ turns.flatMap Turn.shared).contains) := by
  induction turns generalizing held with
  | nil => simp [namesHeld]
  | cons head turns induction =>
      rw [List.cons_append, namesHeld, namesHeld, induction, Bool.and_assoc, List.flatMap_cons,
        List.append_assoc]

variable {session : Session} {input : Input} {turns : List Turn}

/-! ## One turn -/

theorem kind?_add_new (queue : Queue) (task : Task) :
    (queue.add task).1.kind? queue.ledger.size = some task.kind :=
  Queue.kind?_extends (Queue.extends_submit _ _) (queue.kind?_enter_new task)

theorem add_eq_some {queue : Queue} {task : Task} {id : TaskId}
    (added : (queue.add task).2 = some id) : id = queue.ledger.size := by
  have given : (queue.add task).2 =
      if ((queue.enter task).1.submit queue.ledger.size).2 then some queue.ledger.size
      else none := rfl
  rw [given] at added
  split at added
  · exact (Option.some.inj added).symm
  · cases added

/-- That callers may come to hold a task: it is known, and tells nothing of the filter if it
waits. -/
def MayShare (queue : Queue) (id : TaskId) : Prop :=
  id < queue.ledger.size ∧
    (id ∈ queue.pending → ∀ kind, queue.kind? id = some kind → kind.tells = false)

theorem mayShare_add (queue : Queue) (task : Task) (silent : task.kind.tells = false) :
    MayShare (queue.add task).1 queue.ledger.size := by
  have known := kind?_add_new queue task
  refine ⟨Queue.lt_size_of_kind? known, fun _ kind kindKnown => ?_⟩
  rw [known] at kindKnown
  exact Option.some.inj kindKnown ▸ silent

/-- What a call gives to callers has just been made. -/
theorem mayShare_of_call (sound : session.queue.Sound) (call : input.isCall = true) {id : TaskId}
    (shared : id ∈ Turn.shared ⟨session, input⟩) : MayShare (session.receive input).queue id := by
  cases input with
  | make kind args params =>
      rw [List.mem_singleton.mp shared]
      refine ⟨?_, fun member => absurd member sound.fresh⟩
      simp [receive, enter, Queue.enter, Ledger.add, Ledger.size]
  | runCommand args =>
      simp only [Turn.shared] at shared
      by_cases disconnected : session.contact = .disconnected
      · simp [runCommand, disconnected] at shared
      · have new : id = session.queue.ledger.size := by
          simpa [runCommand, disconnected, enter, Queue.enter] using shared
        rw [new, receive, runCommand, if_neg disconnected]
        exact mayShare_add session.queue (Task.command args) rfl
  | update =>
      simp only [Turn.shared] at shared
      by_cases disconnected : session.contact = .disconnected
      · simp [update, disconnected] at shared
      · rw [update, if_neg disconnected] at shared
        rw [add_eq_some (Option.mem_toList.mp shared), receive, update, if_neg disconnected]
        exact mayShare_add session.queue { kind := .news } rfl
  | takeStep => cases call
  | complete outcome => cases call
  | _ => cases shared

theorem reports_unbegun {filter : SuiteFilter} (task : Task) (reports : task.Reports filter) :
    task.progress = .pending := reports.unbegun

/-- Callers who name only what they hold leave the queue in order. -/
theorem tended_receive (coherent : session.Coherent) {held : List TaskId}
    (tended : session.queue.Tended held) (given : ∀ id ∈ input.named, id ∈ held) :
    (session.receive input).queue.Tended (held ++ Turn.shared ⟨session, input⟩) := by
  have sound := coherent.sound
  cases queueing_receive sound input with
  | moves call moves =>
      refine (tended.move sound reports_unbegun moves given).share ?_ ?_
      · exact fun id shared => (mayShare_of_call sound call shared).1
      · exact fun id shared => (mayShare_of_call sound call shared).2
  | disconnects same => simpa [same, Turn.shared] using tended.disable
  | closes same => simpa [same, Turn.shared] using tended.disable
  | dispatches same =>
      rw [same, Turn.shared, dispatched_takeStep coherent]
      exact tended.next sound
  | idles free same => simpa [same, Turn.shared] using tended
  | returns id ending flying terminal moves =>
      have returnedSound := (sound.complete flying).advance id ending
      simpa [Turn.shared] using
        (tended.returned sound flying ending).move returnedSound reports_unbegun moves (by simp)

/-! ## Runs -/

theorem tended_receiveAll (options : SessionOptions) {inputs : List Input}
    (named : namesHeld [] ((new options).turns inputs) = true) :
    ((new options).receiveAll inputs).queue.Tended
      (((new options).turns inputs).flatMap Turn.shared) := by
  induction inputs using List.reverseRecOn with
  | nil => exact Queue.tended_new
  | append_singleton inputs input induction =>
      rw [turns_concat, namesHeld_concat, Bool.and_eq_true, List.nil_append, List.all_eq_true]
        at named
      rw [receiveAll_concat, turns_concat, List.flatMap_append, List.flatMap_singleton]
      refine tended_receive (coherent_receiveAll options inputs) (induction named.1) ?_
      intro id member
      simpa using named.2 id member

end FlowClient.Session
