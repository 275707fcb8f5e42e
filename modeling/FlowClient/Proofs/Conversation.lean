import FlowClient.Connection
import FlowClient.Live.Worker
import FlowClient.Proofs.Queue.Waiting
import FlowClient.Proofs.Session.Definitions

/-! A session in conversation with its server: the session, the worker that it hands its
tasks to, and the connection over which the worker sends their requests. Whatever the
order in which they move, there is at most one task on its way, and the session takes
back the one that it waits for. -/

namespace FlowClient

/-! ## Moves -/

structure Conversation where
  session : Session
  worker : Worker := {}
  connection : Connection

inductive Move where
  /-- A caller or the timer turns to the session. -/
  | call (input : Session.Input)
  /-- The session is asked what is to be done, and what it dispatches is handed on. -/
  | step
  /-- The worker takes up what it was told. -/
  | work
  /-- The attempt at the request that is out comes to something. -/
  | answer (now : Nat) (outcome : Outcome)
  | collect

namespace Conversation

/-- A conversation begins with a reset. -/
def start (options : SessionOptions) (connection : Connection) : Conversation where
  session := (Session.new options).reset
  connection := connection

def handTo (worker : Worker) (ids : List TaskId) : Worker :=
  ids.foldl (fun worker id => worker.tell (.run id)) worker

def move (conversation : Conversation) : Move → Conversation
  | .call input =>
      if input.isCall then { conversation with session := conversation.session.receive input }
      else conversation
  | .step =>
      let (session, step) := conversation.session.takeStep
      { conversation with
        session
        worker := handTo conversation.worker (step.commands.filterMap SessionCommand.task?) }
  | .work =>
      match conversation.worker.step? conversation.session.queue.ledger with
      | some worker => { conversation with worker }
      | none => conversation
  | .answer now outcome =>
      match conversation.worker.busy with
      | some _ =>
          let (connection, outcome) := conversation.connection.receive now outcome
          { conversation with connection, worker := conversation.worker.finish outcome }
      | none => conversation
  | .collect =>
      match conversation.worker.completions with
      | (id, outcome) :: rest =>
          { conversation with
            worker := { conversation.worker with completions := rest }
            session := conversation.session.taskCompleted id outcome }
      | [] => conversation

def moveAll (conversation : Conversation) (moves : List Move) : Conversation :=
  moves.foldl move conversation

@[simp] theorem moveAll_nil (conversation : Conversation) : conversation.moveAll [] = conversation :=
  rfl

@[simp] theorem moveAll_concat (conversation : Conversation) (moves : List Move) (move : Move) :
    conversation.moveAll (moves ++ [move]) = (conversation.moveAll moves).move move := by
  simp [moveAll]

end Conversation

/-! ## What a worker has -/

namespace Worker

@[simp] def taskOf? : WorkerMessage → Option TaskId
  | .run id => some id
  | .setCredential _ => none

/-- The tasks that a worker was handed and the session has not taken back. -/
def load (worker : Worker) : List TaskId :=
  worker.mailbox.filterMap taskOf? ++ worker.busy.toList ++ worker.completions.map (·.1)

/-- A worker at its work, with the session there to listen. -/
structure AtWork (worker : Worker) : Prop where
  isOpen : worker.isOpen = true
  isHeard : worker.isHeard = true
  running : worker.running = true

variable {worker next : Worker} {ledger : Ledger}

/-- What holds of a worker that has taken up a message: no task has been lost, and new
outcomes are failures, since no request has been sent for them. -/
structure TookUp (worker next : Worker) : Prop where
  atWork : next.AtWork
  load : next.load.Perm worker.load
  completions : ∀ completion ∈ next.completions, completion ∈ worker.completions ∨
    ∃ failure, completion.2 = .error failure

theorem tookUp_step? (atWork : worker.AtWork)
    (known : ∀ id ∈ worker.load, (ledger.get? id).isSome = true)
    (stepped : worker.step? ledger = some next) : worker.TookUp next := by
  rcases atWork with ⟨isOpen, isHeard, running⟩
  rw [step?] at stepped
  split at stepped
  · cases stepped
  rename_i free
  have idle : worker.busy = none := by simpa [running] using free
  split at stepped
  · rename_i id rest mailbox
    have member : id ∈ worker.load := by simp [load, mailbox]
    split at stepped
    · cases stepped
      refine ⟨⟨isOpen, isHeard, running⟩, ?_, fun _ old => .inl old⟩
      simp [load, perform, mailbox, idle]
    · rename_i failure request
      cases stepped
      have reported : ({ worker with mailbox := rest } : Worker).report id (.error failure) =
          { worker with
            mailbox := rest
            completions := worker.completions ++ [(id, .error failure)] } := by
        simp [report, isHeard]
      rw [reported]
      refine ⟨⟨isOpen, isHeard, running⟩, ?_, ?_⟩
      · simp only [load, mailbox, idle, List.filterMap_cons, taskOf?, Option.toList_none,
          List.append_nil, List.map_append, List.map_cons, List.map_nil, List.cons_append]
        rw [← List.append_assoc]
        exact List.perm_append_singleton id _
      · intro completion later
        rcases List.mem_append.mp later with old | new
        · exact .inl old
        · exact .inr ⟨failure, by rw [List.mem_singleton.mp new]⟩
    · rename_i missing
      have found := known id member
      simp [Option.map_eq_none_iff.mp missing] at found
  · rename_i credential rest mailbox
    cases stepped
    refine ⟨⟨isOpen, isHeard, running⟩, ?_, fun _ old => .inl old⟩
    simp [load, perform, mailbox, List.filterMap_cons]
  · simp at stepped

/-- A worker that brings something back, and has just the task in flight, has nothing else. -/
theorem load_of_completions {flying : Option TaskId} (load : worker.load = flying.toList)
    {id : TaskId} {outcome : Outcome} {rest : List (TaskId × Outcome)}
    (completions : worker.completions = (id, outcome) :: rest) :
    flying = some id ∧ rest = [] ∧ ({ worker with completions := rest } : Worker).load = [] := by
  simp only [Worker.load, completions, List.map_cons] at load
  cases flying with
  | none => simp at load
  | some other =>
      rw [Option.toList_some, List.append_eq_singleton_iff] at load
      rcases load with ⟨none, single⟩ | ⟨-, none⟩
      · simp only [List.cons.injEq, List.map_eq_nil_iff] at single
        rcases single with ⟨rfl, rfl⟩
        exact ⟨rfl, rfl, by simpa [Worker.load] using none⟩
      · cases none

/-- A worker that was handed a task has it, and is at its work as before. -/
theorem tell_spec (worker : Worker) (id : TaskId) :
    (worker.tell (.run id)).load.Perm (id :: worker.load) ∧
      (worker.AtWork → (worker.tell (.run id)).AtWork) ∧
      (worker.tell (.run id)).completions = worker.completions := by
  refine ⟨?_, fun atWork => ⟨atWork.isOpen, atWork.isHeard, atWork.running⟩, rfl⟩
  simp [load, tell]

/-- The outcome of the request that is out is kept until the session takes it. -/
theorem finish_spec {id : TaskId} (atWork : worker.AtWork) (busy : worker.busy = some id)
    (outcome : Outcome) : (worker.finish outcome).AtWork ∧
      (worker.finish outcome).load.Perm worker.load ∧
      (worker.finish outcome).completions = worker.completions ++ [(id, outcome)] := by
  have finished : worker.finish outcome = { worker with
      busy := none, completions := worker.completions ++ [(id, outcome)] } := by
    simp [finish, report, busy, atWork.isHeard]
  rw [finished]
  refine ⟨⟨atWork.isOpen, atWork.isHeard, atWork.running⟩, ?_, rfl⟩
  simp only [load, busy, Option.toList_none, Option.toList_some, List.append_nil, List.map_append,
    List.map_cons, List.map_nil, List.append_assoc]
  exact .append_left _ (List.perm_append_singleton id _)

end Worker

/-! ## One task on its way -/

theorem known_of_load {queue : Queue} (sound : queue.Sound) {ids : List TaskId}
    (load : ids = queue.inFlight.toList) : ∀ id ∈ ids, (queue.ledger.get? id).isSome = true := by
  intro id member
  rw [load, Option.mem_toList] at member
  rcases sound.inFlight_known id member with ⟨kind, known⟩
  rcases Queue.kind?_eq_some known with ⟨task, taskKnown, -⟩
  simp [taskKnown]

theorem eq_toList_of_perm {α : Type} {items : List α} {item? : Option α}
    (perm : items.Perm item?.toList) : items = item?.toList := by
  cases item? with
  | none => exact List.perm_nil.mp perm
  | some item => exact List.perm_singleton.mp perm

namespace Conversation

variable {conversation : Conversation}

/-- What holds of a conversation at all times: the worker has just the task that the
session has in flight. -/
structure InStep (conversation : Conversation) : Prop where
  coherent : conversation.session.Coherent
  atWork : conversation.worker.AtWork
  load : conversation.worker.load = conversation.session.queue.inFlight.toList

theorem InStep.known (inStep : conversation.InStep) :
    ∀ id ∈ conversation.worker.load,
      (conversation.session.queue.ledger.get? id).isSome = true :=
  known_of_load inStep.coherent.sound inStep.load

/-- What the worker brings back is the task in flight, and there is nothing else. -/
theorem InStep.collects (inStep : conversation.InStep) {id : TaskId} {outcome : Outcome}
    {rest : List (TaskId × Outcome)} (completions : conversation.worker.completions = (id, outcome) :: rest) :
    conversation.session.queue.inFlight = some id ∧ rest = [] ∧
      conversation.session.taskCompleted id outcome =
        conversation.session.receive (.complete outcome) := by
  rcases Worker.load_of_completions inStep.load completions with ⟨flying, empty, -⟩
  exact ⟨flying, empty, (Session.receive_complete flying outcome).symm⟩

theorem inStep_call (inStep : conversation.InStep) (input : Session.Input) :
    (conversation.move (.call input)).InStep := by
  simp only [move]
  split
  · rename_i call
    refine ⟨Session.coherent_receive inStep.coherent input, inStep.atWork, ?_⟩
    exact inStep.load.trans (by rw [Session.inFlight_of_call inStep.coherent.sound input call])
  · exact inStep

theorem inStep_step (inStep : conversation.InStep) : (conversation.move .step).InStep := by
  have coherent : conversation.session.takeStep.1.Coherent :=
    Session.coherent_receive inStep.coherent .takeStep
  have asked := Session.asked_takeStep inStep.coherent
  have queue : conversation.session.takeStep.1.queue = conversation.session.queue.next.1 := rfl
  have load := inStep.load
  have steps := conversation.session.queue.steps_next
  simp only [move]
  rw [asked]
  generalize conversation.session.queue.next = step at steps queue
  cases steps with
  | waits => exact ⟨coherent, inStep.atWork, load.trans (by rw [queue])⟩
  | clears ended => exact ⟨coherent, inStep.atWork, load.trans (by rw [queue])⟩
  | @dispatches skipped id rest free pending ended ready =>
      rcases conversation.worker.tell_spec id with ⟨perm, atWork, -⟩
      refine ⟨coherent, atWork inStep.atWork, ?_⟩
      rw [load, free] at perm
      simp only [queue]
      exact eq_toList_of_perm perm

theorem inStep_work (inStep : conversation.InStep) : (conversation.move .work).InStep := by
  simp only [move]
  split
  · rename_i worker stepped
    have tookUp := Worker.tookUp_step? inStep.atWork inStep.known stepped
    exact ⟨inStep.coherent, tookUp.atWork, eq_toList_of_perm (inStep.load ▸ tookUp.load)⟩
  · exact inStep

theorem inStep_answer (inStep : conversation.InStep) (now : Nat) (outcome : Outcome) :
    (conversation.move (.answer now outcome)).InStep := by
  simp only [move]
  split
  · rename_i id busy
    obtain ⟨atWork, load, -⟩ := Worker.finish_spec inStep.atWork busy
      (conversation.connection.receive now outcome).2
    exact ⟨inStep.coherent, atWork, eq_toList_of_perm (inStep.load ▸ load)⟩
  · exact inStep

theorem inStep_collect (inStep : conversation.InStep) : (conversation.move .collect).InStep := by
  simp only [move]
  split
  · rename_i id outcome rest completions
    rcases inStep.collects completions with ⟨-, -, taken⟩
    rcases Worker.load_of_completions inStep.load completions with ⟨-, -, empty⟩
    refine ⟨?_, ⟨inStep.atWork.isOpen, inStep.atWork.isHeard, inStep.atWork.running⟩, ?_⟩
    · simp only [taken]
      exact Session.coherent_receive inStep.coherent _
    · simp only [taken, Session.inFlight_complete inStep.coherent.sound outcome]
      exact empty
  · exact inStep

theorem inStep_move (inStep : conversation.InStep) (move : Move) : (conversation.move move).InStep := by
  cases move with
  | call input => exact inStep_call inStep input
  | step => exact inStep_step inStep
  | work => exact inStep_work inStep
  | answer now outcome => exact inStep_answer inStep now outcome
  | collect => exact inStep_collect inStep

theorem inStep_start (options : SessionOptions) (connection : Connection) :
    (start options connection).InStep where
  coherent := Session.coherent_receive (Session.coherent_new options) .reset
  atWork := ⟨rfl, rfl, rfl⟩
  load := (congrArg Option.toList
    (Session.inFlight_of_call (Session.coherent_new options).sound .reset rfl)).symm

theorem inStep_moveAll (options : SessionOptions) (connection : Connection) (moves : List Move) :
    ((start options connection).moveAll moves).InStep := by
  induction moves using List.reverseRecOn with
  | nil => exact inStep_start options connection
  | append_singleton moves move induction =>
      rw [moveAll_concat]
      exact inStep_move induction move

end Conversation

end FlowClient
