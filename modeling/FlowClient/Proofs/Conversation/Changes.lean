import FlowClient.Proofs.Connection
import FlowClient.Proofs.Conversation

/-! What becomes of the changes that a server sends. The connection keeps the cursor of every
reply it can read, and the server does not send again what lies before the cursor. The
session folds in the changes of the replies it uses; those that it drops are lost until
the definition is loaded as a whole again. -/

namespace FlowClient

/-! ## Records -/

/-- The reply to a sync whose task the session has taken back. -/
structure Receipt where
  reply : Reply
  dropped : Bool

/-- What somebody who looks on writes down of a conversation. -/
structure History where
  /-- The replies that could be read, with the tasks that asked for them, the latest first. -/
  decoded : List (TaskId × Reply) := []
  base : Definition := {}
  /-- The replies to syncs that were taken back since then. -/
  taken : List Receipt := []

namespace History

def cursor? (history : History) : Option Cursor := history.decoded.findSome? (·.2.cursor)

/-- The definition that comes of the replies that were not dropped. -/
def definition (history : History) : Definition :=
  (history.taken.filter (!·.dropped)).foldl (fun definition receipt =>
    definition.updatedBy receipt.reply) history.base

/-- Write down that a reply to a sync was taken back. One that is used, and brings a whole
definition, starts anew. -/
def takeSync (history : History) (options : SessionOptions) (receipt : Receipt) : History :=
  match receipt.dropped, receipt.reply.whole? with
  | false, some definition =>
      { history with base := definition.stamped options, taken := [receipt] }
  | _, _ => { history with taken := history.taken ++ [receipt] }

theorem definition_takeSync_dropped (history : History) (options : SessionOptions)
    {receipt : Receipt} (dropped : receipt.dropped = true) :
    (history.takeSync options receipt).definition = history.definition := by
  simp [takeSync, definition, dropped]

theorem definition_takeSync_used (history : History) (options : SessionOptions)
    {receipt : Receipt} (used : receipt.dropped = false) :
    (history.takeSync options receipt).definition =
      ((receipt.reply.whole?.map (·.stamped options)).getD history.definition).updatedBy
        receipt.reply := by
  cases whole : receipt.reply.whole? <;> simp [takeSync, definition, used, whole]

/-- Write down that a task was taken back. -/
def take (history : History) (session : Session) (id : TaskId) (outcome : Outcome) : History :=
  match session.queue.kind? id with
  | some .reset =>
      match outcome with
      | .ok reply =>
          if session.isSuperseded .reset then history
          else
            { history with
              base := (reply.definition.getD {}).stamped session.options
              taken := [] }
      | .error _ => history
  | some .sync =>
      match history.decoded.lookup id with
      | some reply =>
          history.takeSync session.options ⟨reply, session.isSuperseded .sync || !outcome.isOk⟩
      | none => history
  | _ => history

def note (history : History) (before : Conversation) : Move → History
  | .answer _ (.ok reply) =>
      match before.worker.busy with
      | some id => { history with decoded := (id, reply) :: history.decoded }
      | none => history
  | .collect =>
      match before.worker.completions with
      | (id, outcome) :: _ => history.take before.session id outcome
      | [] => history
  | _ => history

end History

namespace Conversation

/-- What was written down after some moves. -/
def history (conversation : Conversation) (moves : List Move) : History :=
  (moves.foldl (fun (seen : Conversation × History) move =>
    (seen.1.move move, seen.2.note seen.1 move)) (conversation, {})).2

@[simp] theorem history_nil (conversation : Conversation) : conversation.history [] = {} := rfl

@[simp] theorem history_concat (conversation : Conversation) (moves : List Move) (move : Move) :
    conversation.history (moves ++ [move]) =
      (conversation.history moves).note (conversation.moveAll moves) move := by
  have follows (moves : List Move) (seen : Conversation × History) :
      (moves.foldl (fun (seen : Conversation × History) move =>
        (seen.1.move move, seen.2.note seen.1 move)) seen).1 = seen.1.moveAll moves := by
    induction moves generalizing seen with
    | nil => rfl
    | cons move moves induction => exact induction _
  simp [history, follows]

open Session

/-! ## One move -/

structure Recorded (initial : Cursor) (conversation : Conversation) (history : History) : Prop where
  definition : conversation.session.definition = history.definition
  cursor : conversation.connection.cursor = history.cursor?.getD initial
  decoded : ∀ id reply, (id, .ok reply) ∈ conversation.worker.completions →
    history.decoded.lookup id = some reply

variable {initial : Cursor} {conversation : Conversation} {history : History}

theorem recorded_call (inStep : conversation.InStep)
    (recorded : Recorded initial conversation history) (input : Session.Input) :
    Recorded initial (conversation.move (.call input)) history := by
  simp only [move]
  split
  · rename_i call
    exact ⟨(definition_of_call inStep.coherent call).trans recorded.definition, recorded.cursor,
      recorded.decoded⟩
  · exact recorded

theorem completions_handTo (worker : Worker) (ids : List TaskId) :
    (handTo worker ids).completions = worker.completions := by
  induction ids generalizing worker with
  | nil => rfl
  | cons id ids induction => exact induction _

theorem recorded_step (recorded : Recorded initial conversation history) :
    Recorded initial (conversation.move .step) history where
  definition := recorded.definition
  cursor := recorded.cursor
  decoded := by
    simp only [move]
    rw [completions_handTo]
    exact recorded.decoded

theorem recorded_work (inStep : conversation.InStep)
    (recorded : Recorded initial conversation history) :
    Recorded initial (conversation.move .work) history := by
  simp only [move]
  split
  · rename_i worker stepped
    have tookUp := Worker.tookUp_step? inStep.atWork inStep.known stepped
    refine ⟨recorded.definition, recorded.cursor, ?_⟩
    intro id reply member
    rcases tookUp.completions _ member with old | ⟨failure, failed⟩
    · exact recorded.decoded id reply old
    · cases failed
  · exact recorded

/-- While a request is out, nothing waits to be taken back. -/
theorem InStep.completions_of_busy (inStep : conversation.InStep) {id : TaskId}
    (busy : conversation.worker.busy = some id) : conversation.worker.completions = [] := by
  have load := congrArg List.length inStep.load
  simp only [Worker.load, busy, List.length_append, Option.toList_some, List.length_cons,
    List.length_nil, List.length_map] at load
  have single : conversation.session.queue.inFlight.toList.length ≤ 1 := by
    cases conversation.session.queue.inFlight <;> simp
  exact List.length_eq_zero_iff.mp (by omega)

theorem recorded_answer (inStep : conversation.InStep)
    (recorded : Recorded initial conversation history) (now : Nat) (outcome : Outcome) :
    Recorded initial (conversation.move (.answer now outcome))
      (history.note conversation (.answer now outcome)) := by
  cases busy : conversation.worker.busy with
  | none =>
      have stays : history.note conversation (.answer now outcome) = history := by
        cases outcome <;> simp [History.note, busy]
      rw [stays]
      simpa [move, busy] using recorded
  | some id =>
      have moved : conversation.move (.answer now outcome) = { conversation with
          connection := (conversation.connection.receive now outcome).1
          worker := conversation.worker.finish (conversation.connection.receive now outcome).2 } := by
        simp [move, busy]
      obtain ⟨-, -, finished⟩ := Worker.finish_spec inStep.atWork busy
        (conversation.connection.receive now outcome).2
      rw [inStep.completions_of_busy busy, List.nil_append] at finished
      rw [moved]
      cases outcome with
      | error failure =>
          refine ⟨recorded.definition, recorded.cursor, ?_⟩
          intro other reply member
          rw [finished, List.mem_singleton, Prod.mk.injEq] at member
          cases member.2
      | ok reply =>
          rcases conversation.connection.receive_ok now reply with ⟨cursor, passed⟩
          have noted : history.note conversation (.answer now (.ok reply)) =
              { history with decoded := (id, reply) :: history.decoded } := by
            simp [History.note, busy]
          rw [noted]
          refine ⟨recorded.definition, ?_, fun other used member => ?_⟩
          · rw [cursor, recorded.cursor]
            cases given : reply.cursor <;> simp [History.cursor?, given]
          · rw [finished, List.mem_singleton, Prod.mk.injEq] at member
            rcases member with ⟨rfl, same⟩
            rw [passed used same.symm]
            simp

theorem definition_take (inStep : conversation.InStep)
    (recorded : Recorded initial conversation history) {id : TaskId} {outcome : Outcome}
    {rest : List (TaskId × Outcome)}
    (completions : conversation.worker.completions = (id, outcome) :: rest) :
    (conversation.session.taskCompleted id outcome).definition =
      (history.take conversation.session id outcome).definition := by
  rcases inStep.collects completions with ⟨flying, -, taken⟩
  rcases inStep.coherent.sound.inFlight_known id flying with ⟨kind, known⟩
  rw [taken, definition_complete inStep.coherent.sound flying known]
  simp only [History.take, known]
  cases outcome with
  | error failure =>
      cases kind with
      | sync =>
          cases found : history.decoded.lookup id with
          | none => simpa [found] using recorded.definition
          | some reply =>
              simp only
              rw [History.definition_takeSync_dropped _ _ (by simp [Except.isOk, Except.toBool])]
              exact recorded.definition
      | _ => exact recorded.definition
  | ok reply =>
      cases superseded : conversation.session.isSuperseded kind with
      | true =>
          cases kind with
          | sync =>
              have found := recorded.decoded id reply (completions ▸ List.mem_cons_self)
              simp only [found, superseded]
              rw [History.definition_takeSync_dropped _ _ rfl]
              exact recorded.definition
          | reset => simpa [superseded] using recorded.definition
          | _ => exact recorded.definition
      | false =>
          cases kind with
          | sync =>
              have found := recorded.decoded id reply (completions ▸ List.mem_cons_self)
              simp only [found, superseded]
              rw [History.definition_takeSync_used _ _ rfl, ← recorded.definition]
              rfl
          | reset => simp [definitionAfter, History.definition, superseded]
          | _ => exact recorded.definition

theorem decoded_take (history : History) (session : Session) (id : TaskId) (outcome : Outcome) :
    (history.take session id outcome).decoded = history.decoded := by
  unfold History.take
  split
  · split
    · split <;> rfl
    · rfl
  · split
    · rw [History.takeSync]
      split <;> rfl
    · rfl
  · rfl

theorem recorded_collect (inStep : conversation.InStep)
    (recorded : Recorded initial conversation history) :
    Recorded initial (conversation.move .collect) (history.note conversation .collect) := by
  cases completions : conversation.worker.completions with
  | nil => simpa [move, History.note, completions] using recorded
  | cons completion rest =>
      rcases completion with ⟨id, outcome⟩
      have moved : conversation.move .collect = { conversation with
          worker := { conversation.worker with completions := rest }
          session := conversation.session.taskCompleted id outcome } := by
        simp [move, completions]
      have noted : history.note conversation .collect =
          history.take conversation.session id outcome := by
        simp [History.note, completions]
      have decoded := decoded_take history conversation.session id outcome
      rw [moved, noted]
      refine ⟨definition_take inStep recorded completions, ?_, ?_⟩
      · rw [History.cursor?, decoded]
        exact recorded.cursor
      · intro other reply member
        rw [decoded]
        exact recorded.decoded other reply (completions ▸ List.mem_cons_of_mem _ member)

theorem recorded_move (inStep : conversation.InStep)
    (recorded : Recorded initial conversation history) (move : Move) :
    Recorded initial (conversation.move move) (history.note conversation move) := by
  cases move with
  | call input => exact recorded_call inStep recorded input
  | step => exact recorded_step recorded
  | work => exact recorded_work inStep recorded
  | answer now outcome => exact recorded_answer inStep recorded now outcome
  | collect => exact recorded_collect inStep recorded

theorem recorded_moveAll (options : SessionOptions) (connection : Connection) (moves : List Move) :
    Recorded connection.cursor ((start options connection).moveAll moves)
      ((start options connection).history moves) := by
  induction moves using List.reverseRecOn with
  | nil => exact ⟨definition_reset (new options), rfl, by simp [start]⟩
  | append_singleton moves move induction =>
      rw [moveAll_concat, history_concat]
      exact recorded_move (inStep_moveAll options connection moves) induction move

/-! ## A load and a change -/

def sampleConnection : Connection :=
  { settings := { host := "localhost", port := "3141" }, credential := .token "secret" }

/-- The session has its task dispatched, and takes the reply. -/
def answered (reply : Reply) : List Move := [.step, .work, .answer 0 (.ok reply), .collect]

/-- Everything is loaded, and the server has news. A sync is on its way. -/
def asksForChanges : List Move :=
  answered { definition := some oneSuite, cursor := some ⟨1, 1, 1⟩ } ++
    answered { lines := ["s1"] } ++ [.call .refresh] ++ answered { news := some .news } ++
    [.step, .work]

def change : Reply :=
  { changes := [{ path := "/s1", state := some .active }], cursor := some ⟨1, 2, 2⟩ }

def takesChanges : List Move := asksForChanges ++ [.answer 0 (.ok change), .collect]

/-! ## Lost changes -/

/-- The definition is what the replies to syncs make of it that were taken back since it was
loaded as a whole and were not dropped, in the order in which they were taken. So there
is nothing missing of what lies before the cursor just if no reply was dropped: not one
was taken while a reset was on its way, or while the session was disconnected or shutting
down, and not one told of an error. -/
theorem definition_of_taken (options : SessionOptions) (connection : Connection)
    (moves : List Move) :
    ((start options connection).moveAll moves).session.definition =
        (((start options connection).history moves).taken.filter (!·.dropped)).foldl
          (fun definition receipt => definition.updatedBy receipt.reply)
          ((start options connection).history moves).base ∧
      ((start options connection).moveAll moves).connection.cursor =
        ((start options connection).history moves).cursor?.getD connection.cursor ∧
      ((∀ receipt ∈ ((start options connection).history moves).taken, receipt.dropped = false) →
        ((start options connection).moveAll moves).session.definition =
          ((start options connection).history moves).taken.foldl
            (fun definition receipt => definition.updatedBy receipt.reply)
            ((start options connection).history moves).base) := by
  have recorded := recorded_moveAll options connection moves
  refine ⟨recorded.definition, recorded.cursor, ?_⟩
  intro kept
  rw [recorded.definition, History.definition, List.filter_eq_self.mpr]
  intro receipt member
  simp [kept receipt member]

theorem definition_of_takesChanges :
    (∀ receipt ∈ ((start sampleOptions sampleConnection).history takesChanges).taken,
        receipt.dropped = false) ∧
      ((start sampleOptions sampleConnection).moveAll takesChanges).session.definition =
        ((start sampleOptions sampleConnection).history takesChanges).taken.foldl
          (fun definition receipt => definition.updatedBy receipt.reply)
          ((start sampleOptions sampleConnection).history takesChanges).base :=
  ⟨by decide +kernel,
    (definition_of_taken sampleOptions sampleConnection takesChanges).2.2 (by decide +kernel)⟩

/-- The session is disconnected while the changes come, and connected again. -/
def missesChanges : List Move :=
  asksForChanges ++ [.call .disconnect, .answer 0 (.ok change), .collect, .call .connect] ++
    answered { news := some .noNews }

theorem stale_of_missesChanges :
    ((start sampleOptions sampleConnection).moveAll missesChanges).session.contact = .normal ∧
      ((start sampleOptions sampleConnection).moveAll missesChanges).session.mirror.isEmpty = false ∧
      ((start sampleOptions sampleConnection).moveAll missesChanges).connection.cursor = ⟨1, 2, 2⟩ ∧
      ((start sampleOptions sampleConnection).history missesChanges).taken.map (·.dropped) = [true] ∧
      ((start sampleOptions sampleConnection).moveAll missesChanges).session.definition.state =
        .unknown := by
  decide +kernel

end Conversation

end FlowClient
