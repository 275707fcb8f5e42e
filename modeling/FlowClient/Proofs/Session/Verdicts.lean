import FlowClient.Proofs.Session.Effects

/-! What a session holds of its server, read off its history alone. A caller gives the
connection up and takes it up again; apart from that only an outcome that still counts says
anything of the server, and which kinds of tasks say what stands in one table. -/

namespace FlowClient

/-! ## Verdicts -/

/-- What the outcome of a task says of the server, if it says anything. A reset or news that
succeed show that it answers. A poll or a reset that fails shows that it does not, and so does
any failure but a refusal, which concerns the request alone. -/
def TaskKind.verdict? (kind : TaskKind) : Outcome → Option Contact
  | .ok _ =>
      match kind with
      | .reset => some .normal
      | .news => some .normal
      | _ => none
  | .error failure =>
      match kind, failure.cause with
      | .news, _ => some (.lost (some failure.text))
      | .sync, _ => some (.lost (some failure.text))
      | .stats, _ => some (.lost (some failure.text))
      | .reset, _ => some (.lost (some failure.text))
      | _, .rejected _ => none
      | _, _ => some (.lost (some failure.text))

/-- A server that refuses a command is there. One that refuses a poll is as good as lost. -/
example : TaskKind.command.verdict? (.error (.invalidArgument "no such suite")) = none ∧
    TaskKind.news.verdict? (.error (.invalidArgument "not now")) =
      some (.lost (some "rejected (InvalidArgument): not now")) := by decide

namespace Session

/-- Whether an outcome that comes in now still counts, for somebody who holds `contact` of the
server: it does not while a reset is to replace all it could bring. -/
def heeds (session : Session) (contact : Contact) (kind : TaskKind) : Bool :=
  contact != .disconnected && !session.shuttingDown &&
    (kind == .reset || session.queue.resetting.isNone)

/-- What somebody holds of the server after a turn who held `contact` of it before. -/
def Turn.judge (contact : Contact) (turn : Turn) : Contact :=
  match turn.input with
  | .disconnect => .disconnected
  | .connect =>
      if contact = .disconnected && !turn.before.shuttingDown then .lost none else contact
  | .complete outcome =>
      match turn.before.flyingKind? with
      | some kind =>
          if turn.before.heeds contact kind then (kind.verdict? outcome).getD contact else contact
      | none => contact
  | _ => contact

variable {session : Session} {id : TaskId}

/-! ## Calls -/

@[simp] theorem contact_reset (session : Session) : session.reset.contact = session.contact := by
  rcases session.reset_cases with ⟨-, stays⟩ | ⟨-, -, -, setsOut⟩
  · rw [stays]
  · rw [setsOut]
    simp [emptied]

@[simp] theorem contact_advance (session : Session) (id : TaskId) (next : Progress) :
    (session.advance id next).contact = session.contact := rfl

@[simp] theorem contact_follow (session : Session) (task : Task) :
    (session.follow task).contact = session.contact := rfl

@[simp] theorem contact_update (session : Session) : session.update.1.contact = session.contact := by
  rw [update]
  split <;> rfl

theorem contact_runCommand (session : Session) (args : List String) :
    (session.runCommand args).1.contact = session.contact := by
  rw [runCommand]
  split <;> rfl

theorem contact_run (session : Session) (id : TaskId) :
    (session.run id).contact = session.contact := by
  rw [run]
  repeat' split
  all_goals rfl

theorem contact_updateFilter (session : Session) (filter : SuiteFilter) :
    (session.updateFilter filter).contact = session.contact := by
  simp only [updateFilter]
  repeat' split
  all_goals simp

theorem contact_shutdown (session : Session) : session.shutdown.contact = session.contact := by
  rw [shutdown]
  split <;> simp

theorem contact_disconnect (session : Session) : session.disconnect.contact = .disconnected := by
  rw [disconnect]
  split
  · assumption
  · simp

theorem contact_connect (session : Session) : session.connect.contact =
    if session.contact = .disconnected && !session.shuttingDown then .lost none
    else session.contact := by
  by_cases disconnected : session.contact = .disconnected
  · cases going : session.shuttingDown with
    | true => simp [connect, going]
    | false =>
        rw [session.connect_of_free disconnected going]
        split <;> simp [disconnected]
  · simp [connect, disconnected]

/-! ## Completions -/

theorem contact_handleNews (session : Session) (answer : Option News) :
    (session.handleNews answer).contact = .normal := by
  unfold handleNews
  cases answer with
  | none => simp
  | some given => cases given <;> simp

theorem contact_syncSucceeded (session : Session) (reply : Reply) :
    (session.syncSucceeded id reply).contact = session.contact := by
  simp only [syncSucceeded]
  split <;> simp

theorem contact_resetSucceeded (session : Session) (reply : Reply) :
    (session.resetSucceeded id reply).contact = .normal := by
  simp [resetSucceeded]

theorem contact_taskSucceeded (kind : TaskKind) (reply : Reply) :
    (session.taskSucceeded id kind reply).contact =
      (kind.verdict? (.ok reply)).getD session.contact := by
  cases kind with
  | news => exact contact_handleNews _ _
  | sync => exact contact_syncSucceeded _ _
  | reset => exact contact_resetSucceeded _ _
  | suiteList => simp [taskSucceeded, TaskKind.onSuccess, TaskKind.verdict?, updateLoaded]
  | _ => rfl

theorem contact_contactLost (connected : session.contact ≠ .disconnected) (reason : String) :
    (session.contactLost reason).contact = .lost (some reason) := by
  simp [contactLost, connected]

theorem contact_taskFailed (connected : session.contact ≠ .disconnected) (kind : TaskKind)
    (failure : Failure) : (session.taskFailed id kind failure).contact =
      (kind.verdict? (.error failure)).getD session.contact := by
  have lost (reason : String) :
      ((session.advance id (.aborted reason)).contactLost reason).contact = .lost (some reason) :=
    contact_contactLost (show (session.advance id _).contact ≠ .disconnected from connected) reason
  cases kind with
  | news => exact lost _
  | sync => exact lost _
  | stats => exact lost _
  | reset => simp [taskFailed, TaskKind.onFailure, TaskKind.verdict?]
  | _ =>
      cases cause : failure.cause <;>
        simp [taskFailed, TaskKind.onFailure, TaskKind.verdict?, Failure.isOfConnection, cause, lost]

theorem contact_recordOnly (session : Session) (kind : TaskKind) (outcome : Outcome) :
    (session.recordOnly id kind outcome).contact = session.contact := by
  simp only [recordOnly, finishIfIdle_frame]
  split <;> split <;> simp

theorem heeds_iff (session : Session) (kind : TaskKind) :
    session.heeds session.contact kind = !session.isSuperseded kind := by
  simp only [heeds, isSuperseded, Queue.isResetting, TaskKind.isReset, bne, beq_eq_decide]
  cases session.queue.resetting <;> cases session.shuttingDown <;> simp [Bool.and_comm]

theorem contact_complete (sound : session.queue.Sound) (outcome : Outcome) :
    (session.receive (.complete outcome)).contact =
      Turn.judge session.contact ⟨session, .complete outcome⟩ := by
  cases flying : session.queue.inFlight with
  | none => simp [receive_complete_none flying, Turn.judge, flyingKind?, flying]
  | some id =>
      rcases sound.inFlight_known id flying with ⟨kind, known⟩
      have back : (session.takenBack id).contact = session.contact := rfl
      simp only [Turn.judge, flyingKind?_of_known flying known, heeds_iff]
      rw [receive_complete flying, taskCompleted_of_known known,
        isSuperseded_takenBack sound flying known]
      split
      · rename_i superseded
        simp [contact_recordOnly, superseded, back]
      · rename_i counted
        have used : session.isSuperseded kind = false := by simpa using counted
        have connected : (session.takenBack id).contact ≠ .disconnected := (not_isSuperseded used).1
        cases outcome with
        | ok reply => simp [contact_taskSucceeded, used, back]
        | error failure => simp [contact_taskFailed connected, used, back]

/-! ## Any input, any run -/

theorem contact_receive (sound : session.queue.Sound) (input : Input) :
    (session.receive input).contact = Turn.judge session.contact ⟨session, input⟩ := by
  cases input with
  | make kind args params => rfl
  | setParam id param value => rfl
  | runCommand args => exact session.contact_runCommand args
  | run id => exact session.contact_run id
  | update => exact session.contact_update
  | tick => exact session.contact_update
  | refresh => simp [receive, refresh, Turn.judge]
  | reset => exact session.contact_reset
  | connect => exact session.contact_connect
  | disconnect => exact session.contact_disconnect
  | updateFilter filter => exact session.contact_updateFilter filter
  | subscribe => rfl
  | unsubscribe id => rfl
  | shutdown => exact session.contact_shutdown
  | takeStep => rfl
  | complete outcome => exact contact_complete sound outcome

/-- What a session holds of its server is the verdict of its history. The verdict is passed on
from turn to turn, and never looked up in the session. -/
theorem contact_receiveAll (options : SessionOptions) (inputs : List Input) :
    ((new options).receiveAll inputs).contact =
      ((new options).turns inputs).foldl Turn.judge (.lost none) := by
  induction inputs using List.reverseRecOn with
  | nil => rfl
  | append_singleton inputs input induction =>
      have sound := (coherent_receiveAll options inputs).sound
      rw [receiveAll_concat, turns_concat, List.foldl_append, ← induction]
      exact contact_receive sound input

end Session

end FlowClient
