import FlowClient.Live.Worker

/-! What a worker sends, and under which credential. A credential comes to it as a message among
the tasks, and it takes its messages in order. So a task is sent under the last credential
that came before it, and while a request is out nothing changes. -/

namespace FlowClient

/-! ## Requests and credentials -/

namespace ConnectionAction

/-- The credential that is in force after an action. -/
def credential (credential : Credential) : ConnectionAction → Credential
  | send _ => credential
  | setCredential other => other
  | release => credential

/-- The requests that are sent, each with the credential in force. -/
def requests (credential : Credential) : List ConnectionAction → List (Request × Credential)
  | [] => []
  | send request :: rest => (request, credential) :: requests credential rest
  | setCredential other :: rest => requests other rest
  | release :: rest => requests credential rest

theorem requests_concat (credential : Credential) (actions : List ConnectionAction)
    (action : ConnectionAction) : requests credential (actions ++ [action]) =
      requests credential actions ++
        requests (actions.foldl ConnectionAction.credential credential) [action] := by
  induction actions generalizing credential with
  | nil => rfl
  | cons head actions induction =>
      cases head with
      | send request => exact congrArg _ (induction credential)
      | setCredential other => exact induction other
      | release => exact induction credential

end ConnectionAction

namespace WorkerMessage

/-- The credential that will be in force after a message. -/
def credential (credential : Credential) : WorkerMessage → Credential
  | run _ => credential
  | setCredential other => other

/-- The tasks that wait, each with the credential that will be in force. -/
def tasks (credential : Credential) : List WorkerMessage → List (TaskId × Credential)
  | [] => []
  | run id :: rest => (id, credential) :: tasks credential rest
  | setCredential other :: rest => tasks other rest

theorem tasks_concat (credential : Credential) (mailbox : List WorkerMessage)
    (message : WorkerMessage) : tasks credential (mailbox ++ [message]) =
      tasks credential mailbox ++
        tasks (mailbox.foldl WorkerMessage.credential credential) [message] := by
  induction mailbox generalizing credential with
  | nil => rfl
  | cons head mailbox induction =>
      cases head with
      | run id => exact congrArg _ (induction credential)
      | setCredential other => exact induction other

end WorkerMessage

/-- A request that goes out, for a task. -/
structure Sending where
  id : TaskId
  request : Request
  credential : Credential
deriving DecidableEq

def Sending.task (sending : Sending) : TaskId × Credential := (sending.id, sending.credential)

def Sending.shown (sending : Sending) : Request × Credential :=
  (sending.request, sending.credential)

namespace Worker

variable {worker next : Worker} {initial : Credential} {id : TaskId}

/-! ## The worker -/

/-- The credential under which a worker sends now, if it began with `initial`. -/
def credential (initial : Credential) (worker : Worker) : Credential :=
  worker.actions.foldl ConnectionAction.credential initial

/-- The credential under which it will send what comes to it next. -/
def lastCredential (initial : Credential) (worker : Worker) : Credential :=
  worker.mailbox.foldl WorkerMessage.credential (worker.credential initial)

/-- The tasks that wait in its mailbox, each with the credential that will be in force. -/
def upcoming (initial : Credential) (worker : Worker) : List (TaskId × Credential) :=
  WorkerMessage.tasks (worker.credential initial) worker.mailbox

/-- What a worker sends when it becomes another. -/
def sent (initial : Credential) (worker next : Worker) : List Sending :=
  match worker.busy, next.busy, next.actions.getLast? with
  | none, some id, some (.send request) => [⟨id, request, worker.credential initial⟩]
  | _, _, _ => []

theorem sent_of_busy (busy : worker.busy = none → next.busy = none) :
    sent initial worker next = [] := by
  rw [sent]
  split
  · rename_i free taken _
    rw [busy free] at taken
    cases taken
  · rfl

theorem upcoming_tell_run (initial : Credential) (worker : Worker) (id : TaskId) :
    (worker.tell (.run id)).upcoming initial =
      worker.upcoming initial ++ [(id, worker.lastCredential initial)] :=
  WorkerMessage.tasks_concat _ worker.mailbox (.run id)

theorem upcoming_tell_credential (initial : Credential) (worker : Worker)
    (credential : Credential) : (worker.tell (.setCredential credential)).upcoming initial =
      worker.upcoming initial :=
  (WorkerMessage.tasks_concat _ worker.mailbox (.setCredential credential)).trans
    (List.append_nil _)

theorem lastCredential_tell_run (initial : Credential) (worker : Worker) (id : TaskId) :
    (worker.tell (.run id)).lastCredential initial = worker.lastCredential initial := by
  simp [lastCredential, tell, credential, WorkerMessage.credential]

theorem lastCredential_tell_credential (initial : Credential) (worker : Worker)
    (credential : Credential) :
    (worker.tell (.setCredential credential)).lastCredential initial = credential := by
  simp [lastCredential, tell, WorkerMessage.credential]

/-- What a worker does by itself: it sends the next of its tasks under the credential that
waited for it, and while a request is out the credential stays. -/
structure Serves (initial : Credential) (ledger : Ledger) (worker next : Worker) : Prop where
  requests : ConnectionAction.requests initial next.actions =
    ConnectionAction.requests initial worker.actions ++
      (sent initial worker next).map Sending.shown
  upcoming : ((sent initial worker next).map Sending.task ++ next.upcoming initial).Sublist
    (worker.upcoming initial)
  caughtUp : next.running = true →
    worker.running = true ∧ next.lastCredential initial = worker.lastCredential initial
  unchanged : worker.busy.isSome = true → next.credential initial = worker.credential initial
  own : ∀ sending ∈ sent initial worker next,
    (ledger.get? sending.id).map Task.request = some (.ok sending.request)

theorem serves_of_same (ledger : Ledger) (actions : next.actions = worker.actions)
    (busy : worker.busy = none → next.busy = none)
    (upcoming : (next.upcoming initial).Sublist (worker.upcoming initial))
    (caughtUp : next.running = true →
      worker.running = true ∧ next.lastCredential initial = worker.lastCredential initial) :
    Serves initial ledger worker next := by
  have none : sent initial worker next = [] := sent_of_busy busy
  refine ⟨?_, ?_, caughtUp, ?_, ?_⟩
  · rw [actions, none]
    simp
  · rw [none]
    exact upcoming
  · intro _
    rw [credential, credential, actions]
  · rw [none]
    simp

theorem serves_stop (ledger : Ledger) {stopping : Worker}
    (actions : stopping.actions = worker.actions) :
    Serves initial ledger worker stopping.stop := by
  have none : sent initial worker stopping.stop = [] := sent_of_busy fun _ => rfl
  have released : stopping.stop.actions = worker.actions ++ [.release] :=
    congrArg (· ++ [ConnectionAction.release]) actions
  refine ⟨?_, ?_, nofun, ?_, ?_⟩
  · rw [none, released, ConnectionAction.requests_concat]
    rfl
  · rw [none]
    exact List.nil_sublist _
  · intro _
    rw [credential, credential, released, List.foldl_append]
    rfl
  · rw [none]
    simp

theorem serves_report (ledger : Ledger) {reporting : Worker} (id : TaskId) (outcome : Outcome)
    (actions : reporting.actions = worker.actions) (free : reporting.busy = none)
    (upcoming : (reporting.upcoming initial).Sublist (worker.upcoming initial))
    (caughtUp : reporting.running = true →
      worker.running = true ∧ reporting.lastCredential initial = worker.lastCredential initial) :
    Serves initial ledger worker (reporting.report id outcome) := by
  rw [report]
  split
  · exact serves_of_same ledger actions (fun _ => free) upcoming caughtUp
  · exact serves_stop ledger actions

theorem serves_finish (initial : Credential) (ledger : Ledger) (worker : Worker)
    (outcome : Outcome) : Serves initial ledger worker (worker.finish outcome) := by
  rw [finish]
  split
  · exact serves_report ledger _ outcome rfl rfl (.refl _) fun running => ⟨running, rfl⟩
  · exact serves_of_same ledger rfl id (.refl _) fun running => ⟨running, rfl⟩

theorem serves_send {ledger : Ledger} {request : Request} {rest : List WorkerMessage}
    (idle : worker.busy = none) (running : worker.running = true)
    (mailbox : worker.mailbox = .run id :: rest)
    (requested : (ledger.get? id).map Task.request = some (.ok request)) :
    Serves initial ledger worker
      ({ worker with mailbox := rest, busy := some id }.perform (.send request)) := by
  have sends : sent initial worker
      ({ worker with mailbox := rest, busy := some id }.perform (.send request)) =
        [⟨id, request, worker.credential initial⟩] := by
    simp [sent, idle, perform]
  have kept : ({ worker with mailbox := rest, busy := some id }.perform
      (.send request)).credential initial = worker.credential initial := by
    simp [credential, perform, ConnectionAction.credential]
  refine ⟨?_, ?_, ?_, ?_, ?_⟩
  · rw [sends]
    exact ConnectionAction.requests_concat initial worker.actions (.send request)
  · rw [sends, upcoming, upcoming, kept, mailbox]
    exact .refl _
  · intro _
    refine ⟨running, ?_⟩
    rw [lastCredential, lastCredential, kept, mailbox]
    rfl
  · intro busy
    rw [idle] at busy
    cases busy
  · intro sending member
    rw [sends] at member
    rw [List.mem_singleton.mp member]
    exact requested

theorem serves_setCredential {ledger : Ledger} {other : Credential} {rest : List WorkerMessage}
    (idle : worker.busy = none) (running : worker.running = true)
    (mailbox : worker.mailbox = .setCredential other :: rest) :
    Serves initial ledger worker
      ({ worker with mailbox := rest }.perform (.setCredential other)) := by
  have none : sent initial worker
      ({ worker with mailbox := rest }.perform (.setCredential other)) = [] :=
    sent_of_busy fun _ => idle
  have changed : ({ worker with mailbox := rest }.perform
      (.setCredential other)).credential initial = other := by
    simp [credential, perform, ConnectionAction.credential]
  refine ⟨?_, ?_, ?_, ?_, ?_⟩
  · rw [none]
    exact ConnectionAction.requests_concat initial worker.actions (.setCredential other)
  · rw [none, upcoming, upcoming, changed, mailbox]
    exact .refl _
  · intro _
    refine ⟨running, ?_⟩
    rw [lastCredential, lastCredential, changed, mailbox]
    rfl
  · intro busy
    rw [idle] at busy
    cases busy
  · rw [none]
    simp

theorem serves_step? (initial : Credential) {ledger : Ledger}
    (stepped : worker.step? ledger = some next) : Serves initial ledger worker next := by
  rw [step?] at stepped
  split at stepped
  · cases stepped
  rename_i free
  simp only [Bool.or_eq_true, not_or, Bool.not_eq_true, Option.isSome_eq_false_iff,
    Option.isNone_iff_eq_none, Bool.not_eq_false'] at free
  rcases free with ⟨idle, running⟩
  split at stepped
  · rename_i id rest mailbox
    have waits : worker.upcoming initial = (id, worker.credential initial) ::
        ({ worker with mailbox := rest } : Worker).upcoming initial := by
      rw [upcoming, mailbox]
      rfl
    have caughtUp : worker.lastCredential initial =
        ({ worker with mailbox := rest } : Worker).lastCredential initial := by
      rw [lastCredential, mailbox]
      rfl
    split at stepped
    · rename_i request requested
      cases stepped
      exact serves_send idle running mailbox requested
    · rename_i failure requested
      cases stepped
      exact serves_report ledger id (.error failure) rfl idle (waits ▸ List.sublist_cons_self _ _)
        fun running => ⟨running, caughtUp.symm⟩
    · cases stepped
      exact serves_of_same ledger rfl (fun _ => idle) (waits ▸ List.sublist_cons_self _ _)
        fun running => ⟨running, caughtUp.symm⟩
  · rename_i other rest mailbox
    cases stepped
    exact serves_setCredential idle running mailbox
  · split at stepped
    · cases stepped
    · cases stepped
      exact serves_stop ledger rfl

end Worker

end FlowClient
