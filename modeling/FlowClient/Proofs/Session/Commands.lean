import FlowClient.Proofs.Queue.Args
import FlowClient.Proofs.Session.Endings

/-! Commands that are given to a session. A session makes a task for every command while it is
connected, and it stays connected for as long as nobody takes the connection from it: a server
that does not answer is no reason to make no task. -/

namespace FlowClient.Session

variable {session : Session} {input : Input} {id : TaskId} {args : List String}

/-! ## Active sessions -/

/-- Whether commands are taken, and the session is not on its way out. -/
def Active (session : Session) : Prop :=
  session.contact ≠ .disconnected ∧ session.shuttingDown = false

instance (session : Session) : Decidable session.Active := inferInstanceAs (Decidable (_ ∧ _))

/-- Whether an input leaves the session its connection, and lets it go on. -/
def Input.isPeaceful : Input → Bool
  | disconnect => false
  | shutdown => false
  | _ => true

theorem shutsDown_of_peaceful (peaceful : input.isPeaceful = true) :
    Turn.shutsDown ⟨session, input⟩ = false := by
  cases input <;> first | rfl | cases peaceful

theorem disconnected_of_peaceful {after : Session} (peaceful : input.isPeaceful = true)
    (effect : Effect session after input) :
    after.standing.disconnected = session.standing.disconnected ∨
      after.standing.disconnected = false := by
  cases effect with
  | stays same => exact .inl (same ▸ rfl)
  | begins id going same => exact .inr (same ▸ rfl)
  | connects going filled same => exact .inr (same ▸ rfl)
  | disconnects | closes => cases peaceful
  | fails flying useless same => exact .inl (same ▸ rfl)
  | follows taken definition mirror part filled same => exact .inl (same ▸ rfl)
  | scans definition cleared filter same => exact .inl (same ▸ rfl)

theorem active_receive (coherent : session.Coherent) (active : session.Active)
    (peaceful : input.isPeaceful = true) : (session.receive input).Active := by
  rcases active with ⟨connected, going⟩
  constructor
  · have before : session.standing.disconnected = false := decide_eq_false connected
    have after : (session.receive input).standing.disconnected = false := by
      rcases disconnected_of_peaceful peaceful (effect_receive coherent input) with same | gained
      · exact same.trans before
      · exact gained
    exact of_decide_eq_false after
  · rw [shuttingDown_receive coherent.sound, going, shutsDown_of_peaceful peaceful]
    rfl

theorem active_receiveAll (coherent : session.Coherent) (active : session.Active)
    {inputs : List Input} (peaceful : ∀ input ∈ inputs, input.isPeaceful = true) :
    (session.receiveAll inputs).Active := by
  induction inputs generalizing session with
  | nil => exact active
  | cons input inputs induction =>
      have first := active_receive coherent active (peaceful input List.mem_cons_self)
      exact induction (coherent_receive coherent input) first fun later member =>
        peaceful later (List.mem_cons_of_mem _ member)

/-! ## Tasks of commands -/

theorem keepsArgs_receive (sound : session.queue.Sound) (input : Input) :
    session.queue.ledger.KeepsArgs (session.receive input).queue.ledger := by
  cases queueing_receive sound input with
  | moves call moves => exact moves.keepsArgs
  | disconnects same => exact same ▸ session.queue.keepsArgs_disable
  | closes same => exact same ▸ session.queue.keepsArgs_disable
  | dispatches same => exact same ▸ session.queue.keepsArgs_next
  | idles free same => exact same ▸ .rfl
  | returns id ending flying terminal moves =>
      have ends := session.queue.ledger.keepsArgs_advance id ending
      exact .trans (by simpa [Queue.advance] using ends) moves.keepsArgs

/-- That a task of a session is a command with these arguments. -/
structure HasCommand (session : Session) (id : TaskId) (args : List String) : Prop where
  kind : session.queue.kind? id = some .command
  args : session.queue.ledger.args? id = some args

theorem HasCommand.receive (sound : session.queue.Sound) (has : session.HasCommand id args)
    (input : Input) : (session.receive input).HasCommand id args where
  kind := Queue.kind?_extends (extends_receive sound input) has.kind
  args := keepsArgs_receive sound input id args has.args

theorem HasCommand.receiveAll (sound : session.queue.Sound) (has : session.HasCommand id args)
    (inputs : List Input) : (session.receiveAll inputs).HasCommand id args := by
  induction inputs generalizing session with
  | nil => exact has
  | cons input inputs induction => exact induction (sound_receive sound input) (has.receive sound input)

theorem HasCommand.task (has : session.HasCommand id args) :
    ∃ task, session.queue.task? id = some task ∧ task.kind = .command ∧ task.args = args := by
  rcases Option.map_eq_some_iff.mp has.kind with ⟨task, known, kind⟩
  rcases Option.map_eq_some_iff.mp has.args with ⟨same, again, taskArgs⟩
  cases known.symm.trans again
  exact ⟨task, known, kind, taskArgs⟩

/-- A command gets a task of its own while the session is connected. Whether the queue takes
that task is another question. -/
theorem runCommand_of_connected (connected : session.contact ≠ .disconnected)
    (args : List String) : (session.runCommand args).2 = some session.queue.ledger.size ∧
      (session.runCommand args).1.HasCommand session.queue.ledger.size args := by
  let entered := session.queue.enter (Task.command args)
  have made : entered.1.ledger.get? entered.2 = some (Task.command args) :=
    session.queue.ledger.get?_add_new _
  have kind : entered.1.kind? entered.2 = some .command := congrArg (Option.map Task.kind) made
  have named : entered.1.ledger.args? entered.2 = some args := congrArg (Option.map Task.args) made
  rw [runCommand, if_neg connected]
  exact ⟨rfl, Queue.kind?_extends (entered.1.extends_submit _) kind,
    entered.1.keepsArgs_submit _ _ _ named⟩

end FlowClient.Session
