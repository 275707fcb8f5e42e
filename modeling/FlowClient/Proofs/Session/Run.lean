import FlowClient.Session.Completion
import Mathlib.Data.List.Induction

/-! Runs of a session: what callers, the timer and the server do to it, one input after
the other, and what somebody who looks on sees of each. -/

namespace FlowClient.Session

/-! ## Inputs -/

/-- One thing that can happen to a session. -/
inductive Input where
  /-- A caller makes a task, and does not hand it in yet. -/
  | make (kind : TaskKind) (args : List String) (params : Params)
  | setParam (id : TaskId) (param : Param) (value : String)
  | runCommand (args : List String)
  | run (id : TaskId)
  | update
  | tick
  | refresh
  | reset
  | connect
  | disconnect
  | updateFilter (filter : SuiteFilter)
  | subscribe
  | unsubscribe (id : ObserverId)
  | shutdown
  /-- Whoever drives the session asks what is to be done. -/
  | takeStep
  /-- The task in flight comes back. -/
  | complete (outcome : Outcome)

/-- The session after an input. While nothing is in flight nothing comes back. -/
def receive (session : Session) : Input → Session
  | .make kind args params => (session.enter { kind, args, params }).1
  | .setParam id param value =>
      { session with queue := session.queue.changeTask id (·.setParam param value) }
  | .runCommand args => (session.runCommand args).1
  | .run id => session.run id
  | .update => session.update.1
  | .tick => session.tick
  | .refresh => session.refresh
  | .reset => session.reset
  | .connect => session.connect
  | .disconnect => session.disconnect
  | .updateFilter filter => session.updateFilter filter
  | .subscribe => session.subscribe.1
  | .unsubscribe id => (session.unsubscribe id).1
  | .shutdown => session.shutdown
  | .takeStep => session.takeStep.1
  | .complete outcome =>
      match session.queue.inFlight with
      | some id => session.taskCompleted id outcome
      | none => session

def receiveAll (session : Session) (inputs : List Input) : Session :=
  inputs.foldl receive session

@[simp] theorem receiveAll_nil (session : Session) : session.receiveAll [] = session := rfl

theorem receiveAll_append (session : Session) (earlier later : List Input) :
    session.receiveAll (earlier ++ later) = (session.receiveAll earlier).receiveAll later :=
  List.foldl_append

@[simp] theorem receiveAll_concat (session : Session) (inputs : List Input) (input : Input) :
    session.receiveAll (inputs ++ [input]) = (session.receiveAll inputs).receive input := by
  simp [receiveAll]

theorem receiveAll_keeps (Holds : Session → Prop) {session : Session} (start : Holds session)
    (step : ∀ session input, Holds session → Holds (session.receive input)) :
    ∀ inputs, Holds (session.receiveAll inputs) := by
  intro inputs
  induction inputs using List.reverseRecOn with
  | nil => exact start
  | append_singleton inputs input induction =>
      rw [receiveAll_concat]
      exact step _ _ induction

/-! ## Turns -/

structure Turn where
  before : Session
  input : Input

def Turn.after (turn : Turn) : Session := turn.before.receive turn.input

/-- The turns of a run, in order. -/
def turns (session : Session) : List Input → List Turn
  | [] => []
  | input :: inputs => ⟨session, input⟩ :: (session.receive input).turns inputs

@[simp] theorem turns_nil (session : Session) : session.turns [] = [] := rfl

theorem turns_append (session : Session) (earlier later : List Input) :
    session.turns (earlier ++ later) =
      session.turns earlier ++ (session.receiveAll earlier).turns later := by
  induction earlier generalizing session with
  | nil => rfl
  | cons head earlier induction =>
      rw [List.cons_append, turns, turns, induction]
      rfl

@[simp] theorem turns_concat (session : Session) (inputs : List Input) (input : Input) :
    session.turns (inputs ++ [input]) =
      session.turns inputs ++ [⟨session.receiveAll inputs, input⟩] :=
  session.turns_append inputs [input]

theorem before_of_mem_turns {session : Session} {inputs : List Input} {turn : Turn}
    (member : turn ∈ session.turns inputs) : ∃ earlier, turn.before = session.receiveAll earlier := by
  induction inputs using List.reverseRecOn with
  | nil => cases member
  | append_singleton inputs input induction =>
      rw [turns_concat] at member
      rcases List.mem_append.mp member with old | last
      · exact induction old
      · exact ⟨inputs, by rw [List.mem_singleton.mp last]⟩

/-- What comes before a turn of a run is a run itself, and so is what comes after it. -/
theorem turns_split {session : Session} {inputs : List Input} {earlier later : List Turn}
    {turn : Turn} (split : session.turns inputs = earlier ++ turn :: later) :
    ∃ before after, inputs = before ++ turn.input :: after ∧ earlier = session.turns before ∧
      turn.before = session.receiveAll before ∧ later = turn.after.turns after := by
  induction earlier generalizing session inputs with
  | nil =>
      cases inputs with
      | nil => cases split
      | cons input inputs =>
          rw [turns, List.nil_append, List.cons.injEq] at split
          rcases split with ⟨rfl, rfl⟩
          exact ⟨[], inputs, rfl, rfl, rfl, rfl⟩
  | cons head earlier induction =>
      cases inputs with
      | nil => cases split
      | cons input inputs =>
          rw [turns, List.cons_append, List.cons.injEq] at split
          rcases split with ⟨rfl, split⟩
          rcases induction split with ⟨before, after, rfl, rfl, same, rest⟩
          exact ⟨input :: before, after, rfl, rfl, same, rest⟩

/-! ## A sample -/

def sampleOptions : SessionOptions := { name := "prod", host := "localhost", port := "3141" }

def oneSuite : Definition := { suites := [.node { name := "s1" } []] }

/-- The reply to the first reset, and to the list of suites after it. -/
def loads : List Input :=
  [.takeStep, .complete (.ok { definition := some oneSuite }), .takeStep,
    .complete (.ok { lines := ["s1"] })]

end FlowClient.Session
