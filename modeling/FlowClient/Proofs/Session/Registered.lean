import FlowClient.Proofs.Queue.Args
import FlowClient.Proofs.Session.Loading
import FlowClient.Proofs.Session.Selection
import FlowClient.Proofs.Tables

/-! What is registered and what is mirrored. The suites that a filter selects are read twice:
when a reset sets out, which tells the server which suites to register, and when its reply
is scanned. Both agree on what the server is to send, unless the filter selects nothing at
all: then the request names no suite, which the server takes for all of them. -/

namespace FlowClient

namespace SuiteFilter

variable {filter : SuiteFilter} {suite : String}

theorem accepts_of_registered (registered : suite ∈ filter.registered) :
    filter.accepts suite = true := by
  unfold SuiteFilter.registered at registered
  split at registered
  · simp [accepts, (Table.mem_keys_iff filter.suites suite).mp registered]
  · cases registered

/-- A filter that registers no suite accepts all of them, or selects none. -/
theorem accepts_of_registered_nil (none : filter.registered = [])
    (selects : filter.selection ≠ some .empty) : filter.accepts suite = true := by
  cases enabled : filter.enabled with
  | false => simp [accepts, enabled]
  | true =>
      refine absurd ?_ selects
      rw [registered, if_pos enabled] at none
      rw [selection, if_pos enabled]
      exact congrArg some (Table.ext (List.map_eq_nil_iff.mp none))

theorem rejects_of_selection_empty (selectsNone : filter.selection = some .empty) :
    filter.registered = [] ∧ ∀ suite, filter.accepts suite = false := by
  unfold selection at selectsNone
  split at selectsNone
  · rename_i enabled
    have empty : filter.suites = .empty := Option.some.inj selectsNone
    simp only [registered, accepts, enabled, empty]
    exact ⟨rfl, fun _ => rfl⟩
  · cases selectsNone

end SuiteFilter

namespace Session

variable {session : Session} {turns : List Turn} {input : Input}

/-! ## Selections since a reset set out -/

/-- Whether other suites were selected since the last reset set out. -/
def reselected (turns : List Turn) : Bool :=
  turns.foldl (fun changed turn => !turn.setsOut &&
    (changed || turn.after.filter.selection != turn.before.filter.selection)) false

@[simp] theorem reselected_concat (turns : List Turn) (turn : Turn) :
    reselected (turns ++ [turn]) = (!turn.setsOut &&
      (reselected turns || turn.after.filter.selection != turn.before.filter.selection)) := by
  simp [reselected]

/-- The reset that is waited for registers what the filter selects. -/
def Registers (turns : List Turn) (session : Session) : Prop :=
  reselected turns = false → ∀ id, session.queue.resetting = some id →
    session.queue.ledger.args? id = some session.filter.registered

/-- As long as no reset sets out, the one on its way registers what it did. -/
theorem Registers.keep (registers : Registers turns session)
    (kept : (session.receive input).queue.resetting = session.queue.resetting ∨
      (session.receive input).queue.resetting = none)
    (args : session.queue.ledger.KeepsArgs (session.receive input).queue.ledger) :
    Registers (turns ++ [⟨session, input⟩]) (session.receive input) := by
  intro same id resetting
  simp only [reselected_concat, setsOut_of_kept kept, Bool.not_false, Bool.true_and,
    Bool.or_eq_false_iff, bne_eq_false_iff_eq] at same
  have before : session.queue.resetting = some id := by
    rcases kept with stays | gone
    · exact stays.symm.trans resetting
    · rw [gone] at resetting
      cases resetting
  have selection : (session.receive input).filter.selection = session.filter.selection := same.2
  rw [SuiteFilter.registered_congr selection]
  exact args id _ (registers same.1 id before)

/-- A move that makes a reset makes it from the filter at that time. -/
theorem Registers.move {queue : Queue} {named : List TaskId} (registers : Registers turns session)
    (resetting : queue.resetting = session.queue.resetting ∨ queue.resetting = none)
    (args : session.queue.ledger.KeepsArgs queue.ledger)
    (moves : queue.Moves named (Task.Reports (session.receive input).filter)
      (session.receive input).queue) :
    Registers (turns ++ [⟨session, input⟩]) (session.receive input) := by
  rcases moves.resetting_cases with same | ⟨id, task, isMade, kind, begun, made⟩
  · exact registers.keep (same ▸ resetting) (args.trans moves.keepsArgs)
  · intro _ other current
    rw [begun, Option.some.injEq] at current
    rw [← current, made, isMade.reset kind]
    rfl

theorem registers_receive (coherent : session.Coherent) (registers : Registers turns session)
    (input : Input) : Registers (turns ++ [⟨session, input⟩]) (session.receive input) := by
  cases queueing_receive coherent.sound input with
  | moves call moves => exact registers.move (.inl rfl) .rfl moves
  | disconnects same =>
      exact registers.keep (same ▸ session.queue.resetting_disable)
        (same ▸ session.queue.keepsArgs_disable)
  | closes same =>
      exact registers.keep (same ▸ session.queue.resetting_disable)
        (same ▸ session.queue.keepsArgs_disable)
  | dispatches same =>
      exact registers.keep (.inl (same ▸ session.queue.next_frame.2))
        (same ▸ session.queue.keepsArgs_next)
  | idles free same => exact registers.keep (.inl (by rw [same])) (by rw [same]; exact .rfl)
  | returns id ending flying terminal moves =>
      have args : session.queue.ledger.KeepsArgs
          ((session.queue.complete id).1.advance id ending).ledger := by
        simpa [Queue.advance] using session.queue.ledger.keepsArgs_advance id ending
      have resetting : ((session.queue.complete id).1.advance id ending).resetting =
          session.queue.resetting ∨ ((session.queue.complete id).1.advance id ending).resetting = none :=
        session.queue.resetting_completed id
      exact registers.move resetting args moves

theorem registers_receiveAll (options : SessionOptions) (inputs : List Input) :
    Registers ((new options).turns inputs) ((new options).receiveAll inputs) := by
  induction inputs using List.reverseRecOn with
  | nil => exact fun _ id resetting => nomatch resetting
  | append_singleton inputs input induction =>
      rw [receiveAll_concat, turns_concat]
      exact registers_receive (coherent_receiveAll options inputs) induction input

/-! ## Resets that come back -/

theorem receive_reset {id : TaskId} (sound : session.queue.Sound)
    (flying : session.queue.inFlight = some id) (known : session.queue.kind? id = some .reset)
    (used : session.isSuperseded .reset = false) (reply : Reply) :
    session.receive (.complete (.ok reply)) = (session.takenBack id).resetSucceeded id reply := by
  rw [receive_complete flying, taskCompleted_of_known known,
    isSuperseded_takenBack sound flying known, if_neg (by simp [used])]
  rfl

/-- What a server that was asked for these suites may send: them, or any if it was asked for
none. -/
def Serves (suites : List String) (definition : Definition) : Prop :=
  suites = [] ∨ ∀ suite ∈ definition.suiteNames, suite ∈ suites

/-- How the mirror stands to the suites that were registered, after the turn in which the
definition came. -/
structure MirrorsRegistered (turn : Turn) (suites : List String) (definition : Definition) :
    Prop where
  accepted : ∀ suite ∈ suites, turn.after.filter.accepts suite = true
  mirrored : turn.before.filter.selection ≠ some .empty →
    turn.after.mirror.suites = scanNodes "/" definition.suites
  /-- A filter that selects nothing has all suites registered, and lets none into the mirror. -/
  missed : turn.before.filter.selection = some .empty → suites = [] ∧ turn.after.mirror.suites = []

/-- In any run, when a reset brings a definition of suites that it asked for, then all of them are
mirrored in their order and the filter accepts all that were asked for, if no others were
selected since the reset set out and the filter selects any. -/
theorem mirrorsRegistered_receiveAll (options : SessionOptions) (inputs : List Input) {id : TaskId}
    {task : Task} {suites : List String} {autoAddNew : Bool} {definition : Definition}
    (flying : ((new options).receiveAll inputs).queue.inFlight = some id)
    (known : ((new options).receiveAll inputs).queue.task? id = some task)
    (reset : task.kind = .reset) (asked : task.request = .ok (.reset suites autoAddNew))
    (used : ((new options).receiveAll inputs).isSuperseded .reset = false)
    (kept : reselected ((new options).turns inputs) = false) (reply : Reply)
    (brought : reply.definition.getD {} = definition) (served : Serves suites definition) :
    MirrorsRegistered ⟨(new options).receiveAll inputs, .complete (.ok reply)⟩ suites definition := by
  have sound := (coherent_receiveAll options inputs).sound
  have registers := registers_receiveAll options inputs kept
  generalize (new options).receiveAll inputs = session at *
  have kind : session.queue.kind? id = some .reset := by simp [Queue.kind?, known, reset]
  have registered : suites = session.filter.registered := by
    have args := registers id (sound.inFlight_reset id flying kind)
    have stored : session.queue.ledger.get? id = some task := known
    simp only [Task.request, reset, Except.ok.injEq, Request.reset.injEq] at asked
    simpa [Ledger.args?, stored, asked.1] using args
  have after := receive_reset sound flying kind used reply
  have filter : (session.receive (.complete (.ok reply))).filter = session.filter := by
    rw [after]
    exact filter_resetSucceeded _ _ _
  have mirror : (session.receive (.complete (.ok reply))).mirror.suites =
      scanNodes "/" (definition.suites.filter (session.filter.accepts ·.label.name)) := by
    rw [after, ← brought]
    simp [resetSucceeded, follow, advance, takenBack, Mirror.scanned]
  refine ⟨?_, fun selects => ?_, fun selectsNone => ?_⟩
  · intro suite member
    rw [Turn.after, filter]
    exact SuiteFilter.accepts_of_registered (registered ▸ member)
  · rw [Turn.after, mirror]
    congr 1
    refine List.filter_eq_self.mpr fun node member => ?_
    rcases served with all | named
    · exact SuiteFilter.accepts_of_registered_nil (registered ▸ all) selects
    · exact SuiteFilter.accepts_of_registered (registered ▸ named _ (List.mem_map_of_mem member))
  · rcases SuiteFilter.rejects_of_selection_empty selectsNone with ⟨none, rejects⟩
    refine ⟨registered.trans none, ?_⟩
    rw [Turn.after, mirror, List.filter_eq_nil_iff.mpr fun node _ => by simp [rejects]]
    rfl

/-- A caller selects two suites of a loaded session, of which the server has one. -/
def selectsOthers : List Input :=
  .reset :: loads ++ [.updateFilter (.selecting ["s2", "s3"]), .takeStep]

def secondSuite : Definition := { suites := [.node { name := "s2" } []] }

theorem mirrorsRegistered_of_selectsOthers :
    ((new sampleOptions).receiveAll selectsOthers).queue.inFlight = some 2 ∧
      ((new sampleOptions).receiveAll selectsOthers).queue.task? 2 =
        some { Task.reset ["s2", "s3"] false with progress := .submitted } ∧
      ((new sampleOptions).receiveAll selectsOthers).isSuperseded .reset = false ∧
      reselected ((new sampleOptions).turns selectsOthers) = false ∧
      ((new sampleOptions).receiveAll selectsOthers).filter.selection ≠ some .empty ∧
      MirrorsRegistered ⟨(new sampleOptions).receiveAll selectsOthers,
        .complete (.ok { definition := some secondSuite })⟩ ["s2", "s3"] secondSuite :=
  have flying : ((new sampleOptions).receiveAll selectsOthers).queue.inFlight = some 2 := by
    decide +kernel
  have known : ((new sampleOptions).receiveAll selectsOthers).queue.task? 2 =
      some { Task.reset ["s2", "s3"] false with progress := .submitted } := by decide +kernel
  have used : ((new sampleOptions).receiveAll selectsOthers).isSuperseded .reset = false := by
    decide +kernel
  have kept : reselected ((new sampleOptions).turns selectsOthers) = false := by decide +kernel
  ⟨flying, known, used, kept, by decide +kernel,
    mirrorsRegistered_receiveAll sampleOptions selectsOthers flying known rfl rfl used kept
      { definition := some secondSuite } rfl (.inr (by decide +kernel))⟩

/-- A filter that is enabled and selects nothing. The request of its reset names no suite, so that
the server sends all it has, and none of them is mirrored. -/
theorem unmirrored_of_selectsNone :
    let options : SessionOptions := { sampleOptions with filter := .selecting [] }
    let answered : List Input := [.reset, .takeStep, .complete (.ok { definition := some twoSuites })]
    ((new options).receiveAll [.reset, .takeStep]).queue.task? 0 =
        some { Task.reset [] false with progress := .submitted } ∧
      Serves [] twoSuites ∧ reselected ((new options).turns answered) = false ∧
      ((new options).receiveAll answered).definition.suiteNames = ["s1", "s2"] ∧
      ((new options).receiveAll answered).mirror.suiteNames = [] :=
  ⟨by decide +kernel, .inl rfl, by decide +kernel, by decide +kernel, by decide +kernel⟩

end Session

end FlowClient
