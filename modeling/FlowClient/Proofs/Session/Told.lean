import FlowClient.Proofs.Queue.Tellings
import FlowClient.Proofs.Session.Loading
import FlowClient.Proofs.Session.Selection

/-! What the server is told of the filter. A reset tells it which suites to register and
whether to add new ones, and a registration tells it the latter alone. A change of the filter is
told at once, unless nothing may be sent or a reset is on its way: then it is not told
before the next reset sets out. -/

namespace FlowClient.Session

variable {session : Session} {turns : List Turn} {input : Input} {turn : Turn}

/-! ## What is told -/

/-- What the tasks that a turn dispatches tell the server of the filter. -/
def Turn.told (turn : Turn) : List Request := turn.dispatched.filterMap turn.after.queue.telling?

/-- The suites that the last reset was to register. -/
def lastSuites? (turns : List Turn) : Option (List String) :=
  ((turns.flatMap Turn.told).filterMap Request.suites?).getLast?

/-- What the server was last told of adding suites. -/
def lastAutoAdd? (turns : List Turn) : Option Bool :=
  ((turns.flatMap Turn.told).filterMap Request.autoAdd?).getLast?

def Turn.gainsTelling (turn : Turn) : Bool := turn.before.queue.gainsTelling turn.after.queue

/-- What a turn does to what is told. -/
inductive Turn.Tells (turn : Turn) : Prop
  | keeps (same : turn.told ++ turn.after.queue.tellings = turn.before.queue.tellings)
      (still : turn.setsOut = false) (silent : turn.gainsTelling = false)
  | registers (quiet : turn.told = [])
      (same : turn.after.queue.tellings =
        turn.before.queue.tellings ++ [.suiteAutoRegister turn.after.filter.autoAddNew])
      (still : turn.setsOut = false) (gained : turn.gainsTelling = true)
  | loads (quiet : turn.told = [])
      (same : turn.after.queue.tellings =
        [.reset turn.after.filter.registered turn.after.filter.autoAddNew])
      (begun : turn.setsOut = true) (gained : turn.gainsTelling = true)
  | drops (closing : turn.input = .disconnect ∨ turn.input = .shutdown)
      (same : turn.after.queue = turn.before.queue.disable)

theorem told_of_call (call : input.isCall = true) : Turn.told ⟨session, input⟩ = [] := by
  simp [Turn.told, dispatched_of_call call]

/-- No reset sets out while one is on its way, and so not when it comes back either. -/
theorem ended_of_returned (coherent : session.Coherent) {outcome : Outcome} {id : TaskId}
    (flying : session.queue.inFlight = some id)
    (ended : (session.queue.complete id).1.resetting = none)
    (begun : (session.receive (.complete outcome)).queue.resetting.isSome = true) :
    session.queue.resetting = none := by
  by_contra current
  have current : session.queue.isResetting = true := Option.isSome_iff_ne_none.mpr current
  have after := resetting_complete coherent current outcome
  by_cases through : session.queue.inFlight = session.queue.resetting
  · rw [after, if_pos through] at begun
    cases begun
  · have other : session.queue.resetting ≠ some id := fun same => through (flying.trans same.symm)
    simp only [Queue.complete, flying, if_true, other, if_false] at ended
    simp [Queue.isResetting, ended] at current

theorem tells_complete (coherent : session.Coherent) {held : List TaskId}
    (tended : session.queue.Tended held) {outcome : Outcome} {id : TaskId} {ending : Progress}
    (flying : session.queue.inFlight = some id)
    (moves : ((session.queue.complete id).1.advance id ending).Moves []
      (Task.Reports (session.receive (.complete outcome)).filter)
      (session.receive (.complete outcome)).queue) :
    Turn.Tells ⟨session, .complete outcome⟩ := by
  have sound := coherent.sound
  have quiet : Turn.told ⟨session, .complete outcome⟩ = [] := rfl
  have told := (tended.returned sound flying ending).told_move
    ((sound.complete flying).advance id ending) moves (by simp)
  have tellings : ((session.queue.complete id).1.advance id ending).tellings =
      session.queue.tellings := by simp
  have pending : ((session.queue.complete id).1.advance id ending).pending =
      session.queue.pending := (session.queue.complete_frame id).2
  have gains := Queue.gainsTelling_congr pending (session.receive (.complete outcome)).queue
  cases told with
  | keeps same resetting silent =>
      have still := setsOut_of_kept (resetting ▸ session.queue.resetting_completed id)
      exact .keeps (by simpa [quiet, Turn.after] using same.trans tellings) still
        (gains.symm.trans silent)
  | registers task isMade kind same resetting gained =>
      have still := setsOut_of_kept (resetting ▸ session.queue.resetting_completed id)
      rw [tellings] at same
      refine .registers quiet ?_ still (gains.symm.trans gained)
      simpa [isMade.autoRegister kind, Turn.after] using same
  | loads task isMade kind same ended begun gained =>
      have ended := ended_of_returned coherent flying ended begun
      refine .loads quiet ?_ (setsOut_of_begins ended begun) (gains.symm.trans gained)
      simpa [isMade.reset kind, Turn.after] using same

theorem tells_receive (coherent : session.Coherent) {held : List TaskId}
    (tended : session.queue.Tended held) (given : ∀ id ∈ input.named, id ∈ held) :
    Turn.Tells ⟨session, input⟩ := by
  have sound := coherent.sound
  cases queueing_receive sound input with
  | moves call moves =>
      have quiet : Turn.told ⟨session, input⟩ = [] := told_of_call call
      cases tended.told_move sound moves given with
      | keeps same resetting silent =>
          exact .keeps (by simpa [quiet, Turn.after] using same) (setsOut_of_same resetting) silent
      | registers task isMade kind same resetting gained =>
          refine .registers quiet ?_ (setsOut_of_same resetting) gained
          simpa [isMade.autoRegister kind, Turn.after] using same
      | loads task isMade kind same ended begun gained =>
          refine .loads quiet ?_ (setsOut_of_begins ended begun) gained
          simpa [isMade.reset kind, Turn.after] using same
  | disconnects same => exact .drops (.inl rfl) same
  | closes same => exact .drops (.inr rfl) same
  | dispatches same =>
      have told : Turn.told ⟨session, .takeStep⟩ =
          session.queue.next.2.toList.filterMap session.queue.telling? := by
        rw [Turn.told, dispatched_takeStep coherent]
        refine List.filterMap_congr fun id _ => ?_
        exact session.queue.telling?_next id
      have resetting := session.queue.next_frame.2
      refine .keeps ?_ (setsOut_of_same ?_) ?_
      · rw [told, Turn.after, same]
        exact tended.tellings_next.symm
      · exact same ▸ resetting
      · rw [Turn.gainsTelling, Turn.after, Queue.gainsTelling, same]
        simp [session.queue.steps_next.waiting.1]
  | idles free same =>
      refine .keeps ?_ (setsOut_of_same (by rw [same])) ?_
      · simp [Turn.told, Turn.dispatched, Turn.after, same]
      · exact Queue.gainsTelling_of_same (by rw [Turn.after, same])
  | returns id ending flying terminal moves => exact tells_complete coherent tended flying moves

/-! ## What is told late -/

/-- Whether a change of the filter cannot be told now. -/
def isMute (session : Session) : Bool :=
  session.contact = .disconnected || session.shuttingDown || session.queue.isResetting

/-- Whether a caller changes the suites that are to be registered. -/
def Turn.changesSuites (turn : Turn) : Bool :=
  match turn.input with
  | .updateFilter _ => turn.after.filter.registered != turn.before.filter.registered
  | _ => false

/-- Whether a caller changes whether suites are to be added. -/
def Turn.changesAutoAdd (turn : Turn) : Bool :=
  match turn.input with
  | .updateFilter _ => turn.after.filter.autoAddNew != turn.before.filter.autoAddNew
  | _ => false

/-- Whether a turn gives up a task that was to tell the server of the filter. -/
def Turn.dropsTelling (turn : Turn) : Bool :=
  match turn.input with
  | .disconnect | .shutdown => turn.departed.any turn.before.queue.isTelling
  | _ => false

/-- Whether, since the last reset set out, a caller changed the suites when that could not be
told. -/
def suitesOverlooked (turns : List Turn) : Bool :=
  turns.foldl (fun overlooked turn =>
    !turn.setsOut && (overlooked || (turn.before.isMute && turn.changesSuites))) false

/-- The suites to register after the last change by a caller. A reset that sets out later
registers those that have joined them until then, too. -/
def wantedSuites (first : List String) (turns : List Turn) : List String :=
  turns.foldl (fun wanted turn =>
    if turn.setsOut || turn.changesSuites then turn.after.filter.registered else wanted) first

/-- Whether, since the last task that was to tell it, a caller changed whether suites are to be
added when that could not be told, or that task was given up. -/
def autoAddMissed (turns : List Turn) : Bool :=
  turns.foldl (fun missed turn => !turn.gainsTelling &&
    (missed || (turn.before.isMute && turn.changesAutoAdd) || turn.dropsTelling)) false

@[simp] theorem suitesOverlooked_concat (turns : List Turn) (turn : Turn) :
    suitesOverlooked (turns ++ [turn]) = (!turn.setsOut &&
      (suitesOverlooked turns || (turn.before.isMute && turn.changesSuites))) := by
  simp [suitesOverlooked]

@[simp] theorem wantedSuites_concat (first : List String) (turns : List Turn) (turn : Turn) :
    wantedSuites first (turns ++ [turn]) = if turn.setsOut || turn.changesSuites
      then turn.after.filter.registered else wantedSuites first turns := by
  simp [wantedSuites]

@[simp] theorem autoAddMissed_concat (turns : List Turn) (turn : Turn) :
    autoAddMissed (turns ++ [turn]) = (!turn.gainsTelling && (autoAddMissed turns ||
      (turn.before.isMute && turn.changesAutoAdd) || turn.dropsTelling)) := by
  simp [autoAddMissed]

theorem not_mute (heard : session.isMute = false) : session.contact ≠ .disconnected ∧
    session.shuttingDown = false ∧ session.queue.resetting = none := by
  simpa [isMute, Queue.isResetting, and_assoc] using heard

theorem setsOut_of_reset (coherent : session.Coherent) (heard : session.isMute = false)
    {filter : SuiteFilter}
    (resets : session.receive input = ({ session with filter } : Session).reset) :
    Turn.setsOut ⟨session, input⟩ = true := by
  rcases not_mute heard with ⟨connected, going, ended⟩
  let waiting : Session := { session with filter }
  have free : waiting.queue.state ≠ .reset := by simp [waiting, Queue.state_eq_reset, ended]
  rcases waiting.standing_reset free connected going (coherent.enabled connected going) with
    ⟨id, same⟩
  apply setsOut_of_begins ended
  rw [resets]
  exact congrArg Option.isSome (congrArg Standing.resetting same)

/-- A caller who changes the suites lets a reset set out, if anything can be told. -/
theorem setsOut_of_changesSuites (coherent : session.Coherent) (heard : session.isMute = false)
    (changes : Turn.changesSuites ⟨session, input⟩ = true) :
    Turn.setsOut ⟨session, input⟩ = true := by
  cases input with
  | updateFilter filter =>
      have differ : filter.selection ≠ session.filter.selection := by
        intro same
        have kept : (session.filter.update filter).registered = session.filter.registered :=
          SuiteFilter.registered_congr same
        simp [Turn.changesSuites, Turn.after, receive, kept] at changes
      exact setsOut_of_reset coherent heard (session.updateFilter_of_selection differ)
  | _ => cases changes

/-- A reset that sets out is what is to be told then. -/
theorem Turn.Tells.of_setsOut (tells : Turn.Tells ⟨session, input⟩)
    (begun : Turn.setsOut ⟨session, input⟩ = true) : Turn.told ⟨session, input⟩ = [] ∧
      (session.receive input).queue.tellings = [.reset (session.receive input).filter.registered
        (session.receive input).filter.autoAddNew] ∧
      Turn.gainsTelling ⟨session, input⟩ = true := by
  cases tells with
  | keeps same still silent =>
      rw [begun] at still
      cases still
  | registers quiet same still gained =>
      rw [begun] at still
      cases still
  | loads quiet same begun gained => exact ⟨quiet, same, gained⟩
  | drops closing same =>
      have kept : (session.receive input).queue.resetting = session.queue.resetting ∨
          (session.receive input).queue.resetting = none := by
        rw [show (session.receive input).queue = session.queue.disable from same]
        exact session.queue.resetting_disable
      rw [setsOut_of_kept kept] at begun
      cases begun

/-- A registration is accepted if anything can be told. -/
theorem gainsTelling_autoRegister (coherent : session.Coherent) (heard : session.isMute = false)
    (autoAddNew : Bool) :
    session.queue.gainsTelling (session.queue.add (Task.autoRegister autoAddNew)).1 = true := by
  rcases not_mute heard with ⟨connected, going, ended⟩
  have enabled := coherent.enabled connected going
  have accepted : ((session.queue.enter (Task.autoRegister autoAddNew)).1.submit
      session.queue.ledger.size).2 = true := by
    simp [Queue.submit, Queue.refusal?, Queue.enter, enabled, Queue.isResetting, ended]
  have gained := Queue.gainsTelling_submit _
    (session.queue.kind?_enter_new (Task.autoRegister autoAddNew))
  exact gained.trans (Bool.and_eq_true_iff.mpr ⟨accepted, rfl⟩)

/-- A caller who changes whether suites are to be added has that told, if anything can be. -/
theorem gained_of_changesAutoAdd (coherent : session.Coherent) (heard : session.isMute = false)
    (tells : Turn.Tells ⟨session, input⟩)
    (changes : Turn.changesAutoAdd ⟨session, input⟩ = true) :
    Turn.gainsTelling ⟨session, input⟩ = true := by
  cases input with
  | updateFilter filter =>
      let waiting : Session := { session with filter := session.filter.update filter }
      have changed : (session.filter.changeTo filter).autoAdd = true := by
        simpa [Turn.changesAutoAdd, Turn.after, receive, SuiteFilter.update, SuiteFilter.changeTo,
          bne_comm] using changes
      have any : (session.filter.changeTo filter).any = true := by
        simp [FilterChange.any, changed]
      cases only : (session.filter.changeTo filter).isOnlyAutoAdd with
      | true =>
          have follows : session.updateFilter filter =
              waiting.follow (Task.autoRegister waiting.filter.autoAddNew) := by
            simp only [updateFilter, any, only]
            rfl
          rw [Turn.gainsTelling, Turn.after, receive, follows]
          exact gainsTelling_autoRegister coherent heard _
      | false =>
          have resets : session.updateFilter filter = waiting.reset := by
            simp only [updateFilter, any, only]
            rfl
          exact (tells.of_setsOut (setsOut_of_reset coherent heard resets)).2.2
  | _ => cases changes

/-! ## Runs -/

/-- What was told and what is still to be told, in this order. -/
def telling (turns : List Turn) (session : Session) : List Request :=
  turns.flatMap Turn.told ++ session.queue.tellings

/-- Whether what is told last is what the filter has, unless it was overlooked or given up. -/
structure UpToDate (first : List String) (turns : List Turn) (session : Session) : Prop where
  suites : suitesOverlooked turns = false → resetAborted turns = false →
    ((telling turns session).filterMap Request.suites?).getLast? = some (wantedSuites first turns)
  autoAdd : autoAddMissed turns = false →
    ((telling turns session).filterMap Request.autoAdd?).getLast? = some session.filter.autoAddNew

variable {first : List String}

theorem upToDate_of_loads (quiet : Turn.told ⟨session, input⟩ = [])
    (same : (session.receive input).queue.tellings = [.reset (session.receive input).filter.registered
      (session.receive input).filter.autoAddNew])
    (begun : Turn.setsOut ⟨session, input⟩ = true) :
    UpToDate first (turns ++ [⟨session, input⟩]) (session.receive input) where
  suites := by simp [telling, quiet, same, begun, Request.suites?, Turn.after]
  autoAdd := by simp [telling, quiet, same, Request.autoAdd?]

/-- Where the filter is not changed by a caller, its setting of adding suites stays. -/
theorem autoAddNew_of_unchanged (coherent : session.Coherent)
    (unchanged : Turn.changesAutoAdd ⟨session, input⟩ = false) :
    (session.receive input).filter.autoAddNew = session.filter.autoAddNew := by
  cases filters_receive coherent.sound input with
  | keeps same => rw [same]
  | updates filter same => simpa [Turn.changesAutoAdd, Turn.after] using unchanged
  | lists id flying kind same => rw [same, SuiteFilter.setLoaded]

theorem telling_concat (turns : List Turn) (turn : Turn) : telling (turns ++ [turn]) turn.after =
    turns.flatMap Turn.told ++ (turn.told ++ turn.after.queue.tellings) := by
  simp [telling]

/-- Without a reset that sets out, what is wanted stays, or is overlooked. -/
theorem wantedSuites_of_still (coherent : session.Coherent)
    (still : Turn.setsOut ⟨session, input⟩ = false)
    (heeded : suitesOverlooked (turns ++ [⟨session, input⟩]) = false) :
    suitesOverlooked turns = false ∧
      wantedSuites first (turns ++ [⟨session, input⟩]) = wantedSuites first turns := by
  rw [suitesOverlooked_concat, still] at heeded
  simp only [Bool.not_false, Bool.true_and, Bool.or_eq_false_iff] at heeded
  have unchanged : Turn.changesSuites ⟨session, input⟩ = false := by
    refine Bool.eq_false_iff.mpr fun changes => ?_
    have heard : session.isMute = false := by simpa [changes] using heeded.2
    rw [setsOut_of_changesSuites coherent heard changes] at still
    cases still
  exact ⟨heeded.1, by simp [still, unchanged]⟩

theorem resetAborted_of_still (still : turn.setsOut = false)
    (alive : resetAborted (turns ++ [turn]) = false) :
    resetAborted turns = false ∧ turn.abortsReset = false := by
  simpa [still] using alive

/-- Without anything new to tell, the setting of adding suites stays, or the change is missed. -/
theorem autoAddNew_of_silent (coherent : session.Coherent) (tells : Turn.Tells ⟨session, input⟩)
    (silent : Turn.gainsTelling ⟨session, input⟩ = false)
    (heeded : autoAddMissed (turns ++ [⟨session, input⟩]) = false) :
    autoAddMissed turns = false ∧ Turn.dropsTelling ⟨session, input⟩ = false ∧
      (session.receive input).filter.autoAddNew = session.filter.autoAddNew := by
  rw [autoAddMissed_concat, silent] at heeded
  simp only [Bool.not_false, Bool.true_and, Bool.or_eq_false_iff] at heeded
  refine ⟨heeded.1.1, heeded.2, autoAddNew_of_unchanged coherent ?_⟩
  refine Bool.eq_false_iff.mpr fun changes => ?_
  have heard : session.isMute = false := by simpa [changes] using heeded.1.2
  rw [gained_of_changesAutoAdd coherent heard tells changes] at silent
  cases silent

/-- What is told is told in the order in which it waited. -/
theorem UpToDate.of_same (upToDate : UpToDate first turns session) (coherent : session.Coherent)
    (turn : Turn.Tells ⟨session, input⟩) (still : Turn.setsOut ⟨session, input⟩ = false)
    (silent : Turn.gainsTelling ⟨session, input⟩ = false)
    (suites : Turn.abortsReset ⟨session, input⟩ = false →
      (telling (turns ++ [⟨session, input⟩]) (session.receive input)).filterMap Request.suites? =
        (telling turns session).filterMap Request.suites?)
    (autoAdd : Turn.dropsTelling ⟨session, input⟩ = false →
      telling (turns ++ [⟨session, input⟩]) (session.receive input) = telling turns session) :
    UpToDate first (turns ++ [⟨session, input⟩]) (session.receive input) where
  suites := by
    intro heeded alive
    rcases wantedSuites_of_still coherent still heeded with ⟨before, wanted⟩
    rcases resetAborted_of_still still alive with ⟨aliveBefore, kept⟩
    rw [suites kept, wanted]
    exact upToDate.suites before aliveBefore
  autoAdd := by
    intro heeded
    rcases autoAddNew_of_silent coherent turn silent heeded with ⟨before, kept, same⟩
    rw [autoAdd kept, same]
    exact upToDate.autoAdd before

theorem UpToDate.of_registers (upToDate : UpToDate first turns session) (coherent : session.Coherent)
    (still : Turn.setsOut ⟨session, input⟩ = false)
    (same : telling (turns ++ [⟨session, input⟩]) (session.receive input) =
      telling turns session ++ [.suiteAutoRegister (session.receive input).filter.autoAddNew]) :
    UpToDate first (turns ++ [⟨session, input⟩]) (session.receive input) where
  suites := by
    intro heeded alive
    rcases wantedSuites_of_still coherent still heeded with ⟨before, wanted⟩
    rw [same, wanted]
    simpa [Request.suites?] using upToDate.suites before (resetAborted_of_still still alive).1
  autoAdd := by simp [same, Request.autoAdd?]

theorem UpToDate.of_drops (upToDate : UpToDate first turns session) (coherent : session.Coherent)
    (turn : Turn.Tells ⟨session, input⟩) (closing : input = .disconnect ∨ input = .shutdown)
    (same : (session.receive input).queue = session.queue.disable) :
    UpToDate first (turns ++ [⟨session, input⟩]) (session.receive input) := by
  have resetting : (session.receive input).queue.resetting = session.queue.resetting ∨
      (session.receive input).queue.resetting = none := same ▸ session.queue.resetting_disable
  have quiet : Turn.told ⟨session, input⟩ = [] := by
    rcases closing with rfl | rfl <;> rfl
  have after : telling (turns ++ [⟨session, input⟩]) (session.receive input) =
      turns.flatMap Turn.told := by
    simp [telling, quiet, same]
  have silent : Turn.gainsTelling ⟨session, input⟩ = false := by
    have none : session.queue.arrivals (session.receive input).queue = [] :=
      Queue.arrivals_of_ends (by simp [same])
    simp [Turn.gainsTelling, Turn.after, Queue.gainsTelling, none]
  refine upToDate.of_same coherent turn (setsOut_of_kept resetting) silent ?_ ?_
  · intro kept
    have waiting : session.queue.isResetting = true → session.queue.disable.isResetting = true := by
      rcases closing with rfl | rfl <;>
        simpa [Turn.abortsReset, Turn.after, same] using kept
    rw [after, telling, List.filterMap_append,
      coherent.sound.suites_of_kept waiting, List.append_nil]
  · intro kept
    have departed : Turn.departed ⟨session, input⟩ = session.queue.pending := by
      rw [Turn.departed, Turn.after, same]
      exact coherent.sound.waiting_disable.1
    have nothing : session.queue.pending.any session.queue.isTelling = false := by
      rcases closing with rfl | rfl <;> simpa [Turn.dropsTelling, departed] using kept
    rw [after, telling, Queue.tellings_of_silent nothing, List.append_nil]

theorem UpToDate.step (upToDate : UpToDate first turns session) (coherent : session.Coherent)
    (turn : Turn.Tells ⟨session, input⟩) :
    UpToDate first (turns ++ [⟨session, input⟩]) (session.receive input) := by
  have concat := telling_concat turns ⟨session, input⟩
  have told := turn
  cases told with
  | keeps same still silent =>
      rw [same] at concat
      exact upToDate.of_same coherent turn still silent (fun _ => congrArg _ concat) fun _ => concat
  | registers quiet same still gained =>
      rw [quiet, same, List.nil_append, ← List.append_assoc] at concat
      exact upToDate.of_registers coherent still concat
  | loads quiet same begun gained => exact upToDate_of_loads quiet same begun
  | drops closing same => exact upToDate.of_drops coherent turn closing same

theorem upToDate_receiveAll (options : SessionOptions) {inputs : List Input}
    (named : namesHeld [] ((new options).turns (.reset :: inputs)) = true) :
    UpToDate options.filter.registered ((new options).turns (.reset :: inputs))
      ((new options).receiveAll (.reset :: inputs)) := by
  induction inputs using List.reverseRecOn with
  | nil =>
      have coherent := coherent_new options
      have begun : Turn.setsOut ⟨new options, .reset⟩ = true :=
        setsOut_of_reset coherent rfl rfl
      have turn : Turn.Tells ⟨new options, .reset⟩ :=
        tells_receive coherent Queue.tended_new (by simp [Input.named])
      rcases turn.of_setsOut begun with ⟨quiet, same, -⟩
      show UpToDate _ ([] ++ [⟨new options, .reset⟩]) ((new options).receive .reset)
      exact upToDate_of_loads quiet same begun
  | append_singleton inputs input induction =>
      have earlier := named
      rw [← List.cons_append, turns_concat, namesHeld_concat, Bool.and_eq_true] at earlier
      rw [← List.cons_append, receiveAll_concat, turns_concat]
      have coherent := coherent_receiveAll options (.reset :: inputs)
      refine (induction earlier.1).step coherent (tells_receive coherent
        (tended_receiveAll options earlier.1) ?_)
      intro id member
      simpa using List.all_eq_true.mp earlier.2 id member

/-- In any run that starts with a reset, and in which callers name only tasks that they hold,
a session that may send and has nothing to send has told the server of the filter: what the
last reset registered are the suites that were wanted, and what was last told of adding
suites is what the filter has, unless the change was overlooked or its task given up. -/
theorem told_of_rest (options : SessionOptions) (inputs : List Input)
    (named : namesHeld [] ((new options).turns (.reset :: inputs)) = true)
    (connected : ((new options).receiveAll (.reset :: inputs)).contact ≠ .disconnected)
    (going : ((new options).receiveAll (.reset :: inputs)).shuttingDown = false)
    (rest : ((new options).receiveAll (.reset :: inputs)).queue.pending = []) :
    (suitesOverlooked ((new options).turns (.reset :: inputs)) = false →
      lastSuites? ((new options).turns (.reset :: inputs)) =
        some (wantedSuites options.filter.registered ((new options).turns (.reset :: inputs)))) ∧
    (autoAddMissed ((new options).turns (.reset :: inputs)) = false →
      lastAutoAdd? ((new options).turns (.reset :: inputs)) =
        some ((new options).receiveAll (.reset :: inputs)).filter.autoAddNew) := by
  have upToDate := upToDate_receiveAll options named
  have occupied := occupied_receiveAll options (.reset :: inputs)
  generalize (new options).receiveAll (.reset :: inputs) = session at *
  generalize (new options).turns (.reset :: inputs) = turns at *
  have told : telling turns session = turns.flatMap Turn.told := by
    simp [telling, Queue.tellings, rest]
  have alive : resetAborted turns = false := by
    refine Bool.eq_false_iff.mpr fun aborted => ?_
    have closed := occupied.closed aborted
    simp [standing, connected, going] at closed
  refine ⟨fun heeded => ?_, fun heeded => ?_⟩
  · rw [lastSuites?, ← told]
    exact upToDate.suites heeded alive
  · rw [lastAutoAdd?, ← told]
    exact upToDate.autoAdd heeded

/-- A load, then a caller who selects another suite, and one who has new suites added. -/
def retells : List Input :=
  loads ++ [.updateFilter (.selecting ["s2"]), .takeStep,
    .complete (.ok { definition := some twoSuites }), .takeStep,
    .complete (.ok { lines := ["s1", "s2"] }),
    .updateFilter { SuiteFilter.selecting ["s2"] with autoAddNew := true }, .takeStep,
    .complete (.ok {})]

theorem told_of_rest_of_retells :
    (namesHeld [] ((new sampleOptions).turns (.reset :: retells)) = true ∧
      ((new sampleOptions).receiveAll (.reset :: retells)).contact ≠ .disconnected ∧
      ((new sampleOptions).receiveAll (.reset :: retells)).shuttingDown = false ∧
      ((new sampleOptions).receiveAll (.reset :: retells)).queue.pending = [] ∧
      suitesOverlooked ((new sampleOptions).turns (.reset :: retells)) = false ∧
      autoAddMissed ((new sampleOptions).turns (.reset :: retells)) = false) ∧
    (suitesOverlooked ((new sampleOptions).turns (.reset :: retells)) = false →
      lastSuites? ((new sampleOptions).turns (.reset :: retells)) =
        some (wantedSuites sampleOptions.filter.registered
          ((new sampleOptions).turns (.reset :: retells)))) ∧
    (autoAddMissed ((new sampleOptions).turns (.reset :: retells)) = false →
      lastAutoAdd? ((new sampleOptions).turns (.reset :: retells)) =
        some ((new sampleOptions).receiveAll (.reset :: retells)).filter.autoAddNew) :=
  ⟨by decide +kernel, told_of_rest sampleOptions retells (by decide +kernel) (by decide +kernel)
    (by decide +kernel) (by decide +kernel)⟩

/-- Whether a session is in contact with its server and has nothing to do. -/
def isAtRest (session : Session) : Bool :=
  session.contact = .normal && session.activity = .idle && !session.shuttingDown &&
    session.queue.pending.isEmpty && session.queue.inFlight.isNone

/-- A reset after a list of suites has let one join. -/
def reloadsJoined : List Input :=
  listsLater ++ [.reset, .takeStep, .complete (.ok { definition := some twoSuites }),
    .takeStep, .complete (.ok { lines := ["s1", "s2"] })]

/-- A caller updates the filter while the session is disconnected, and it connects again. -/
def updatesLate (filter : SuiteFilter) : List Input :=
  .reset :: loads ++ [.disconnect, .updateFilter filter, .connect, .takeStep,
    .complete (.ok { news := some .noNews })]

/-- Suites that have joined are registered by the next reset, though no caller selected them. What
callers change while the session is disconnected is told neither then nor after that. -/
theorem told_otherwise :
    (((new joiningOptions).receiveAll reloadsJoined).isAtRest = true ∧
      joiningOptions.filter.registered = ["s1"] ∧
      lastSuites? ((new joiningOptions).turns reloadsJoined) = some ["s1", "s2"]) ∧
    (((new sampleOptions).receiveAll (updatesLate (.selecting ["s2"]))).isAtRest = true ∧
      ((new sampleOptions).receiveAll (updatesLate (.selecting ["s2"]))).filter.registered = ["s2"] ∧
      lastSuites? ((new sampleOptions).turns (updatesLate (.selecting ["s2"]))) = some []) ∧
    (((new sampleOptions).receiveAll (updatesLate { autoAddNew := true })).isAtRest = true ∧
      ((new sampleOptions).receiveAll (updatesLate { autoAddNew := true })).filter.autoAddNew = true ∧
      lastAutoAdd? ((new sampleOptions).turns (updatesLate { autoAddNew := true })) = some false) := by
  decide +kernel

end FlowClient.Session
