import FlowClient.Proofs.Session.Filters
import FlowClient.Proofs.Session.Mirrored
import FlowClient.Proofs.Session.Resets

/-! Whether the mirror shows the suites that the filter selects now, and not those that it
selected when the mirror was last scanned. Callers who select other suites have the
mirror emptied, unless nothing may be sent just then. A list of suites that lets new ones
join the selection has not. -/

namespace FlowClient

/-! ## Selections -/

/-- The suites that a filter selects, where none means all. -/
def SuiteFilter.selection (filter : SuiteFilter) : Option NameSet :=
  if filter.enabled then some filter.suites else none

namespace SuiteFilter

variable {filter other : SuiteFilter}

theorem accepts_congr (same : filter.selection = other.selection) :
    filter.accepts = other.accepts := by
  funext suite
  rw [selection, selection] at same
  rw [accepts, accepts]
  cases enabled : filter.enabled <;> cases otherEnabled : other.enabled <;>
    simp [enabled, otherEnabled] at same ⊢
  rw [same]

theorem registered_congr (same : filter.selection = other.selection) :
    filter.registered = other.registered := by
  rw [selection, selection] at same
  rw [registered, registered]
  cases enabled : filter.enabled <;> cases otherEnabled : other.enabled <;>
    simp [enabled, otherEnabled] at same ⊢
  rw [same]

/-- A change of the selection is one that a server is not told without a reset. -/
theorem changeTo_of_selection (differ : other.selection ≠ filter.selection) :
    (filter.changeTo other).any = true ∧ (filter.changeTo other).isOnlyAutoAdd = false := by
  have changed : (filter.changeTo other).enabled = true ∨ (filter.changeTo other).suites = true := by
    by_contra kept
    simp only [changeTo, bne_iff_ne, ne_eq, not_or, not_not] at kept
    exact differ (by rw [selection, selection, kept.1, kept.2])
  rcases changed with enabled | suites
  · simp [FilterChange.any, FilterChange.isOnlyAutoAdd, enabled]
  · simp [FilterChange.any, FilterChange.isOnlyAutoAdd, suites]

end SuiteFilter

/-- A scan brings the suites that the filter accepts, in their order. -/
theorem Mirror.names_scanned (definition : Definition) (filter : SuiteFilter) :
    (scanned definition filter).map (·.label.name) =
      definition.suiteNames.filter filter.accepts := by
  rw [scanned, names_scanNodes, Definition.suiteNames, List.filter_map]
  rfl

namespace Session

variable {session : Session} {turns : List Turn} {input : Input}

/-! ## Overlooked selections -/

/-- Whether a turn changes what the filter selects and leaves the mirror as it is: by a list of
suites, or by a caller while nothing may be sent. -/
def Turn.overlooksSelection (turn : Turn) : Bool :=
  turn.after.filter.selection != turn.before.filter.selection && match turn.input with
    | .updateFilter _ => turn.before.contact = .disconnected || turn.before.shuttingDown
    | .complete _ => turn.before.flyingKind? == some .suiteList
    | _ => false

/-- Whether a change of the selection was overlooked since the last scan. -/
def selectionOverlooked (turns : List Turn) : Bool :=
  turns.foldl (fun overlooked turn => !turn.scans && (overlooked || turn.overlooksSelection)) false

@[simp] theorem selectionOverlooked_concat (turns : List Turn) (turn : Turn) :
    selectionOverlooked (turns ++ [turn]) =
      (!turn.scans && (selectionOverlooked turns || turn.overlooksSelection)) := by
  simp [selectionOverlooked]

/-! ## Turns -/

/-- A caller who selects other suites asks for a reset. -/
theorem updateFilter_of_selection (session : Session) {filter : SuiteFilter}
    (differ : filter.selection ≠ session.filter.selection) : session.updateFilter filter =
      ({ session with filter := session.filter.update filter } : Session).reset := by
  rcases SuiteFilter.changeTo_of_selection differ with ⟨changed, further⟩
  simp only [updateFilter, changed, further]
  rfl

/-- A caller who selects other suites has the mirror emptied, if anything may be sent. -/
theorem shown_updateFilter (coherent : session.Coherent)
    (blank : Standing.Blank session.standing) (connected : session.contact ≠ .disconnected)
    (going : session.shuttingDown = false) {filter : SuiteFilter}
    (differ : filter.selection ≠ session.filter.selection) :
    (session.updateFilter filter).standing.shown = [] := by
  let waiting : Session := { session with filter := session.filter.update filter }
  have after : session.updateFilter filter = waiting.reset :=
    session.updateFilter_of_selection differ
  rw [after]
  by_cases ended : waiting.queue.state = .reset
  · rw [waiting.reset_of_blocked (.inl ended)]
    exact blank (coherent.loading (Queue.state_eq_reset.mp ended).2)
  · have enabled := coherent.enabled connected going
    rcases waiting.standing_reset ended connected going enabled with ⟨id, same⟩
    rw [same]

/-- Without a scan nothing comes to be shown. -/
theorem shown_of_goesOn (coherent : session.Coherent)
    (goesOn : Turn.scans ⟨session, input⟩ = false)
    (filled : (session.receive input).standing.shown ≠ []) : session.standing.shown ≠ [] := by
  cases effect_receive coherent input with
  | stays same => exact same ▸ filled
  | begins id going same ended => exact absurd (congrArg Standing.shown same) filled
  | connects going full same => exact (same ▸ filled :)
  | disconnects resetting kept same => exact (same ▸ filled :)
  | closes resetting kept same => exact (same ▸ filled :)
  | fails flying useless same => exact (same ▸ filled :)
  | @follows reply taken definition mirror part full same used =>
      have before := ((taken.keepsUp_applySync reply).filled full).1
      simpa [Mirror.isEmpty, mirror, standing] using before
  | @scans reply definition cleared filter same used =>
      have scans : Turn.scans ⟨session, .complete (.ok reply)⟩ = true :=
        scans_of_scan (congrArg Standing.operations same)
      rw [goesOn] at scans
      cases scans

/-- A turn after which anything is shown keeps the selection, unless it overlooks the change. -/
theorem selection_of_heeded (coherent : session.Coherent)
    (blank : Standing.Blank session.standing)
    (heeded : Turn.overlooksSelection ⟨session, input⟩ = false)
    (filled : (session.receive input).standing.shown ≠ []) :
    (session.receive input).filter.selection = session.filter.selection := by
  by_contra differ
  cases filters_receive coherent.sound input with
  | keeps same => exact differ (congrArg SuiteFilter.selection same)
  | updates filter same =>
      obtain ⟨connected, going⟩ :
          session.contact ≠ .disconnected ∧ session.shuttingDown = false := by
        simpa [Turn.overlooksSelection, Turn.after, differ] using heeded
      rw [same] at differ
      exact filled (shown_updateFilter coherent blank connected going differ)
  | lists id flying kind same =>
      simp [Turn.overlooksSelection, Turn.after, differ, flyingKind?_of_known flying kind] at heeded

/-! ## Runs -/

/-- What is shown was scanned with the present selection, unless a change was overlooked. -/
def SelectsLast (turns : List Turn) (session : Session) : Prop :=
  session.standing.shown ≠ [] → selectionOverlooked turns = false →
    ∀ turn, lastScan? turns = some turn →
      turn.before.filter.selection = session.filter.selection

theorem selectsLast_receive (coherent : session.Coherent)
    (blank : Standing.Blank session.standing) (mirrors : MirrorsLast turns session)
    (selects : SelectsLast turns session) (input : Input) :
    SelectsLast (turns ++ [⟨session, input⟩]) (session.receive input) := by
  intro filled heeded turn last
  have mirrorsAfter := mirrorsLast_receive coherent mirrors input filled
  rw [lastScan?_concat] at last mirrorsAfter
  rw [selectionOverlooked_concat] at heeded
  cases scans : Turn.scans ⟨session, input⟩ with
  | true =>
      rcases mirrorsAfter with ⟨scan, scanned, filter, -⟩
      simp only [scans, if_true, Option.some.injEq] at last scanned
      rw [← last]
      rw [← scanned] at filter
      exact congrArg SuiteFilter.selection filter.symm
  | false =>
      simp only [scans, Bool.false_eq_true, if_false] at last
      simp only [scans, Bool.not_false, Bool.true_and, Bool.or_eq_false_iff] at heeded
      have before := selects (shown_of_goesOn coherent scans filled) heeded.1 turn last
      exact before.trans (selection_of_heeded coherent blank heeded.2 filled).symm

theorem selectsLast_receiveAll (options : SessionOptions) (inputs : List Input) :
    SelectsLast ((new options).turns inputs) ((new options).receiveAll inputs) := by
  induction inputs using List.reverseRecOn with
  | nil => exact fun filled => absurd rfl filled
  | append_singleton inputs input induction =>
      rw [receiveAll_concat, turns_concat]
      exact selectsLast_receive (coherent_receiveAll options inputs)
        (blank_receiveAll options inputs) (mirrorsLast_receiveAll options inputs) induction input

/-- In any run, a mirror that is not empty has just the suites of the definition that the filter
accepts, in their order, unless since the last scan a change of the selection was
overlooked. -/
theorem suiteNames_eq_accepted (options : SessionOptions) (inputs : List Input)
    (filled : ((new options).receiveAll inputs).mirror.isEmpty = false)
    (heeded : selectionOverlooked ((new options).turns inputs) = false) :
    ((new options).receiveAll inputs).mirror.suiteNames =
      ((new options).receiveAll inputs).definition.suiteNames.filter
        ((new options).receiveAll inputs).filter.accepts := by
  have mirrors := mirrorsLast_receiveAll options inputs
  have selects := selectsLast_receiveAll options inputs
  generalize (new options).receiveAll inputs = session at *
  have shown : session.standing.shown ≠ [] := by
    simpa [Mirror.isEmpty, standing] using filled
  rcases mirrors shown with ⟨turn, last, -, scanned⟩
  have selection := selects shown heeded turn last
  calc session.mirror.suiteNames
    _ = (Mirror.scanned session.definition turn.before.filter).map (·.label.name) :=
      congrArg _ scanned
    _ = session.definition.suiteNames.filter turn.before.filter.accepts :=
      Mirror.names_scanned session.definition turn.before.filter
    _ = session.definition.suiteNames.filter session.filter.accepts := by
      rw [SuiteFilter.accepts_congr selection]

def twoSuites : Definition := { suites := [.node { name := "s1" } [], .node { name := "s2" } []] }

/-- A caller who selects another suite of a loaded session, and the load that follows. -/
def reselects : List Input :=
  .reset :: loads ++ [.updateFilter (.selecting ["s2"]), .takeStep,
    .complete (.ok { definition := some twoSuites })]

theorem suiteNames_eq_accepted_of_reselects :
    ((new sampleOptions).receiveAll reselects).mirror.isEmpty = false ∧
      selectionOverlooked ((new sampleOptions).turns reselects) = false ∧
      ((new sampleOptions).receiveAll reselects).mirror.suiteNames =
        ((new sampleOptions).receiveAll reselects).definition.suiteNames.filter
          ((new sampleOptions).receiveAll reselects).filter.accepts :=
  ⟨by decide +kernel, by decide +kernel,
    suiteNames_eq_accepted sampleOptions reselects (by decide +kernel) (by decide +kernel)⟩

/-- Options whose filter selects one suite, and others as soon as the server lists them. -/
def joiningOptions : SessionOptions :=
  { sampleOptions with filter := { SuiteFilter.selecting ["s1"] with autoAddNew := true } }

/-- A server that has two suites lists one of them, and after the next news both. -/
def listsLater : List Input :=
  [.reset, .takeStep, .complete (.ok { definition := some twoSuites }),
    .takeStep, .complete (.ok { lines := ["s1"] }),
    .tick, .takeStep, .complete (.ok { news := some .news }), .takeStep, .complete (.ok {}),
    .takeStep, .complete (.ok { lines := ["s1", "s2"] })]

/-- A caller selects another suite while the session is disconnected. -/
def reselectsLate : List Input := .reset :: loads ++ [.disconnect, .updateFilter (.selecting ["s2"])]

/-- Neither a suite that a list lets join, nor what is selected while nothing may be sent, finds
its way into the mirror. -/
theorem suiteNames_of_overlooked :
    ((new joiningOptions).receiveAll listsLater).mirror.suiteNames = ["s1"] ∧
      ((new joiningOptions).receiveAll listsLater).definition.suiteNames.filter
        ((new joiningOptions).receiveAll listsLater).filter.accepts = ["s1", "s2"] ∧
      ((new sampleOptions).receiveAll reselectsLate).mirror.suiteNames = ["s1"] ∧
      ((new sampleOptions).receiveAll reselectsLate).definition.suiteNames.filter
        ((new sampleOptions).receiveAll reselectsLate).filter.accepts = [] := by
  decide +kernel

end Session

end FlowClient
