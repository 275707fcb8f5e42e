import FlowClient.Proofs.Session.Effects

/-! Whether a mirror that was emptied is filled again. A reset empties it, and the reply
to the reset fills it. A reset that comes back without a use leaves it empty, and the
session may then well be idle and in contact with its server. Nothing else can do that. -/

namespace FlowClient.Session

/-! ## Lost resets -/

/-- Whether a turn takes a reset back that does not fill the mirror, although the
session is not disconnected: it failed, or the session is shutting down. -/
def Turn.losesReset (turn : Turn) : Bool :=
  match turn.input with
  | .complete outcome =>
      turn.before.flyingKind? == some .reset &&
        (turn.before.shuttingDown || (turn.before.contact != .disconnected && !outcome.isOk))
  | _ => false

/-- Whether a reset was lost since the last scan. -/
def resetLost (turns : List Turn) : Bool :=
  turns.foldl (fun lost turn => !turn.scans && (lost || turn.losesReset)) false

@[simp] theorem resetLost_nil : resetLost [] = false := rfl

@[simp] theorem resetLost_concat (turns : List Turn) (turn : Turn) :
    resetLost (turns ++ [turn]) = (!turn.scans && (resetLost turns || turn.losesReset)) := by
  simp [resetLost]

theorem losesReset_of_useless {before : Session} {outcome : Outcome}
    (flying : before.flyingKind? = some .reset)
    (useless : (∃ failure, outcome = .error failure) ∨ before.contact = .disconnected ∨
      before.shuttingDown = true) :
    before.contact = .disconnected ∨ Turn.losesReset ⟨before, .complete outcome⟩ = true := by
  by_cases disconnected : before.contact = .disconnected
  · exact .inl disconnected
  right
  rcases useless with ⟨failure, rfl⟩ | other | closing
  · simp [Turn.losesReset, flying, disconnected, Except.isOk, Except.toBool]
  · exact absurd other disconnected
  · simp [Turn.losesReset, flying, closing]

/-! ## The last operation -/

def Standing.endsInScan (standing : Standing) : Prop :=
  ∃ notice, standing.operations.getLast? = some notice ∧ notice.event = .scanEnd

/-- Why a mirror may be left empty for now. -/
inductive Awaits (standing : Standing) (lost : Bool) : Prop
  | reset (current : standing.resetting.isSome = true)
  | connection (disconnected : standing.disconnected = true)
  | news (lost : lost = true)
  | nothing (loading : standing.activity = .loading) (closing : standing.shuttingDown = true)

/-- What is known of a mirror that was last scanned: in which turn that was, and that the
mirror is empty just if the scan brought nothing. -/
structure FilledBy (turns : List Turn) (standing : Standing) (notice : Notice) : Prop where
  empty_iff : standing.shown = [] ↔ notice.shown = []
  from_turn : ∃ turn ∈ turns, turn.scans = true ∧
    notice.shown = Mirror.scanned turn.after.definition turn.before.filter

/-- After these turns the mirror was last scanned, or it is empty and that has a reason. -/
structure Accounted (turns : List Turn) (standing : Standing) : Prop where
  filled : standing.shown ≠ [] → Standing.endsInScan standing
  scanned : ∀ notice, standing.operations.getLast? = some notice → notice.event = .scanEnd →
    FilledBy turns standing notice
  awaited : Standing.endsInScan standing ∨ Awaits standing (resetLost turns)

theorem FilledBy.later {turns : List Turn} {standing later : Standing} {notice : Notice}
    (filledBy : FilledBy turns standing notice) (turn : Turn)
    (same : later.shown = [] ↔ standing.shown = []) : FilledBy (turns ++ [turn]) later notice where
  empty_iff := same.trans filledBy.empty_iff
  from_turn := by
    rcases filledBy.from_turn with ⟨source, member, rest⟩
    exact ⟨source, List.mem_append_left _ member, rest⟩

variable {session : Session} {turns : List Turn} {input : Input}

/-- A turn that leaves the operations, and whether there is anything shown, has only to
keep the reason for an empty mirror. -/
theorem Accounted.later (accounted : Accounted turns session.standing)
    (operations : (session.receive input).operations = session.operations)
    (shown : (session.receive input).standing.shown = [] ↔ session.standing.shown = [])
    (awaited : Awaits session.standing (resetLost turns) →
      Standing.endsInScan session.standing ∨ Awaits (session.receive input).standing
        (resetLost turns || Turn.losesReset ⟨session, input⟩)) :
    Accounted (turns ++ [⟨session, input⟩]) (session.receive input).standing := by
  have same : (session.receive input).standing.operations = session.standing.operations := operations
  have goesOn : Turn.scans ⟨session, input⟩ = false := not_scans_of_same operations
  have endsInScan : Standing.endsInScan session.standing →
      Standing.endsInScan (session.receive input).standing := by
    rw [Standing.endsInScan, Standing.endsInScan, same]
    exact id
  refine ⟨?_, ?_, ?_⟩
  · exact fun some => endsInScan (accounted.filled fun none => some (shown.mpr none))
  · rw [same]
    intro notice last scan
    exact (accounted.scanned notice last scan).later _ shown
  · rw [resetLost_concat, goesOn]
    rcases accounted.awaited with scanned | reason
    · exact .inl (endsInScan scanned)
    · exact (awaited reason).imp_left endsInScan

/-- A reset that sets out empties the mirror and is a reason for that. -/
theorem accounted_of_clear (scanned : ∀ notice, session.operations.getLast? = some notice →
      notice.event = .scanEnd → FilledBy turns session.standing notice)
    (operations : (session.receive input).operations = session.operations ++ session.clearing)
    (shown : (session.receive input).standing.shown = [])
    (resetting : (session.receive input).standing.resetting.isSome = true) :
    Accounted (turns ++ [⟨session, input⟩]) (session.receive input).standing := by
  refine ⟨fun some => absurd shown some, ?_, .inr (.reset resetting)⟩
  intro notice last scan
  replace last : (session.operations ++ session.clearing).getLast? = some notice := operations ▸ last
  rw [clearing] at last
  split at last
  · rename_i empty
    have shownBefore : session.standing.shown = [] := List.isEmpty_iff.mp empty
    rw [List.append_nil] at last
    exact (scanned notice last scan).later _ (by simp [shown, shownBefore])
  · rw [List.getLast?_concat] at last
    rw [← Option.some.inj last] at scan
    cases scan

theorem accounted_of_scan {definition : Definition} {cleared : List Notice}
    (operations : (session.receive input).operations = session.operations ++ cleared ++
      [⟨.scanEnd, Mirror.scanned definition session.filter, session.observers⟩])
    (shown : (session.receive input).standing.shown = Mirror.scanned definition session.filter)
    (after : (session.receive input).definition = definition) :
    Accounted (turns ++ [⟨session, input⟩]) (session.receive input).standing := by
  have last : (session.receive input).standing.operations.getLast? =
      some ⟨.scanEnd, Mirror.scanned definition session.filter, session.observers⟩ := by
    rw [show (session.receive input).standing.operations = _ from operations]
    exact List.getLast?_concat
  refine ⟨fun _ => ⟨_, last, rfl⟩, ?_, .inl ⟨_, last, rfl⟩⟩
  intro notice same _
  rw [last] at same
  rw [← Option.some.inj same]
  refine ⟨by rw [shown], ⟨session, input⟩, by simp, scans_of_scan operations, ?_⟩
  rw [← after]
  rfl

theorem accounted_receive (coherent : session.Coherent)
    (accounted : Accounted turns session.standing) (input : Input) :
    Accounted (turns ++ [⟨session, input⟩]) (session.receive input).standing := by
  cases effect_receive coherent input with
  | stays same =>
      apply accounted.later (congrArg Standing.operations same) (by rw [same])
      intro reason
      right
      rw [same]
      cases reason with
      | reset current => exact .reset current
      | connection disconnected => exact .connection disconnected
      | news lost => exact .news (by simp [lost])
      | nothing loading closing => exact .nothing loading closing
  | begins id going same =>
      exact accounted_of_clear accounted.scanned (congrArg Standing.operations same)
        (by rw [same]) (by rw [same]; rfl)
  | connects going filled same =>
      apply accounted.later (congrArg Standing.operations same) (by rw [same])
      intro _
      rcases filled with filled | current
      · left
        apply accounted.filled
        intro empty
        have : session.mirror.suites = [] := empty
        simp [Mirror.isEmpty, this] at filled
      · rw [same]
        exact .inr (.reset current)
  | disconnects resetting kept same =>
      apply accounted.later (congrArg Standing.operations same) (by rw [same])
      intro _
      right
      rw [same]
      exact .connection rfl
  | closes resetting kept same =>
      apply accounted.later (congrArg Standing.operations same) (by rw [same])
      intro reason
      right
      rw [same]
      cases reason with
      | reset current => exact .nothing (coherent.loading current) rfl
      | connection disconnected => exact .connection disconnected
      | news lost => exact .news (by simp [lost])
      | nothing loading closing => exact .nothing loading rfl
  | fails flying useless same =>
      apply accounted.later (congrArg Standing.operations same) (by rw [same])
      intro _
      right
      rw [same]
      rcases losesReset_of_useless flying useless with disconnected | lost
      · exact .connection (by simpa [standing] using disconnected)
      · exact .news (by simp [lost])
  | @follows reply taken definition mirror part filled same =>
      have before := (taken.keepsUp_applySync reply).filled filled
      have shownBefore : session.standing.shown ≠ [] := by
        simpa [Mirror.isEmpty, mirror, standing] using before.1
      have shownAfter : (taken.applySync reply).mirror.suites ≠ [] := by
        simpa [Mirror.isEmpty] using filled
      refine accounted.later (congrArg Standing.operations same) ?_ fun _ =>
        .inl (accounted.filled shownBefore)
      rw [same]
      exact iff_of_false shownAfter shownBefore
  | scans definition cleared filter same =>
      exact accounted_of_scan (congrArg Standing.operations same) (by rw [same])
        (congrArg Standing.definition same)

theorem accounted_receiveAll (options : SessionOptions) (inputs : List Input) :
    Accounted ((new options).turns (.reset :: inputs))
      ((new options).receiveAll (.reset :: inputs)).standing := by
  induction inputs using List.reverseRecOn with
  | nil =>
      rcases (new options).standing_reset (by simp [new]) (by simp [new]) rfl (by simp [new]) with
          ⟨id, same⟩
      show Accounted ([] ++ [⟨new options, .reset⟩]) ((new options).receive .reset).standing
      refine accounted_of_clear (by simp [operations_new]) (congrArg Standing.operations same)
        (congrArg Standing.shown same) ?_
      exact congrArg Option.isSome (congrArg Standing.resetting same)
  | append_singleton inputs input induction =>
      rw [← List.cons_append, receiveAll_concat, turns_concat]
      exact accounted_receive (coherent_receiveAll options _) induction input

/-- A session that is in contact with its server and not busy has scanned its mirror last,
and the mirror is empty just if that scan brought nothing, unless a reset was lost since
the last scan. -/
theorem scanned_last_of_idle (options : SessionOptions) (inputs : List Input)
    (normal : ((new options).receiveAll (.reset :: inputs)).contact = .normal)
    (idle : ((new options).receiveAll (.reset :: inputs)).activity = .idle)
    (kept : resetLost ((new options).turns (.reset :: inputs)) = false) :
    ∃ notice, ((new options).receiveAll (.reset :: inputs)).operations.getLast? = some notice ∧
      notice.event = .scanEnd ∧
      (((new options).receiveAll (.reset :: inputs)).mirror.suites = [] ↔ notice.shown = []) ∧
      ∃ turn ∈ (new options).turns (.reset :: inputs), turn.scans = true ∧
        notice.shown = Mirror.scanned turn.after.definition turn.before.filter := by
  have accounted := accounted_receiveAll options inputs
  have coherent := coherent_receiveAll options (.reset :: inputs)
  generalize (new options).receiveAll (.reset :: inputs) = session at *
  rcases accounted.awaited with ⟨notice, last, scan⟩ | reason
  · rcases accounted.scanned notice last scan with ⟨empty_iff, from_turn⟩
    exact ⟨notice, last, scan, empty_iff, from_turn⟩
  · exfalso
    cases reason with
    | reset current =>
        have loading : session.activity = .loading := coherent.loading current
        simp [loading] at idle
    | connection disconnected => simp [standing, normal] at disconnected
    | news lost => simp [kept] at lost
    | nothing loading closing =>
        replace loading : session.activity = .loading := loading
        simp [loading] at idle

theorem scanned_last_of_loads :
    ∃ notice, ((new sampleOptions).receiveAll (.reset :: loads)).operations.getLast? = some notice ∧
      notice.event = .scanEnd ∧
      (((new sampleOptions).receiveAll (.reset :: loads)).mirror.suites = [] ↔ notice.shown = []) ∧
      ∃ turn ∈ (new sampleOptions).turns (.reset :: loads), turn.scans = true ∧
        notice.shown = Mirror.scanned turn.after.definition turn.before.filter :=
  scanned_last_of_idle sampleOptions loads (by decide +kernel) (by decide +kernel) (by decide +kernel)

/-- A reset of a loaded session that fails, and a poll that brings no news after that. -/
def reloadFails : List Input :=
  loads ++ [.reset, .takeStep, .complete (.error ⟨.timeout, "no reply"⟩), .tick, .takeStep,
    .complete (.ok { news := some .noNews })]

/-- A lost reset leaves the mirror of an idle session empty, though its definition has a
suite that the filter accepts. -/
theorem cleared_last_of_reloadFails :
    ((new sampleOptions).receiveAll (.reset :: reloadFails)).contact = .normal ∧
      ((new sampleOptions).receiveAll (.reset :: reloadFails)).activity = .idle ∧
      ((new sampleOptions).receiveAll (.reset :: reloadFails)).queue.pending = [] ∧
      ((new sampleOptions).receiveAll (.reset :: reloadFails)).queue.inFlight = none ∧
      ((new sampleOptions).receiveAll (.reset :: reloadFails)).operations.getLast?.map (·.event) =
        some .clearEnd ∧
      ((new sampleOptions).receiveAll (.reset :: reloadFails)).mirror.isEmpty = true ∧
      (Mirror.scanned ((new sampleOptions).receiveAll (.reset :: reloadFails)).definition
        ((new sampleOptions).receiveAll (.reset :: reloadFails)).filter).length = 1 := by
  decide +kernel

/-- A session that shuts down while it loads drops what comes. -/
def reloadEnds : List Input :=
  loads ++ [.reset, .takeStep, .shutdown, .complete (.ok { definition := some oneSuite })]

theorem cleared_last_of_reloadEnds :
    ((new sampleOptions).receiveAll (.reset :: reloadEnds)).contact = .normal ∧
      ((new sampleOptions).receiveAll (.reset :: reloadEnds)).activity = .idle ∧
      ((new sampleOptions).receiveAll (.reset :: reloadEnds)).queue.inFlight = none ∧
      ((new sampleOptions).receiveAll (.reset :: reloadEnds)).operations.getLast?.map (·.event) =
        some .clearEnd ∧
      resetLost ((new sampleOptions).turns (.reset :: reloadEnds)) = true := by
  decide +kernel

end FlowClient.Session
