import FlowClient.Proofs.Session.Resets

/-! What a session says it is doing. It says that it loads just while a reset is waited for, but
for one case: a reset that is given up while it waits leaves the session loading, until
the next reset sets out. -/

namespace FlowClient.Session

variable {session : Session} {turns : List Turn} {input : Input}

/-! ## Aborted resets -/

/-- Whether a turn lets a reset set out. -/
def Turn.setsOut (turn : Turn) : Bool :=
  !turn.before.queue.isResetting && turn.after.queue.isResetting

/-- Whether a turn gives up a reset that waits. -/
def Turn.abortsReset (turn : Turn) : Bool :=
  match turn.input with
  | .disconnect | .shutdown => turn.before.queue.isResetting && !turn.after.queue.isResetting
  | _ => false

/-- Whether the last reset was given up. -/
def resetAborted (turns : List Turn) : Bool :=
  turns.foldl (fun aborted turn => !turn.setsOut && (aborted || turn.abortsReset)) false

@[simp] theorem resetAborted_concat (turns : List Turn) (turn : Turn) :
    resetAborted (turns ++ [turn]) =
      (!turn.setsOut && (resetAborted turns || turn.abortsReset)) := by
  simp [resetAborted]

/-- What is known of a session by whether its last reset was given up. -/
structure Occupied (aborted : Bool) (standing : Standing) : Prop where
  loading_iff : standing.activity = .loading ↔ standing.resetting.isSome = true ∨ aborted = true
  settled : standing.activity ≠ .rescanning
  gone : aborted = true → standing.resetting = none
  closed : aborted = true → standing.disconnected = true ∨ standing.shuttingDown = true

theorem occupied_new (options : SessionOptions) : Occupied false (new options).standing := by
  constructor <;> simp [new, standing]

/-! ## Turns -/

theorem setsOut_of_begins (ended : session.queue.resetting = none)
    (begun : (session.receive input).queue.resetting.isSome = true) :
    Turn.setsOut ⟨session, input⟩ = true := by
  simp [Turn.setsOut, Turn.after, Queue.isResetting, ended, begun]

theorem setsOut_of_same
    (same : (session.receive input).queue.resetting = session.queue.resetting) :
    Turn.setsOut ⟨session, input⟩ = false := by
  simp [Turn.setsOut, Turn.after, Queue.isResetting, same]

theorem setsOut_of_kept (kept : (session.receive input).queue.resetting = session.queue.resetting ∨
    (session.receive input).queue.resetting = none) : Turn.setsOut ⟨session, input⟩ = false := by
  rcases kept with same | gone
  · exact setsOut_of_same same
  · simp [Turn.setsOut, Turn.after, Queue.isResetting, gone]

theorem resetAborted_stays
    (same : (session.receive input).queue.resetting = session.queue.resetting) :
    resetAborted (turns ++ [⟨session, input⟩]) = resetAborted turns := by
  have setsOut := setsOut_of_same same
  have keeps : Turn.abortsReset ⟨session, input⟩ = false := by
    rw [Turn.abortsReset]
    split <;> simp [Turn.after, Queue.isResetting, same]
  simp [setsOut, keeps]

/-- The connection can only be given up with a reset that is kept or with one that is aborted. -/
theorem resetAborted_of_closing (closing : input = .disconnect ∨ input = .shutdown)
    {resetting : Option TaskId} (kept : resetting = session.queue.resetting ∨ resetting = none)
    (same : (session.receive input).queue.resetting = resetting) :
    resetAborted (turns ++ [⟨session, input⟩]) =
      (resetAborted turns || (session.queue.resetting.isSome && resetting.isNone)) := by
  have setsOut := setsOut_of_kept (same.symm ▸ kept)
  have aborts : Turn.abortsReset ⟨session, input⟩ =
      (session.queue.resetting.isSome && resetting.isNone) := by
    rcases closing with rfl | rfl <;>
      simp [Turn.abortsReset, Turn.after, Queue.isResetting, same]
  rw [resetAborted_concat, setsOut, aborts]
  rfl

/-- What comes back gives no reset up. -/
theorem resetAborted_of_complete {outcome : Outcome}
    (gone : (session.receive (.complete outcome)).queue.resetting = none) :
    resetAborted (turns ++ [⟨session, .complete outcome⟩]) = resetAborted turns := by
  simp [setsOut_of_kept (.inr gone), Turn.abortsReset]

theorem isSome_resetting_of_flyingKind? (sound : session.queue.Sound)
    (flying : session.flyingKind? = some .reset) : session.queue.resetting.isSome = true := by
  rcases Option.bind_eq_some_iff.mp flying with ⟨id, inFlight, kind⟩
  rw [sound.inFlight_reset id inFlight kind]
  rfl

theorem Occupied.closing {aborted : Bool} {standing later : Standing}
    (occupied : Occupied aborted standing) {resetting : Option TaskId}
    (kept : resetting = standing.resetting ∨ resetting = none)
    (activity : later.activity = standing.activity) (now : later.resetting = resetting)
    (closed : later.disconnected = true ∨ later.shuttingDown = true) :
    Occupied (aborted || (standing.resetting.isSome && resetting.isNone)) later where
  loading_iff := by
    rw [activity, occupied.loading_iff, now]
    rcases kept with rfl | rfl
    · cases standing.resetting <;> simp
    · simp [or_comm]
  settled := activity ▸ occupied.settled
  gone := by
    rw [now]
    rcases kept with rfl | rfl
    · have gone := occupied.gone
      cases current : standing.resetting with
      | none => simp
      | some id => simpa [current] using gone
    · simp
  closed := fun _ => closed

theorem occupied_receive (coherent : session.Coherent) (blank : Standing.Blank session.standing)
    (occupied : Occupied (resetAborted turns) session.standing) (input : Input) :
    Occupied (resetAborted (turns ++ [⟨session, input⟩])) (session.receive input).standing := by
  cases effect_receive coherent input with
  | stays same =>
      rw [resetAborted_stays (congrArg Standing.resetting same), same]
      exact occupied
  | begins id going same ended =>
      have resetting : (session.receive input).queue.resetting = some id :=
        congrArg Standing.resetting same
      rw [resetAborted_concat, setsOut_of_begins ended (congrArg Option.isSome resetting), same]
      constructor <;> simp
  | connects going filled same =>
      have kept : resetAborted turns = false := by
        refine Bool.eq_false_iff.mpr fun aborted => ?_
        have empty : session.mirror.suites = [] := blank (occupied.loading_iff.mpr (.inr aborted))
        have gone : session.queue.resetting = none := occupied.gone aborted
        rcases filled with filled | current
        · simp [Mirror.isEmpty, empty] at filled
        · simp [gone] at current
      rw [resetAborted_stays (congrArg Standing.resetting same), same]
      rw [kept] at occupied ⊢
      exact ⟨occupied.loading_iff, occupied.settled, by simp, by simp⟩
  | disconnects resetting kept same =>
      rw [resetAborted_of_closing (.inl rfl) kept (congrArg Standing.resetting same), same]
      exact occupied.closing kept rfl rfl (.inl rfl)
  | closes resetting kept same =>
      rw [resetAborted_of_closing (.inr rfl) kept (congrArg Standing.resetting same), same]
      exact occupied.closing kept rfl rfl (.inr rfl)
  | fails flying useless same =>
      have kept : resetAborted turns = false := by
        refine Bool.eq_false_iff.mpr fun aborted => ?_
        have gone : session.queue.resetting = none := occupied.gone aborted
        have current := isSome_resetting_of_flyingKind? coherent.sound flying
        simp [gone] at current
      rw [resetAborted_of_complete (congrArg Standing.resetting same), kept, same]
      constructor <;> simp
  | @follows reply taken definition mirror part filled same used =>
      rw [resetAborted_stays (congrArg Standing.resetting same), same]
      exact ⟨occupied.loading_iff, occupied.settled, occupied.gone, occupied.closed⟩
  | scans definition cleared filter same used =>
      have kept : resetAborted turns = false := by
        refine Bool.eq_false_iff.mpr fun aborted => ?_
        have closed := occupied.closed aborted
        simp [standing, used.1, used.2] at closed
      rw [resetAborted_of_complete (congrArg Standing.resetting same), kept, same]
      constructor <;> simp

/-! ## Runs -/

theorem occupied_receiveAll (options : SessionOptions) (inputs : List Input) :
    Occupied (resetAborted ((new options).turns inputs))
      ((new options).receiveAll inputs).standing := by
  induction inputs using List.reverseRecOn with
  | nil => exact occupied_new options
  | append_singleton inputs input induction =>
      rw [receiveAll_concat, turns_concat]
      exact occupied_receive (coherent_receiveAll options inputs) (blank_receiveAll options inputs)
        induction input

/-- How far it is true what a session says it is doing. -/
structure TruthfulActivity (turns : List Turn) (session : Session) : Prop where
  loading_iff : session.activity = .loading ↔
    session.queue.resets ≠ [] ∨ resetAborted turns = true
  /-- Only a session that is closed, and has not been opened again, can say that it loads when
  there is no reset. -/
  aborted : resetAborted turns = true → session.queue.resets = [] ∧
    (session.contact = .disconnected ∨ session.shuttingDown = true)
  settled : session.activity ≠ .rescanning

/-- In any run in which callers name only tasks that they hold, a session says that it loads
just while a reset waits or is in flight, unless the last reset was given up while it waited. -/
theorem truthfulActivity_of_namesHeld (options : SessionOptions) (inputs : List Input)
    (named : namesHeld [] ((new options).turns inputs) = true) :
    TruthfulActivity ((new options).turns inputs) ((new options).receiveAll inputs) := by
  have occupied := occupied_receiveAll options inputs
  have resets := (tended_receiveAll options named).resets_eq
    (coherent_receiveAll options inputs).sound
  generalize (new options).receiveAll inputs = session at *
  refine ⟨?_, ?_, occupied.settled⟩
  · have loading : session.activity = .loading ↔ session.queue.resetting.isSome = true ∨ _ :=
      occupied.loading_iff
    rw [loading, resets]
    cases session.queue.resetting <;> simp
  · intro aborted
    have gone : session.queue.resetting = none := occupied.gone aborted
    exact ⟨by rw [resets, gone]; rfl, by simpa [standing] using occupied.closed aborted⟩

/-- A reset that is in flight when the session is disconnected, and comes back after that. -/
def resetComesLate : List Input :=
  [.reset, .takeStep, .disconnect, .complete (.ok { definition := some oneSuite })]

theorem truthfulActivity_of_resetComesLate :
    namesHeld [] ((new sampleOptions).turns resetComesLate) = true ∧
      TruthfulActivity ((new sampleOptions).turns resetComesLate)
        ((new sampleOptions).receiveAll resetComesLate) :=
  ⟨by decide +kernel, truthfulActivity_of_namesHeld sampleOptions resetComesLate (by decide +kernel)⟩

/-- A session that is disconnected before its first reset is dispatched goes on saying that
it loads. -/
theorem loading_of_resetAborted :
    ((new sampleOptions).receiveAll [.reset, .disconnect]).activity = .loading ∧
      ((new sampleOptions).receiveAll [.reset, .disconnect]).queue.resets = [] ∧
      resetAborted ((new sampleOptions).turns [.reset, .disconnect]) = true := by
  decide +kernel

end FlowClient.Session
