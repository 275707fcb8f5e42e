import FlowClient.Proofs.Session.Chronicles

/-! What the observers of a session are told. All that becomes of the mirror is told to
whoever listens, in brackets, and whoever listens has last been shown the mirror as it
is. -/

namespace FlowClient.Session

variable {session before after : Session} {turns : List Turn} {input : Input}

/-! ## What a session tells -/

/-- From `before` to `after` all that becomes of the mirror is told, to whoever listens. -/
structure Narrates (before after : Session) : Prop where
  observers : after.observers = before.observers
  told : ∃ added, after.notices = before.notices ++ added ∧
    (∀ notice ∈ added, notice.audience = before.observers) ∧
      Narrative before.mirror.suites added after.mirror.suites

theorem Chronicles.narrates (chronicles : before.Chronicles after) : before.Narrates after where
  observers := chronicles.observers
  told := by
    rcases chronicles.told with ⟨added, notices, audience, told⟩
    exact ⟨added, notices, audience, told.narrative⟩

/-! ## What one observer hears -/

/-- The notices that reached an observer. -/
def heard (session : Session) (id : ObserverId) : List Notice :=
  session.notices.filter (·.audience.contains id)

/-- Whether an observer joins in a turn. -/
def Turn.joins (id : ObserverId) (turn : Turn) : Bool :=
  match turn.input with
  | .subscribe => turn.before.subscriptions == id
  | _ => false

/-- The mirror as it was when an observer joined. -/
def joinedAt (turns : List Turn) (id : ObserverId) : List MirrorNode :=
  match turns.find? (Turn.joins id) with
  | some turn => turn.before.mirror.suites
  | none => []

/-- What holds of all that an observer has heard. -/
structure Hears (id : ObserverId) (turns : List Turn) (session : Session) : Prop where
  known : ∀ other ∈ session.observers, other < session.subscriptions
  joined_iff : (turns.find? (Turn.joins id)).isSome = true ↔ id < session.subscriptions
  fresh : session.subscriptions ≤ id → session.heard id = []
  told : ∃ last, Narrative (joinedAt turns id) (session.heard id) last ∧
    (id ∈ session.observers → last = session.mirror.suites)

variable {id : ObserverId}

theorem find?_joins_concat {turn : Turn} (apart : turn.joins id = false) :
    (turns ++ [turn]).find? (Turn.joins id) = turns.find? (Turn.joins id) := by
  simp [List.find?_append, apart]

theorem joinedAt_concat {turn : Turn} (apart : turn.joins id = false) :
    joinedAt (turns ++ [turn]) id = joinedAt turns id := by
  rw [joinedAt, joinedAt, find?_joins_concat apart]

theorem hears_subscribe (hears : Hears id turns session) :
    Hears id (turns ++ [⟨session, .subscribe⟩]) session.subscribe.1 := by
  have known : ∀ other ∈ session.observers ++ [session.subscriptions],
      other < session.subscriptions + 1 := by
    intro other member
    rcases List.mem_append.mp member with old | new
    · exact Nat.lt_succ_of_lt (hears.known other old)
    · exact List.mem_singleton.mp new ▸ Nat.lt_succ_self _
  have fresh (later : session.subscriptions + 1 ≤ id) : session.heard id = [] :=
    hears.fresh (Nat.le_of_succ_le later)
  by_cases new : session.subscriptions = id
  · -- Ids are given once, so the new observer has heard nothing yet.
    have nothing : session.subscribe.1.heard id = [] := hears.fresh (Nat.le_of_eq new)
    have before : turns.find? (Turn.joins id) = none := by
      have absent := hears.joined_iff.not.mpr (Nat.not_lt.mpr (Nat.le_of_eq new))
      simpa using absent
    have joins : Turn.joins id ⟨session, .subscribe⟩ = true := beq_iff_eq.mpr new
    have found : (turns ++ [(⟨session, .subscribe⟩ : Turn)]).find? (Turn.joins id) =
        some ⟨session, .subscribe⟩ := by
      rw [List.find?_append, before]
      simp [joins]
    refine ⟨known, ?_, fresh, session.mirror.suites, ?_, fun _ => rfl⟩
    · rw [found, ← new]
      simp [subscribe]
    · rw [nothing, joinedAt, found]
      exact .nil _
  · have apart : Turn.joins id ⟨session, .subscribe⟩ = false := beq_eq_false_iff_ne.mpr new
    rcases hears.told with ⟨last, told, current⟩
    refine ⟨known, ?_, fresh, last, ?_, fun member => current ?_⟩
    · rw [find?_joins_concat apart, hears.joined_iff]
      exact ⟨Nat.lt_succ_of_lt, fun young => Nat.lt_of_le_of_ne (Nat.le_of_lt_succ young) (Ne.symm new)⟩
    · rw [joinedAt_concat apart]
      exact told
    · simpa [subscribe, Ne.symm new] using member

theorem hears_unsubscribe (hears : Hears id turns session) (other : ObserverId) :
    Hears id (turns ++ [⟨session, .unsubscribe other⟩]) (session.unsubscribe other).1 := by
  have apart : Turn.joins id ⟨session, .unsubscribe other⟩ = false := rfl
  have stays {listener : ObserverId}
      (member : listener ∈ (session.unsubscribe other).1.observers) :
      listener ∈ session.observers := (List.mem_filter.mp member).1
  rcases hears.told with ⟨last, told, current⟩
  refine ⟨fun listener member => hears.known listener (stays member), ?_, hears.fresh, last, ?_,
    fun member => current (stays member)⟩
  · rw [find?_joins_concat apart]
    exact hears.joined_iff
  · rw [joinedAt_concat apart]
    exact told

theorem heard_of_narrates (id : ObserverId) {added : List Notice}
    (notices : after.notices = before.notices ++ added)
    (audience : ∀ notice ∈ added, notice.audience = before.observers) :
    after.heard id = before.heard id ++ if id ∈ before.observers then added else [] := by
  rw [heard, heard, notices, List.filter_append]
  congr 1
  split
  · rename_i listens
    refine List.filter_eq_self.mpr fun notice member => ?_
    simpa [audience notice member] using listens
  · rename_i absent
    refine List.filter_eq_nil_iff.mpr fun notice member => ?_
    simpa [audience notice member] using absent

theorem Hears.later (hears : Hears id turns session)
    (narrates : session.Narrates (session.receive input))
    (subscriptions : (session.receive input).subscriptions = session.subscriptions)
    (apart : Turn.joins id ⟨session, input⟩ = false) :
    Hears id (turns ++ [⟨session, input⟩]) (session.receive input) := by
  rcases narrates.told with ⟨added, notices, audience, account⟩
  have heard := heard_of_narrates id notices audience
  rcases hears.told with ⟨last, told, current⟩
  have known : ∀ other ∈ (session.receive input).observers,
      other < (session.receive input).subscriptions := by
    rw [narrates.observers, subscriptions]
    exact hears.known
  have joined_iff : ((turns ++ [(⟨session, input⟩ : Turn)]).find? (Turn.joins id)).isSome = true ↔
      id < (session.receive input).subscriptions := by
    rw [find?_joins_concat apart, subscriptions]
    exact hears.joined_iff
  by_cases listens : id ∈ session.observers
  · rw [if_pos listens] at heard
    refine ⟨known, joined_iff, ?_, (session.receive input).mirror.suites, ?_, fun _ => rfl⟩
    · intro fresh
      exact absurd (hears.known id listens) (Nat.not_lt.mpr (subscriptions ▸ fresh))
    · rw [heard, joinedAt_concat apart]
      exact told.append (current listens ▸ account)
  · rw [if_neg listens, List.append_nil] at heard
    refine ⟨known, joined_iff, ?_, last, ?_, ?_⟩
    · rw [heard, subscriptions]
      exact hears.fresh
    · rw [heard, joinedAt_concat apart]
      exact told
    · intro member
      exact absurd (narrates.observers ▸ member) listens

theorem hears_receive (coherent : session.Coherent) (blank : Standing.Blank session.standing)
    (hears : Hears id turns session) (input : Input) :
    Hears id (turns ++ [⟨session, input⟩]) (session.receive input) := by
  have subscriptions := congrArg Lasting.subscriptions (lasting_receive coherent.sound input)
  have chronicles := chronicles_receive coherent blank input
  cases input with
  | subscribe => exact hears_subscribe hears
  | unsubscribe other => exact hears_unsubscribe hears other
  | shutdown =>
      refine hears.later (chronicles (by simp) (by simp)).narrates (subscriptions.trans ?_) rfl
      cases session.shuttingDown <;> rfl
  | _ => exact hears.later (chronicles (by simp) (by simp)).narrates subscriptions rfl

theorem hears_receiveAll (options : SessionOptions) (inputs : List Input) (id : ObserverId) :
    Hears id ((new options).turns inputs) ((new options).receiveAll inputs) := by
  induction inputs using List.reverseRecOn with
  | nil => exact ⟨by simp [new], by simp [new], fun _ => rfl, [], .nil _, fun _ => rfl⟩
  | append_singleton inputs input induction =>
      rw [receiveAll_concat, turns_concat]
      exact hears_receive (coherent_receiveAll options inputs) (blank_receiveAll options inputs)
        induction input

/-- What an observer may rely on in all that it heard. -/
structure WellTold (id : ObserverId) (turns : List Turn) (session : Session) : Prop where
  /-- There are single events, and pairs of a beginning and its end. -/
  bracketed : ∃ transactions : List (List Notice), session.heard id = transactions.flatten ∧
    ∀ transaction ∈ transactions,
      (∃ notice, transaction = [notice] ∧ notice.event.isSingle = true) ∨
        ∃ first second, transaction = [first, second] ∧ Notice.Pair first second
  /-- The mirror that it is shown changes from the beginning of a pair to the end only. -/
  unchanged : ∀ earlier first second later, session.heard id =
    earlier ++ first :: second :: later → first.shown ≠ second.shown → Notice.Pair first second
  /-- A scan begins on an empty mirror, and brings as much as it announced. -/
  scanned : ∀ earlier first later extent, session.heard id = earlier ++ first :: later →
    first.event = .scanBegin extent → first.shown = [] ∧
      ∃ second rest, later = second :: rest ∧ second.event = .scanEnd ∧
        second.shown.length = extent.suites ∧ forestSize second.shown = extent.nodes ∧
          ({ suites := second.shown } : Mirror).checkScan extent = .ok ()
  /-- At first it is shown the mirror as it was when it joined. -/
  joined : ∀ first later, session.heard id = first :: later → first.shown = joinedAt turns id
  /-- Whoever still listens was last shown the mirror as it is. -/
  current : ∀ earlier last, session.heard id = earlier ++ [last] → id ∈ session.observers →
    last.shown = session.mirror.suites

/-- In any run, and for any observer, changes of the mirror are told in brackets. -/
theorem wellTold_turns (options : SessionOptions) (inputs : List Input) (id : ObserverId) :
    WellTold id ((new options).turns inputs) ((new options).receiveAll inputs) := by
  rcases (hears_receiveAll options inputs id).told with ⟨last, told, current⟩
  refine ⟨told.transactions, ?_, ?_, ?_, ?_⟩
  · intro earlier first second later split different
    exact told.pair_of_ne split different
  · intro earlier first later extent split begins
    rcases told.scan_of_scanBegin split begins with ⟨empty, second, rest, next, ends, rfl⟩
    refine ⟨empty, second, rest, next, ends, rfl, rfl, ?_⟩
    simp [Mirror.checkScan, Mirror.extentOf, Mirror.suiteCount]
  · intro first later split
    rw [split] at told
    exact told.shown_head
  · intro earlier final split listens
    exact (told.shown_last split).trans (current listens)

end FlowClient.Session
