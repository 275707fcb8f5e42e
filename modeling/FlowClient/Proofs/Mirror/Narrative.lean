import FlowClient.Event

/-! Narratives: what an observer is told of a mirror that goes from one content to another.
Each change has a beginning and an end, told right after each other, and besides these
the mirror stays as it is. -/

namespace FlowClient

/-! ## Transactions -/

/-- Whether an event neither begins nor ends a change of the mirror. -/
def Event.isSingle : Event → Bool
  | scanBegin _ => false
  | scanEnd => false
  | clearBegin => false
  | clearEnd => false
  | nodeChangeBegin _ _ _ => false
  | nodeChangeEnd _ _ _ => false
  | _ => true

/-- The beginning and the end of one change of the mirror. -/
inductive Notice.Pair (first second : Notice) : Prop
  /-- A scan fills an empty mirror with as much as it announced. -/
  | scan (extent : ScanExtent) (begins : first.event = .scanBegin extent)
      (ends : second.event = .scanEnd) (empty : first.shown = [])
      (complete : Mirror.extentOf second.shown = extent)
  | clear (begins : first.event = .clearBegin) (ends : second.event = .clearEnd)
      (empty : second.shown = [])
  | change (path : String) (aspects : List Aspect) (begun ended : NodeChange)
      (begins : first.event = .nodeChangeBegin path aspects begun)
      (ends : second.event = .nodeChangeEnd path aspects ended)

/-- Notices that tell all that becomes of a mirror between two contents of it. -/
inductive Narrative : List MirrorNode → List Notice → List MirrorNode → Prop
  | nil (shown : List MirrorNode) : Narrative shown [] shown
  | single {shown later notice rest} (single : notice.event.isSingle = true)
      (same : notice.shown = shown) (goesOn : Narrative shown rest later) :
      Narrative shown (notice :: rest) later
  | pair {shown later first second rest} (pair : Notice.Pair first second)
      (same : first.shown = shown) (goesOn : Narrative second.shown rest later) :
      Narrative shown (first :: second :: rest) later

namespace Narrative

variable {shown middle later : List MirrorNode} {notices more before after : List Notice}
  {first second : Notice}

theorem append (told : Narrative shown notices middle) (goesOn : Narrative middle more later) :
    Narrative shown (notices ++ more) later := by
  induction told with
  | nil => exact goesOn
  | single single same _ induction => exact .single single same (induction goesOn)
  | pair pair same _ induction => exact .pair pair same (induction goesOn)

/-- Whoever hears of something is shown the mirror as it was till then. -/
theorem shown_head (told : Narrative shown (first :: after) later) : first.shown = shown := by
  cases told with
  | single single same => exact same
  | pair pair same => exact same

/-- What was shown last is what there is at the end. -/
theorem shown_last (told : Narrative shown notices later) (split : notices = before ++ [first]) :
    first.shown = later := by
  induction told generalizing before with
  | nil => simp at split
  | single single same goesOn induction =>
      cases before with
      | nil =>
          rw [List.nil_append, List.cons.injEq] at split
          rcases split with ⟨rfl, rfl⟩
          cases goesOn
          exact same
      | cons head before =>
          rw [List.cons_append, List.cons.injEq] at split
          exact induction split.2
  | pair pair same goesOn induction =>
      match before with
      | [] => simp at split
      | [head] =>
          simp only [List.cons_append, List.nil_append, List.cons.injEq] at split
          rcases split with ⟨-, rfl, rfl⟩
          cases goesOn
          rfl
      | head :: next :: before =>
          simp only [List.cons_append, List.cons.injEq] at split
          exact induction split.2.2

/-- The notices fall into single ones and pairs. -/
theorem transactions (told : Narrative shown notices later) :
    ∃ transactions : List (List Notice), notices = transactions.flatten ∧
      ∀ transaction ∈ transactions,
        (∃ notice, transaction = [notice] ∧ notice.event.isSingle = true) ∨
          ∃ first second, transaction = [first, second] ∧ Notice.Pair first second := by
  induction told with
  | nil => exact ⟨[], rfl, by simp⟩
  | @single shown later notice rest single same _ induction =>
      rcases induction with ⟨transactions, flat, allowed⟩
      refine ⟨[notice] :: transactions, by simp [flat], ?_⟩
      intro transaction member
      rcases List.mem_cons.mp member with here | below
      · exact .inl ⟨notice, here, single⟩
      · exact allowed transaction below
  | @pair shown later first second rest pair same _ induction =>
      rcases induction with ⟨transactions, flat, allowed⟩
      refine ⟨[first, second] :: transactions, by simp [flat], ?_⟩
      intro transaction member
      rcases List.mem_cons.mp member with here | below
      · exact .inr ⟨first, second, here, pair⟩
      · exact allowed transaction below

/-- Only a pair shows two different mirrors one after the other. -/
theorem pair_of_ne (told : Narrative shown notices later)
    (split : notices = before ++ first :: second :: after)
    (different : first.shown ≠ second.shown) : Notice.Pair first second := by
  induction told generalizing before with
  | nil => simp at split
  | single single same goesOn induction =>
      cases before with
      | nil =>
          rw [List.nil_append, List.cons.injEq] at split
          rcases split with ⟨rfl, rfl⟩
          exact absurd (same.trans goesOn.shown_head.symm) different
      | cons head before =>
          rw [List.cons_append, List.cons.injEq] at split
          exact induction split.2
  | pair pair same goesOn induction =>
      match before with
      | [] =>
          simp only [List.nil_append, List.cons.injEq] at split
          rcases split with ⟨rfl, rfl, -⟩
          exact pair
      | [head] =>
          simp only [List.cons_append, List.nil_append, List.cons.injEq] at split
          rcases split with ⟨-, rfl, rfl⟩
          exact absurd goesOn.shown_head.symm different
      | head :: next :: before =>
          simp only [List.cons_append, List.cons.injEq] at split
          exact induction split.2.2

theorem not_scanBegin_of_pair {extent : ScanExtent} (pair : Notice.Pair first second) :
    second.event ≠ .scanBegin extent := by
  cases pair with
  | scan extent begins ends => simp [ends]
  | clear begins ends => simp [ends]
  | change path aspects begun ended begins ends => simp [ends]

/-- A scan that begins finds the mirror empty, and ends next. -/
theorem scan_of_scanBegin (told : Narrative shown notices later) {extent : ScanExtent}
    (split : notices = before ++ first :: after) (begins : first.event = .scanBegin extent) :
    first.shown = [] ∧ ∃ ending rest, after = ending :: rest ∧ ending.event = .scanEnd ∧
      Mirror.extentOf ending.shown = extent := by
  induction told generalizing before with
  | nil => simp at split
  | single single same goesOn induction =>
      cases before with
      | nil =>
          rw [List.nil_append, List.cons.injEq] at split
          rw [split.1, begins] at single
          cases single
      | cons head before =>
          rw [List.cons_append, List.cons.injEq] at split
          exact induction split.2
  | @pair shown later start ending rest pair same goesOn induction =>
      match before with
      | [] =>
          rw [List.nil_append, List.cons.injEq] at split
          rcases split with ⟨rfl, rfl⟩
          cases pair with
          | scan announced begun ends empty complete =>
              rw [begins] at begun
              exact ⟨empty, ending, rest, rfl, ends, complete.trans (Event.scanBegin.inj begun).symm⟩
          | clear begun => simp [begins] at begun
          | change path aspects begun ended began => simp [begins] at began
      | [head] =>
          simp only [List.cons_append, List.nil_append, List.cons.injEq] at split
          rw [← split.2.1] at begins
          exact absurd begins (not_scanBegin_of_pair pair)
      | head :: next :: before =>
          simp only [List.cons_append, List.cons.injEq] at split
          exact induction split.2.2

end Narrative

end FlowClient
