import FlowClient.Proofs.Queue.Moves

/-! What holds of a queue at all times: its tasks are known, and there is no reset in it
but the one it waits for, next to which nothing else waits. -/

namespace FlowClient.Queue

variable {queue before after : Queue} {id : TaskId} {named : List TaskId} {made : Task → Prop}

structure Sound (queue : Queue) : Prop where
  pending_known : ∀ id ∈ queue.pending, ∃ kind, queue.kind? id = some kind
  inFlight_known : ∀ id, queue.inFlight = some id → ∃ kind, queue.kind? id = some kind
  resetting_kind : ∀ id, queue.resetting = some id → queue.kind? id = some .reset
  pending_reset : ∀ id ∈ queue.pending, queue.kind? id = some .reset → queue.resetting = some id
  inFlight_reset : ∀ id, queue.inFlight = some id → queue.kind? id = some .reset →
    queue.resetting = some id
  /-- While a reset is on its way, nothing else waits. -/
  alone : ∀ id, queue.resetting = some id →
    queue.pending = [] ∨ queue.pending = [id] ∧ queue.inFlight ≠ some id

theorem sound_new : ({} : Queue).Sound where
  pending_known := by simp
  inFlight_known := by simp
  resetting_kind := by simp
  pending_reset := by simp
  inFlight_reset := by simp
  alone := by simp

/-! ## Known tasks -/

theorem lt_size_of_kind? {kind : TaskKind} (known : queue.kind? id = some kind) :
    id < queue.ledger.size := by
  rcases kind?_eq_some known with ⟨task, taskKnown, -⟩
  exact (List.getElem?_eq_some_iff.mp taskKnown).1

theorem Sound.pending_lt (sound : queue.Sound) (id : TaskId) (member : id ∈ queue.pending) :
    id < queue.ledger.size := by
  rcases sound.pending_known id member with ⟨kind, known⟩
  exact lt_size_of_kind? known

/-! ## Steps -/

theorem Sound.of_same (sound : before.Sound) (extended : before.ledger.Extends after.ledger)
    (pending : after.pending = before.pending) (inFlight : after.inFlight = before.inFlight)
    (resetting : after.resetting = before.resetting) : after.Sound where
  pending_known := by
    intro id member
    rcases sound.pending_known id (pending ▸ member) with ⟨kind, known⟩
    exact ⟨kind, kind?_extends extended known⟩
  inFlight_known := by
    intro id flying
    rcases sound.inFlight_known id (inFlight ▸ flying) with ⟨kind, known⟩
    exact ⟨kind, kind?_extends extended known⟩
  resetting_kind := by
    intro id current
    exact kind?_extends extended (sound.resetting_kind id (resetting ▸ current))
  pending_reset := by
    intro id member reset
    rw [pending] at member
    rw [resetting]
    exact sound.pending_reset id member (kind?_unique extended (sound.pending_known id member) reset)
  inFlight_reset := by
    intro id flying reset
    rw [inFlight] at flying
    rw [resetting]
    exact sound.inFlight_reset id flying
      (kind?_unique extended (sound.inFlight_known id flying) reset)
  alone := by
    rw [pending, inFlight, resetting]
    exact sound.alone

theorem Sound.adjust (sound : before.Sound) (adjusts : before.Adjusts named after) : after.Sound :=
  sound.of_same adjusts.extends adjusts.keeps.1 adjusts.keeps.2.1 adjusts.keeps.2.2

theorem Sound.advance (sound : queue.Sound) (id : TaskId) (next : Progress) :
    (queue.advance id next).Sound :=
  sound.adjust (.advance next (List.mem_singleton_self id) .done)

theorem Sound.enter (sound : queue.Sound) (task : Task) : (queue.enter task).1.Sound :=
  sound.adjust (.enter task .done : queue.Adjusts [] _)

theorem Sound.submit (sound : queue.Sound) {kind : TaskKind} (known : queue.kind? id = some kind)
    (ordinary : kind ≠ .reset) : (queue.submit id).1.Sound := by
  rw [Queue.submit]
  split
  · exact sound.advance id _
  · rename_i accepted
    -- No reset is on its way, or the task would not be accepted.
    have idle : queue.resetting = none := by
      rw [refusal?] at accepted
      split at accepted
      · cases accepted
      · have notReset : TaskKind.isReset kind = false := by simpa [TaskKind.isReset] using ordinary
        simpa [isResetting, known, notReset] using accepted
    refine ⟨?_, sound.inFlight_known, sound.resetting_kind, ?_, sound.inFlight_reset, ?_⟩
    · intro other member
      rcases List.mem_append.mp member with old | new
      · exact sound.pending_known other old
      · exact ⟨kind, List.mem_singleton.mp new ▸ known⟩
    · intro other member reset
      rcases List.mem_append.mp member with old | new
      · exact sound.pending_reset other old reset
      · rw [List.mem_singleton.mp new] at reset
        exact absurd (Option.some.inj (known.symm.trans reset)) ordinary
    · intro other current
      rw [show _ = queue.resetting from rfl, idle] at current
      cases current

theorem Sound.disable (sound : queue.Sound) : queue.disable.Sound := by
  have extended := queue.extends_disable
  rcases queue.disable_frame with ⟨-, pending, inFlight⟩
  refine ⟨by simp, ?_, ?_, by simp, ?_, fun _ _ => .inl pending⟩
  · intro id flying
    rcases sound.inFlight_known id (inFlight ▸ flying) with ⟨kind, known⟩
    exact ⟨kind, kind?_extends extended known⟩
  · intro id current
    have same : queue.resetting = some id := by
      revert current
      simp only [Queue.disable]
      split
      · exact fun current => current
      · intro current
        cases current
    exact kind?_extends extended (sound.resetting_kind id same)
  · intro id flying reset
    rw [inFlight] at flying
    have current := sound.inFlight_reset id flying
      (kind?_unique extended (sound.inFlight_known id flying) reset)
    -- The reset in flight is the one that is waited for, so it is not given up.
    simp [Queue.disable, abortPending, flying, current]

theorem Sound.reset (sound : queue.Sound) (known : queue.kind? id = some .reset)
    (ended : queue.state ≠ .reset) : (queue.reset id).1.Sound := by
  rw [Queue.reset]
  split
  · exact sound.advance id _
  · rename_i enabled
    have idle : queue.resetting = none := by
      cases mode : queue.mode <;> cases current : queue.resetting <;>
        simp_all [state]
    have noReset : ∀ other, queue.inFlight = some other → queue.kind? other ≠ some .reset := by
      intro other flying reset
      simpa [idle] using sound.inFlight_reset other flying reset
    have extended : queue.ledger.Extends (queue.abortPending discardedReason).ledger :=
      queue.ledger.extends_advanceAll queue.pending _
    have kept : (queue.abortPending discardedReason).kind? id = some .reset :=
      kind?_extends extended known
    refine ⟨?_, ?_, ?_, ?_, ?_, ?_⟩
    · intro other member
      exact ⟨.reset, List.mem_singleton.mp member ▸ kept⟩
    · intro other flying
      rcases sound.inFlight_known other flying with ⟨kind, otherKnown⟩
      exact ⟨kind, kind?_extends extended otherKnown⟩
    · intro other current
      exact Option.some.inj current ▸ kept
    · intro other member _
      rw [List.mem_singleton.mp member]
    · intro other flying reset
      exact absurd (kind?_unique extended (sound.inFlight_known other flying) reset)
        (noReset other flying)
    · intro other current
      refine .inr ⟨by rw [Option.some.inj current], ?_⟩
      intro flying
      exact noReset other flying (Option.some.inj current ▸ known)

theorem Sound.act (sound : before.Sound) (acts : before.Acts named made after) : after.Sound := by
  cases acts with
  | nothing => exact sound
  | submit member known routable => exact sound.submit known (ne_reset_of_isRoutable routable)
  | @add task isMade ordinary =>
      exact (sound.enter task).submit (before.kind?_enter_new task) ordinary
  | @load task isMade kind ended =>
      have known := before.kind?_enter_new task
      rw [kind] at known
      exact (sound.enter task).reset known ended

theorem Sound.next (sound : queue.Sound) : queue.next.1.Sound := by
  rw [Queue.next]
  split
  · split
    · rename_i nothing
      exact ⟨by simp, sound.inFlight_known, sound.resetting_kind, by simp,
        sound.inFlight_reset, fun _ _ => .inl rfl⟩
    · rename_i free id rest found
      have sublist : (id :: rest).Sublist queue.pending := found ▸ List.dropWhile_sublist _
      have member : id ∈ queue.pending := sublist.subset List.mem_cons_self
      have advanced : Sound (queue.advance id .submitted) := sound.advance id _
      refine ⟨?_, ?_, advanced.resetting_kind, ?_, ?_, ?_⟩
      · intro other later
        exact advanced.pending_known other (sublist.subset (List.mem_cons_of_mem _ later))
      · intro other flying
        exact advanced.pending_known other (Option.some.inj flying ▸ member)
      · intro other later
        exact advanced.pending_reset other (sublist.subset (List.mem_cons_of_mem _ later))
      · intro other flying
        exact advanced.pending_reset other (Option.some.inj flying ▸ member)
      · intro other current
        left
        rcases sound.alone other current with empty | ⟨single, -⟩
        · simp [empty] at member
        · have short := sublist.length_le
          simp only [single, List.length_cons, List.length_nil] at short
          exact List.eq_nil_of_length_eq_zero (show rest.length = 0 by omega)
  · exact sound

theorem Sound.complete (sound : queue.Sound) (flying : queue.inFlight = some id) :
    (queue.complete id).1.Sound := by
  rw [Queue.complete]
  rw [if_pos flying]
  by_cases current : queue.resetting = some id
  · -- The reset is through, and nothing waited next to it.
    have empty : queue.pending = [] := by
      rcases sound.alone id current with empty | ⟨-, elsewhere⟩
      · exact empty
      · exact absurd flying elsewhere
    simp only [current, if_true]
    exact ⟨by simp [empty], by simp, by simp, by simp [empty], by simp, by simp⟩
  · simp only [current, if_false]
    refine ⟨sound.pending_known, by simp, sound.resetting_kind, sound.pending_reset, by simp, ?_⟩
    intro other resetting
    rcases sound.alone other resetting with empty | ⟨single, -⟩
    · exact .inl empty
    · exact .inr ⟨single, by simp⟩

theorem Sound.move (sound : before.Sound) (moves : before.Moves named made after) :
    after.Sound := by
  rcases moves with ⟨middle, adjusts, acts⟩
  exact (sound.adjust adjusts).act acts

end FlowClient.Queue
