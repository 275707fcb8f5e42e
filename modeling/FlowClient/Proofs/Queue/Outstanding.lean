import FlowClient.Proofs.Queue.Placed
import Mathlib.Algebra.GroupWithZero.Nat

/-! What a queue can still come to. From a task that comes back another may follow, and from
that one another; but no chain of them is long, and none begins again. So what waits and
what is in flight bound all that is still to be dispatched. -/

namespace FlowClient

/-- How many tasks can follow, one from the other, from a reply that is used in this way. -/
def OnSuccess.following : OnSuccess → Nat
  | keepTextAndAskNews => 3
  | followNews => 2
  | foldChanges => 1
  | loadDefinition => 1
  | _ => 0

def TaskKind.following (kind : TaskKind) : Nat := kind.onSuccess.following

theorem TaskKind.following_le (kind : TaskKind) : kind.following ≤ 3 := by
  unfold following
  cases kind.onSuccess <;> simp [OnSuccess.following]

namespace Queue

/-! ## What is outstanding -/

/-- The tasks that wait, and the one in flight. -/
def outstanding (queue : Queue) : List TaskId := queue.pending ++ queue.inFlight.toList

/-- How many tasks can follow from a task of the queue. -/
def following (queue : Queue) (id : TaskId) : Nat :=
  ((queue.kind? id).map TaskKind.following).getD 0

/-- How many dispatches can come yet: of the tasks that wait, and of all that follows. -/
def toCome (queue : Queue) : Nat :=
  (queue.pending.map (queue.following · + 1)).sum +
    (queue.inFlight.toList.map queue.following).sum

/-- What is left to do: the dispatches that can come, and the one task that is to come back. -/
def work (queue : Queue) : Nat := queue.toCome + queue.inFlight.toList.length

variable {queue before after : Queue} {id : TaskId} {kind : TaskKind}

theorem following_of_kind? (known : queue.kind? id = some kind) :
    queue.following id = kind.following := by
  simp [following, known]

theorem following_le (queue : Queue) (id : TaskId) : queue.following id ≤ 3 := by
  rw [following]
  cases queue.kind? id with
  | none => exact Nat.zero_le 3
  | some kind => exact kind.following_le

theorem sum_following_le (queue : Queue) (ids : List TaskId) :
    (ids.map queue.following).sum ≤ 3 * ids.length := by
  induction ids with
  | nil => exact Nat.zero_le 0
  | cons id rest induction =>
      have := queue.following_le id
      simp only [List.map_cons, List.sum_cons, List.length_cons]
      omega

theorem sum_following_succ (queue : Queue) (ids : List TaskId) :
    (ids.map (queue.following · + 1)).sum = (ids.map queue.following).sum + ids.length := by
  induction ids with
  | nil => rfl
  | cons id rest induction =>
      simp only [List.map_cons, List.sum_cons, List.length_cons, induction]
      omega

theorem work_le (queue : Queue) : queue.work ≤ 4 * queue.outstanding.length := by
  have waiting := queue.sum_following_le queue.pending
  have flying := queue.sum_following_le queue.inFlight.toList
  simp only [work, toCome, outstanding, sum_following_succ, List.length_append]
  omega

theorem outstanding_of_work (done : queue.work = 0) : queue.outstanding = [] := by
  simp only [work, toCome] at done
  have free : queue.inFlight.toList = [] := List.length_eq_zero_iff.mp (by omega)
  have empty : queue.pending = [] := by
    cases pending : queue.pending with
    | nil => rfl
    | cons id rest =>
        simp only [pending, List.map_cons, List.sum_cons] at done
        omega
  simp [outstanding, free, empty]

theorem toCome_of_free (free : queue.inFlight = none) :
    queue.toCome = (queue.pending.map (queue.following · + 1)).sum := by
  simp [toCome, free]

/-! ## What follows from a known task stays -/

theorem following_extends (extended : before.ledger.Extends after.ledger)
    (known : ∃ kind, before.kind? id = some kind) : after.following id = before.following id := by
  rcases known with ⟨kind, known⟩
  rw [following_of_kind? known]
  exact following_of_kind? (kind?_extends extended known)

theorem Sound.waiting_of_same (sound : before.Sound)
    (extended : before.ledger.Extends after.ledger) (pending : after.pending = before.pending) :
    after.pending.map (after.following · + 1) = before.pending.map (before.following · + 1) := by
  rw [pending]
  refine List.map_congr_left fun id member => ?_
  rw [following_extends extended (sound.pending_known id member)]

theorem Sound.flying_of_same (sound : before.Sound)
    (extended : before.ledger.Extends after.ledger) (inFlight : after.inFlight = before.inFlight) :
    after.inFlight.toList.map after.following = before.inFlight.toList.map before.following := by
  rw [inFlight]
  refine List.map_congr_left fun id member => ?_
  rw [following_extends extended (sound.inFlight_known id (Option.mem_toList.mp member))]

theorem Sound.toCome_of_same (sound : before.Sound)
    (extended : before.ledger.Extends after.ledger) (pending : after.pending = before.pending)
    (inFlight : after.inFlight = before.inFlight) : after.toCome = before.toCome := by
  rw [toCome, toCome, sound.flying_of_same extended inFlight,
    sound.waiting_of_same extended pending]

/-! ## Moves -/

theorem Sound.toCome_advance (sound : queue.Sound) (id : TaskId) (next : Progress) :
    (queue.advance id next).toCome = queue.toCome :=
  sound.toCome_of_same (queue.ledger.extends_advance id next) rfl rfl

theorem Sound.toCome_submit (sound : queue.Sound) (known : queue.kind? id = some kind) :
    (queue.submit id).1.toCome ≤ queue.toCome + (kind.following + 1) := by
  rw [Queue.submit]
  split
  · rw [sound.toCome_advance]
    exact Nat.le_add_right _ _
  · have kinds : ({ queue with pending := queue.pending ++ [id] } : Queue).following =
        queue.following := rfl
    have single := following_of_kind? known
    simp only [toCome, kinds, List.map_append, List.sum_append, List.map_singleton,
      List.sum_singleton, single]
    omega

theorem Sound.toCome_enter (sound : queue.Sound) (task : Task) :
    (queue.enter task).1.toCome = queue.toCome :=
  sound.toCome_of_same (queue.extends_enter task) rfl rfl

/-- A reset brings nothing but itself and what follows from it. -/
theorem Sound.toCome_reset (sound : queue.Sound) (known : queue.kind? id = some kind) :
    (queue.reset id).1.toCome ≤ queue.toCome + (kind.following + 1) := by
  by_cases disabled : queue.mode = .disabled
  · rw [Queue.reset, if_pos disabled]
    rw [sound.toCome_advance]
    exact Nat.le_add_right _ _
  · rcases reset_frame queue id disabled with ⟨-, pending, inFlight, -⟩
    have extended := queue.extends_reset id
    have single := following_of_kind? (kind?_extends extended known)
    have flying := sound.flying_of_same extended inFlight
    simp only [toCome, pending, flying, single, List.map_singleton, List.sum_singleton]
    omega

/-- A move that names no task brings at most one, and what follows from that. -/
theorem Sound.toCome_move (sound : before.Sound) {bound : Nat}
    (moves : before.Moves [] (fun task => task.kind.following < bound) after) :
    after.toCome ≤ before.toCome + bound := by
  rcases moves with ⟨middle, adjusts, acts⟩
  rcases adjusts.keeps with ⟨pending, inFlight, -⟩
  have same := sound.toCome_of_same adjusts.extends pending inFlight
  have middleSound := sound.adjust adjusts
  cases acts with
  | nothing => omega
  | submit member => cases member
  | @add task smaller ordinary =>
      have entered := middleSound.toCome_enter task
      have added := (middleSound.enter task).toCome_submit (middle.kind?_enter_new task)
      exact added.trans (by omega)
  | @load task smaller kind ended =>
      have entered := middleSound.toCome_enter task
      have loaded := (middleSound.enter task).toCome_reset (middle.kind?_enter_new task)
      exact loaded.trans (by omega)

/-! ## Dispatches and returns -/

/-- Each dispatch is one of those that were to come. -/
theorem Sound.toCome_next (sound : queue.Sound) :
    queue.next.2.toList.length + queue.next.1.toCome ≤ queue.toCome := by
  have steps := queue.steps_next
  generalize queue.next = step at steps
  cases steps with
  | waits => simp
  | clears =>
      have kinds : ({ queue with pending := [] } : Queue).following = queue.following := rfl
      simp [toCome, kinds]
  | @dispatches skipped id rest free pending ended ready =>
      have waiting := sound.waiting_of_same (queue.ledger.extends_advance id .submitted)
        (show (queue.advance id .submitted).pending = queue.pending from rfl)
      have waited : (queue.advance id .submitted).pending = skipped ++ id :: rest := pending
      have kinds : ({ queue.advance id .submitted with pending := rest, inFlight := some id } :
          Queue).following = (queue.advance id .submitted).following := rfl
      rw [toCome_of_free free, ← waiting, waited, toCome, kinds]
      simp only [List.map_append, List.map_cons, List.map_nil, List.sum_append, List.sum_cons,
        List.sum_nil, Option.toList_some, List.length_singleton]
      omega

theorem inFlight_next (queue : Queue) : queue.next.1.inFlight.toList.length =
    queue.inFlight.toList.length + queue.next.2.toList.length := by
  have steps := queue.steps_next
  generalize queue.next = step at steps
  cases steps with
  | waits => rfl
  | clears => rfl
  | dispatches free => simp [free]

theorem Sound.work_next (sound : queue.Sound) : queue.next.1.work ≤ queue.work := by
  have dispatched := sound.toCome_next
  have flying := queue.inFlight_next
  rw [work, work]
  omega

/-- A task that comes back leaves what follows from it. -/
theorem toCome_complete (flying : queue.inFlight = some id) :
    (queue.complete id).1.toCome + queue.following id = queue.toCome := by
  rcases queue.complete_frame id with ⟨ledger, pending⟩
  have free : (queue.complete id).1.inFlight = none := by simp [complete, flying]
  have kinds : (queue.complete id).1.following = queue.following := by
    funext other
    rw [following, following, kind?, kind?, task?, task?, ledger]
  rw [toCome_of_free free, pending, kinds]
  simp [toCome, flying]

end Queue

end FlowClient
