import FlowClient.Proofs.Queue.Held
import Mathlib.Data.List.Basic

/-! What a queue has yet to tell the server of the filter: the requests of the resets and the
registrations that wait. Callers hold none of these tasks, so a request stays what it was
when its task was made, until it is dispatched or given up. -/

namespace FlowClient

/-! ## Requests -/

namespace Request

/-- The suites that a request registers. -/
def suites? : Request → Option (List String)
  | reset suites _ => some suites
  | _ => none

/-- What a request says of adding suites. -/
def autoAdd? : Request → Option Bool
  | reset _ autoAddNew => some autoAddNew
  | suiteAutoRegister autoAddNew => some autoAddNew
  | _ => none

end Request

namespace Task

/-- The request of a task that tells something of the filter. -/
def telling? (task : Task) : Option Request :=
  if task.kind.tells then task.request.toOption else none

@[simp] theorem telling?_advance (task : Task) (next : Progress) :
    (task.advance next).telling? = task.telling? := rfl

@[simp] theorem telling?_reset (suites : List String) (autoAddNew : Bool) :
    (reset suites autoAddNew).telling? = some (.reset suites autoAddNew) := by
  cases autoAddNew <;> rfl

@[simp] theorem telling?_autoRegister (autoAddNew : Bool) :
    (autoRegister autoAddNew).telling? = some (.suiteAutoRegister autoAddNew) := by
  cases autoAddNew <;> rfl

end Task

namespace Queue

variable {queue before after : Queue} {id : TaskId} {held named : List TaskId}
  {made : Task → Prop}

/-! ## Tellings -/

def telling? (queue : Queue) (id : TaskId) : Option Request :=
  (queue.task? id).bind Task.telling?

/-- What is still to be told. -/
def tellings (queue : Queue) : List Request := queue.pending.filterMap queue.telling?

def isTelling (queue : Queue) (id : TaskId) : Bool := (queue.kind? id).any TaskKind.tells

@[simp] theorem tellings_new : ({} : Queue).tellings = [] := rfl

theorem telling?_congr (same : after.ledger.get? id = before.ledger.get? id) :
    after.telling? id = before.telling? id := by
  rw [telling?, telling?, task?, task?, same]

theorem telling?_of_silent (silent : queue.isTelling id = false) : queue.telling? id = none := by
  cases known : queue.task? id with
  | none => simp [telling?, known]
  | some task =>
      have quiet : task.kind.tells = false := by simpa [isTelling, kind?, known] using silent
      simp [telling?, known, Task.telling?, quiet]

@[simp] theorem telling?_advance (queue : Queue) (id other : TaskId) (next : Progress) :
    (queue.advance other next).telling? id = queue.telling? id := by
  by_cases same : id = other
  · subst same
    simp only [telling?, task?, Queue.advance, Ledger.advance, Ledger.get?_change_same,
      Option.bind_map]
    rfl
  · exact telling?_congr (Ledger.get?_advance_other next same)

@[simp] theorem tellings_advance (queue : Queue) (id : TaskId) (next : Progress) :
    (queue.advance id next).tellings = queue.tellings :=
  List.filterMap_congr fun other _ => queue.telling?_advance other id next

theorem isTelling_extends (extended : before.ledger.Extends after.ledger)
    (known : ∃ kind, before.kind? id = some kind) : after.isTelling id = before.isTelling id := by
  rcases known with ⟨kind, known⟩
  rw [isTelling, isTelling, known, kind?_extends extended known]

/-- Nobody holds what is still to be told. -/
theorem Tended.silent (tended : queue.Tended held) (member : id ∈ queue.pending)
    (holding : id ∈ held) : queue.isTelling id = false := by
  refine Bool.eq_false_iff.mpr fun telling => ?_
  rcases Option.any_eq_true .. |>.mp telling with ⟨kind, known, tells⟩
  exact tended.unheld id member kind known tells holding

/-- What waits keeps its request if whatever is not held is left alone. -/
theorem Tended.tellings_eq (tended : before.Tended held) (sound : before.Sound)
    (extended : before.ledger.Extends after.ledger) (pending : after.pending = before.pending)
    (spared : ∀ id ∈ before.pending, id ∉ held → after.ledger.get? id = before.ledger.get? id) :
    after.tellings = before.tellings := by
  rw [tellings, tellings, pending]
  refine List.filterMap_congr fun id member => ?_
  by_cases holding : id ∈ held
  · have silent := tended.silent member holding
    rw [telling?_of_silent silent, telling?_of_silent]
    rw [isTelling_extends extended (sound.pending_known id member), silent]
  · exact telling?_congr (spared id member holding)

theorem Tended.tellings_adjust (tended : before.Tended held) (sound : before.Sound)
    (adjusts : before.Adjusts named after) (given : ∀ id ∈ named, id ∈ held) :
    after.tellings = before.tellings := by
  refine tended.tellings_eq sound adjusts.extends adjusts.keeps.1 fun id member hidden => ?_
  exact adjusts.get?_eq (sound.pending_lt id member) fun inNamed => hidden (given id inNamed)

/-! ## Moves -/

/-- Whether something comes to wait that is to be told. -/
def gainsTelling (before after : Queue) : Bool := (before.arrivals after).any after.isTelling

theorem gainsTelling_congr {other : Queue} (pending : other.pending = before.pending)
    (after : Queue) : other.gainsTelling after = before.gainsTelling after := by
  rw [gainsTelling, gainsTelling, arrivals_congr pending]

theorem gainsTelling_of_same (pending : after.pending = before.pending) :
    before.gainsTelling after = false := by
  have none : before.arrivals after = [] := arrivals_of_ends (by simp [pending])
  simp [gainsTelling, none]

/-- What a move does to what is still to be told. -/
inductive Told (made : Task → Prop) (before after : Queue) : Prop
  | keeps (same : after.tellings = before.tellings) (resetting : after.resetting = before.resetting)
      (silent : before.gainsTelling after = false)
  | registers (task : Task) (isMade : made task) (kind : task.kind = .autoRegister)
      (same : after.tellings = before.tellings ++ task.telling?.toList)
      (resetting : after.resetting = before.resetting) (gained : before.gainsTelling after = true)
  | loads (task : Task) (isMade : made task) (kind : task.kind = .reset)
      (same : after.tellings = task.telling?.toList) (ended : before.resetting = none)
      (begun : after.resetting.isSome = true) (gained : before.gainsTelling after = true)

theorem tellings_submit (queue : Queue) (id : TaskId) : (queue.submit id).1.tellings =
    queue.tellings ++ if (queue.submit id).2 then (queue.telling? id).toList else [] := by
  cases refused : queue.refusal? id with
  | some reason => simp [submit, refused]
  | none =>
      have accepted : queue.submit id = ({ queue with pending := queue.pending ++ [id] }, true) := by
        simp [submit, refused]
      have kept : ({ queue with pending := queue.pending ++ [id] } : Queue).telling? =
          queue.telling? := rfl
      rw [accepted, tellings, kept, List.filterMap_append]
      cases known : queue.telling? id <;> simp [tellings, known]

theorem gainsTelling_submit (queue : Queue) {id : TaskId} {kind : TaskKind}
    (known : queue.kind? id = some kind) :
    queue.gainsTelling (queue.submit id).1 = ((queue.submit id).2 && kind.tells) := by
  have later : (queue.submit id).1.kind? id = some kind :=
    kind?_extends (queue.extends_submit id) known
  rw [gainsTelling, arrivals_submit]
  cases (queue.submit id).2 <;> simp [isTelling, later]

theorem telling?_enter_new (queue : Queue) (task : Task) :
    (queue.enter task).1.telling? (queue.enter task).2 = task.telling? := by
  simp [telling?, task?, enter]

theorem Tended.tellings_enter (tended : queue.Tended held) (sound : queue.Sound) (task : Task) :
    (queue.enter task).1.tellings = queue.tellings :=
  tended.tellings_adjust sound (.enter task .done : queue.Adjusts [] _) (by simp)

theorem Tended.told_add (tended : queue.Tended held) (sound : queue.Sound) {task : Task}
    (isMade : made task) (ordinary : task.kind ≠ .reset) : Told made queue (queue.add task).1 := by
  have gained := gainsTelling_submit (queue.enter task).1 (queue.kind?_enter_new task)
  have tellings := tellings_submit (queue.enter task).1 (queue.enter task).2
  rw [tended.tellings_enter sound, queue.telling?_enter_new] at tellings
  have resetting := (queue.add_frame task).2.2
  cases accepted : ((queue.enter task).1.submit (queue.enter task).2).2 with
  | false =>
      simp only [accepted, Bool.false_eq_true, if_false, List.append_nil, Bool.false_and]
        at tellings gained
      exact .keeps tellings resetting gained
  | true =>
      simp only [accepted, if_true, Bool.true_and] at tellings gained
      cases tells : task.kind.tells with
      | true =>
          have kind : task.kind = .autoRegister := by
            simpa [TaskKind.tells, ordinary] using tells
          exact .registers task isMade kind tellings resetting (gained.trans tells)
      | false =>
          have quiet : task.telling? = none := by simp [Task.telling?, tells]
          rw [quiet, Option.toList_none, List.append_nil] at tellings
          exact .keeps tellings resetting (gained.trans tells)

theorem Tended.told_load (tended : queue.Tended held) (sound : queue.Sound) {task : Task}
    (isMade : made task) (kind : task.kind = .reset) (ended : queue.state ≠ .reset) :
    Told made queue ((queue.enter task).1.reset queue.ledger.size).1 := by
  by_cases disabled : (queue.enter task).1.mode = .disabled
  · rw [Queue.reset, if_pos disabled]
    refine .keeps ?_ rfl (gainsTelling_of_same rfl)
    exact (tellings_advance _ _ _).trans (tended.tellings_enter sound task)
  · rcases reset_frame (queue.enter task).1 queue.ledger.size disabled with
        ⟨-, pending, -, resetting⟩
    have free : queue.resetting = none := by
      simpa [state_eq_reset, show queue.mode ≠ .disabled from disabled] using ended
    have untouched : ((queue.enter task).1.reset queue.ledger.size).1.ledger.get?
        queue.ledger.size = (queue.enter task).1.ledger.get? queue.ledger.size := by
      rw [Queue.reset, if_neg disabled]
      exact Ledger.get?_advanceAll_other _ sound.fresh
    have told : ((queue.enter task).1.reset queue.ledger.size).1.telling? queue.ledger.size =
        task.telling? := (telling?_congr untouched).trans (queue.telling?_enter_new task)
    have known : ((queue.enter task).1.reset queue.ledger.size).1.kind? queue.ledger.size =
        some .reset := kind ▸ kind?_extends (extends_reset _ _) (queue.kind?_enter_new task)
    refine .loads task isMade kind ?_ free (by rw [resetting]; rfl) ?_
    · rw [tellings, pending]
      cases request : task.telling? <;> simp [told, request]
    · rw [gainsTelling, arrivals_of_fresh sound.fresh pending]
      simp [isTelling, known, TaskKind.tells]

theorem Tended.told_act (tended : before.Tended held) (sound : before.Sound)
    (acts : before.Acts named made after) : Told made before after := by
  cases acts with
  | nothing => exact .keeps rfl rfl (gainsTelling_of_same rfl)
  | @submit id kind member known routable =>
      have silent := TaskKind.tells_of_isRoutable routable
      have quiet : before.telling? id = none := telling?_of_silent (by simp [isTelling, known, silent])
      refine .keeps ?_ (before.submit_frame id).2.2 ?_
      · simp [tellings_submit, quiet]
      · simp [gainsTelling_submit before known, silent]
  | add isMade ordinary => exact tended.told_add sound isMade ordinary
  | load isMade kind ended => exact tended.told_load sound isMade kind ended

theorem Told.congr {other : Queue} (told : Told made other after)
    (tellings : other.tellings = before.tellings) (pending : other.pending = before.pending)
    (resetting : other.resetting = before.resetting) : Told made before after := by
  have gains := gainsTelling_congr pending after
  cases told with
  | keeps same kept silent =>
      exact .keeps (same.trans tellings) (kept.trans resetting) (gains.symm.trans silent)
  | registers task isMade kind same kept gained =>
      exact .registers task isMade kind (tellings ▸ same) (kept.trans resetting)
        (gains.symm.trans gained)
  | loads task isMade kind same ended begun gained =>
      exact .loads task isMade kind same (resetting.symm.trans ended) begun (gains.symm.trans gained)

theorem Tended.told_move (tended : before.Tended held) (sound : before.Sound)
    (moves : before.Moves named made after) (given : ∀ id ∈ named, id ∈ held) :
    Told made before after := by
  rcases moves with ⟨middle, adjusts, acts⟩
  have told := (tended.adjust sound adjusts given).told_act (sound.adjust adjusts) acts
  exact told.congr (tended.tellings_adjust sound adjusts given) adjusts.keeps.1
    adjusts.keeps.2.2

/-! ## Dispatches -/

/-- What has come to its end has nothing to tell. -/
theorem Tended.silent_of_ended (tended : queue.Tended held) (member : id ∈ queue.pending)
    (ended : queue.ledger.isTerminal id = true) : queue.telling? id = none := by
  by_cases holding : id ∈ held
  · exact telling?_of_silent (tended.silent member holding)
  · rw [tended.unended id member holding] at ended
    cases ended

theorem telling?_next (queue : Queue) (id : TaskId) :
    queue.next.1.telling? id = queue.telling? id := by
  have steps := queue.steps_next
  generalize queue.next = step at steps
  cases steps with
  | waits => rfl
  | clears => rfl
  | dispatches => exact queue.telling?_advance id _ .submitted

/-- What is dispatched is told, and nothing else is passed over. -/
theorem Tended.tellings_next (tended : queue.Tended held) : queue.tellings =
    queue.next.2.toList.filterMap queue.telling? ++ queue.next.1.tellings := by
  have passed {skipped : List TaskId} (waited : ∀ id ∈ skipped, id ∈ queue.pending)
      (ended : ∀ id ∈ skipped, queue.ledger.isTerminal id = true) :
      skipped.filterMap queue.telling? = [] := by
    refine List.filterMap_eq_nil_iff.mpr fun id member => ?_
    exact tended.silent_of_ended (waited id member) (ended id member)
  have steps := queue.steps_next
  generalize queue.next = step at steps
  cases steps with
  | waits => simp
  | clears ended => exact passed (fun _ member => member) ended
  | @dispatches skipped id rest free pending ended ready =>
      have silent := passed (fun id member => by simp [pending, member]) ended
      have later : ({ queue.advance id .submitted with pending := rest, inFlight := some id } :
          Queue).tellings = rest.filterMap queue.telling? :=
        List.filterMap_congr fun other _ => queue.telling?_advance other id .submitted
      rw [later, tellings, pending, List.filterMap_append, silent, List.nil_append,
        Option.toList_some, ← List.filterMap_append, List.singleton_append]

@[simp] theorem tellings_disable (queue : Queue) : queue.disable.tellings = [] := by
  simp [tellings]

/-- Only a reset registers suites. -/
theorem kind?_of_suites? {request : Request} {suites : List String}
    (told : queue.telling? id = some request) (registers : request.suites? = some suites) :
    queue.kind? id = some .reset := by
  rcases Option.bind_eq_some_iff.mp told with ⟨task, known, request⟩
  have kind : task.kind = .reset := by
    cases kind : task.kind <;> simp [Task.telling?, kind, TaskKind.tells] at request
    · rfl
    · simp only [Task.request, kind, Except.toOption, Option.some.injEq] at request
      rw [← request] at registers
      cases registers
  simp [kind?, known, kind]

/-- If a queue that is disabled does not give up a reset, none was to tell it of suites. -/
theorem Sound.suites_of_kept (sound : queue.Sound)
    (kept : queue.isResetting = true → queue.disable.isResetting = true) :
    queue.tellings.filterMap Request.suites? = [] := by
  refine List.filterMap_eq_nil_iff.mpr fun request member => ?_
  rcases List.mem_filterMap.mp member with ⟨id, waits, told⟩
  refine Option.eq_none_iff_forall_ne_some.mpr fun suites registers => ?_
  have resetting := sound.pending_reset id waits (kind?_of_suites? told registers)
  have apart : queue.inFlight ≠ some id := by
    rcases sound.alone id resetting with empty | ⟨-, apart⟩
    · simp [empty] at waits
    · exact apart
  have gone : queue.disable.isResetting = false := by
    simp [Queue.disable, abortPending, isResetting, resetting, apart]
  have current : queue.isResetting = true := by simp [isResetting, resetting]
  rw [kept current] at gone
  cases gone

theorem tellings_of_silent (silent : queue.pending.any queue.isTelling = false) :
    queue.tellings = [] := by
  refine List.filterMap_eq_nil_iff.mpr fun id member => telling?_of_silent ?_
  simpa using List.any_eq_false.mp silent id member

@[simp] theorem tellings_complete (queue : Queue) (id : TaskId) :
    (queue.complete id).1.tellings = queue.tellings := by
  rcases queue.complete_frame id with ⟨ledger, pending⟩
  rw [tellings, tellings, pending]
  exact List.filterMap_congr fun other _ => telling?_congr (by rw [ledger])

end Queue

end FlowClient
