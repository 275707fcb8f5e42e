import FlowClient.Proofs.Session.Definitions
import FlowClient.Proofs.Session.Filters
import FlowClient.Proofs.Session.Syncs
import FlowClient.Proofs.Session.Verdicts

/-! Replies to syncs that come twice. What a sync makes of the definition and of the mirror
depends on nothing but these two, the filter and the reply; and making it of the outcome
once more makes no difference. The first time the mirror may be filled anew and the second
time be followed change by change, so this needs that both lead to the same mirror. -/

namespace FlowClient

theorem Definition.updatedBy_updatedBy (definition : Definition) (reply : Reply) :
    (definition.updatedBy reply).updatedBy reply = definition.updatedBy reply :=
  Definition.overwrites_updated.foldl_foldl reply.changes definition

namespace Session

variable {session : Session} {id : TaskId} {reply : Reply}

/-! ## What a sync makes of the session -/

theorem mirror_syncSucceeded (session : Session) (id : TaskId) (reply : Reply) :
    (session.syncSucceeded id reply).mirror =
      if session.mirror.isOutdatedBy reply then
        { suites := Mirror.scanned (session.definitionAfter .sync reply) session.filter }
      else reply.changes.foldl Mirror.followed session.mirror := by
  rw [syncSucceeded_eq, definitionAfter, ← definition_takeDefinition]
  split
  · simp [follow, folded, advance, Definition.updatedBy]
  · rename_i current
    simp only [Mirror.isOutdatedBy, Bool.not_eq_true, Bool.or_eq_false_iff, List.any_eq_false]
      at current
    rcases current with ⟨⟨part, filled⟩, follows⟩
    have applying : session.applySync reply = reply.changes.foldl applyChange session := by
      simp [applySync, takeDefinition, part]
    have followed := (foldl_applyChange_of_follows session filled follows).1
    rw [← applying] at followed
    exact followed

/-- What the definition and the mirror are after a reply decides what they are after the same
reply once more. -/
theorem again_of_synced (session later : Session) (id next : TaskId)
    (options : later.options = session.options)
    (filter : later.filter = session.filter)
    (definition : later.definition = session.definitionAfter .sync reply)
    (mirror : later.mirror = (session.syncSucceeded id reply).mirror) :
    (later.syncSucceeded next reply).definition = later.definition ∧
      (later.syncSucceeded next reply).mirror = later.mirror := by
  have settled : later.definitionAfter .sync reply = later.definition := by
    rw [definitionAfter, options, definition, definitionAfter]
    cases reply.whole? with
    | none => exact session.definition.updatedBy_updatedBy reply
    | some definition => rfl
  rw [mirror_syncSucceeded] at mirror
  refine ⟨(later.definition_syncSucceeded next reply).trans settled, ?_⟩
  rw [mirror_syncSucceeded, settled, filter]
  cases outdated : session.mirror.isOutdatedBy reply with
  | false =>
      -- The changes were followed, so they can be followed again.
      rw [outdated, if_neg Bool.false_ne_true] at mirror
      have outline : later.mirror.outline = session.mirror.outline :=
        (congrArg Mirror.outline mirror).trans (Mirror.outline_foldl_followed _ _)
      rw [Mirror.isOutdatedBy_of_outline outline, outdated, if_neg Bool.false_ne_true, mirror]
      exact Mirror.overwrites_followed.foldl_foldl reply.changes session.mirror
  | true =>
      rw [outdated, if_pos rfl, ← definition] at mirror
      cases again : later.mirror.isOutdatedBy reply with
      | true => rw [if_pos rfl, mirror]
      | false =>
          -- What was filled anew is followed this time, which leads to the mirror of the
          -- definition after the changes, and that is the definition at hand.
          simp only [Mirror.isOutdatedBy, Bool.or_eq_false_iff] at again
          have part : reply.whole? = none := by simp [Reply.whole?, again.1.1]
          have unchanged : reply.changes.foldl Definition.updated later.definition =
              later.definition := by
            rw [definitionAfter, part] at settled
            exact settled
          rw [if_neg Bool.false_ne_true, mirror, Mirror.foldl_followed_scanned, unchanged]

theorem resetting_syncSucceeded (session : Session) (id : TaskId) (reply : Reply) :
    (session.syncSucceeded id reply).queue.resetting = session.queue.resetting := by
  rw [syncSucceeded_eq, follow]
  split <;> simp [folded, Queue.advance]

/-! ## Two syncs in a row -/

theorem extends_taskCompleted {kind : TaskKind} (known : session.queue.kind? id = some kind)
    (outcome : Outcome) :
    session.queue.ledger.Extends (session.taskCompleted id outcome).queue.ledger := by
  have moves := endsAs_taskCompleted known outcome
  refine (session.queue.ledger.extends_advance id (kind.ending outcome)).trans ?_
  simpa [Queue.advance, takenBack] using moves.extends

/-- A sync leaves what decides whether the next one is used. -/
theorem taskCompleted_sync_frame (known : session.queue.kind? id = some .sync) (reply : Reply) :
    (session.taskCompleted id (.ok reply)).options = session.options ∧
      (session.taskCompleted id (.ok reply)).contact = session.contact ∧
      (session.taskCompleted id (.ok reply)).filter = session.filter ∧
      (session.taskCompleted id (.ok reply)).shuttingDown = session.shuttingDown ∧
      (session.taskCompleted id (.ok reply)).queue.resetting =
        (session.takenBack id).queue.resetting := by
  rw [taskCompleted_of_known known]
  split
  · simp [recordOnly, TaskKind.isReset, advance, takenBack, Queue.advance]
  · have lasting := (session.takenBack id).lasting_syncSucceeded id reply
    exact ⟨congrArg Lasting.options lasting, contact_syncSucceeded _ reply,
      filter_syncSucceeded _ _ reply, congrArg Lasting.shuttingDown lasting,
      resetting_syncSucceeded _ id reply⟩

theorem resetting_takenBack (other : session.queue.resetting ≠ some id) :
    (session.takenBack id).queue.resetting = session.queue.resetting := by
  rw [takenBack, Queue.complete]
  split <;> simp

theorem recordOnly_keeps (session : Session) (id : TaskId) (kind : TaskKind) (outcome : Outcome) :
    (session.recordOnly id kind outcome).definition = session.definition ∧
      (session.recordOnly id kind outcome).mirror = session.mirror := by
  simp only [recordOnly, finishIfIdle_frame]
  split <;> split <;> simp [advance]

/-- A reply to a sync that comes a second time, for the same sync or for another one, leaves the
definition and the mirror as they are, whatever they were, and whether the syncs are used or
not. The second is not the reset that the queue waits for, as no sync is in a sound queue. -/
theorem redelivered_taskCompleted (session : Session) {first second : TaskId}
    (firstKnown : session.queue.kind? first = some .sync)
    (secondKnown : session.queue.kind? second = some .sync)
    (awaited : session.queue.resetting ≠ some second) (reply : Reply) :
    ((session.taskCompleted first (.ok reply)).taskCompleted second (.ok reply)).definition =
        (session.taskCompleted first (.ok reply)).definition ∧
      ((session.taskCompleted first (.ok reply)).taskCompleted second (.ok reply)).mirror =
        (session.taskCompleted first (.ok reply)).mirror := by
  rcases taskCompleted_sync_frame firstKnown reply with
      ⟨options, contact, filter, closing, resetting⟩
  have extended := extends_taskCompleted firstKnown (.ok reply)
  have once := taskCompleted_of_known firstKnown (.ok reply)
  generalize session.taskCompleted first (.ok reply) = later at *
  have stillAwaited : later.queue.resetting ≠ some second := by
    rw [resetting]
    rcases session.queue.resetting_completed first with same | ended
    · exact same ▸ awaited
    · exact fun waits => by simp [takenBack, ended] at waits
  -- Whether the second is used is decided by what the first leaves as it is.
  have superseded : (later.takenBack second).isSuperseded .sync =
      (session.takenBack first).isSuperseded .sync := by
    have sameContact : (later.takenBack second).contact = (session.takenBack first).contact := contact
    have sameClosing : (later.takenBack second).shuttingDown = (session.takenBack first).shuttingDown :=
      closing
    rw [isSuperseded, isSuperseded, Queue.isResetting, Queue.isResetting,
      resetting_takenBack stillAwaited, resetting, sameContact, sameClosing]
  rw [taskCompleted_of_known (Queue.kind?_extends extended secondKnown), superseded]
  split
  · exact recordOnly_keeps _ second .sync (.ok reply)
  · rename_i used
    rw [if_neg used] at once
    have definition : later.definition = (session.takenBack first).definitionAfter .sync reply :=
      once ▸ definition_syncSucceeded _ first reply
    have mirror : later.mirror = ((session.takenBack first).syncSucceeded first reply).mirror :=
      congrArg Session.mirror once
    exact again_of_synced (session.takenBack first) (later.takenBack second) first second options
      filter definition mirror

/-- Two syncs, and a mirror that is still empty next to a definition that is not. -/
def asksTwiceForChanges : Session :=
  { (new sampleOptions).receiveAll [.make .sync [] {}, .make .sync [] {}] with definition := oneSuite }

/-- The mirror is filled by the first reply and follows the second. -/
theorem redelivered_of_asksTwiceForChanges :
    asksTwiceForChanges.queue.kind? 0 = some .sync ∧
      asksTwiceForChanges.queue.kind? 1 = some .sync ∧
      asksTwiceForChanges.queue.resetting ≠ some 1 ∧
      asksTwiceForChanges.mirror.isOutdatedBy activates = true ∧
      (asksTwiceForChanges.taskCompleted 0 (.ok activates)).mirror.isOutdatedBy activates = false ∧
      ((asksTwiceForChanges.taskCompleted 0 (.ok activates)).taskCompleted 1
          (.ok activates)).definition =
        (asksTwiceForChanges.taskCompleted 0 (.ok activates)).definition ∧
      ((asksTwiceForChanges.taskCompleted 0 (.ok activates)).taskCompleted 1
          (.ok activates)).mirror =
        (asksTwiceForChanges.taskCompleted 0 (.ok activates)).mirror :=
  have firstKnown : asksTwiceForChanges.queue.kind? 0 = some .sync := by decide +kernel
  have secondKnown : asksTwiceForChanges.queue.kind? 1 = some .sync := by decide +kernel
  have awaited : asksTwiceForChanges.queue.resetting ≠ some 1 := by decide +kernel
  ⟨firstKnown, secondKnown, awaited, by decide +kernel, by decide +kernel,
    redelivered_taskCompleted asksTwiceForChanges firstKnown secondKnown awaited activates⟩

end Session

end FlowClient
