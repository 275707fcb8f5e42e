import FlowClient.Proofs.Session.Run

/-! What the parts of a session leave as it was: for each function the fields that it does
not touch, and what becomes of the others where that takes no case distinction. -/

namespace FlowClient.Session

variable (session : Session)

/-! ## Announcements -/

@[simp] theorem announce_frame (event : Event) :
    (session.announce event).options = session.options ∧
    (session.announce event).contact = session.contact ∧
    (session.announce event).activity = session.activity ∧
    (session.announce event).queue = session.queue ∧
    (session.announce event).definition = session.definition ∧
    (session.announce event).mirror = session.mirror ∧
    (session.announce event).filter = session.filter ∧
    (session.announce event).observers = session.observers ∧
    (session.announce event).shuttingDown = session.shuttingDown ∧
    (session.announce event).commands = session.commands ∧
    (session.announce event).notices = session.notices ++
      [⟨event, session.mirror.suites, session.observers⟩] := by
  simp [announce]

@[simp] theorem setActivity_frame (activity : Activity) :
    (session.setActivity activity).options = session.options ∧
    (session.setActivity activity).contact = session.contact ∧
    (session.setActivity activity).activity = activity ∧
    (session.setActivity activity).queue = session.queue ∧
    (session.setActivity activity).definition = session.definition ∧
    (session.setActivity activity).mirror = session.mirror ∧
    (session.setActivity activity).filter = session.filter ∧
    (session.setActivity activity).observers = session.observers ∧
    (session.setActivity activity).shuttingDown = session.shuttingDown ∧
    (session.setActivity activity).commands = session.commands ∧
    (session.setActivity activity).notices = session.notices ++
      [⟨.activityChanged activity, session.mirror.suites, session.observers⟩] := by
  simp [setActivity, announce]

@[simp] theorem setContact_frame (contact : Contact) :
    (session.setContact contact).options = session.options ∧
    (session.setContact contact).contact = contact ∧
    (session.setContact contact).activity = session.activity ∧
    (session.setContact contact).queue = session.queue ∧
    (session.setContact contact).definition = session.definition ∧
    (session.setContact contact).mirror = session.mirror ∧
    (session.setContact contact).filter = session.filter ∧
    (session.setContact contact).observers = session.observers ∧
    (session.setContact contact).shuttingDown = session.shuttingDown ∧
    (session.setContact contact).commands = session.commands ∧
    (session.setContact contact).notices = session.notices ++
      [⟨.contactChanged contact, session.mirror.suites, session.observers⟩] := by
  simp [setContact, announce]

@[simp] theorem contactGained_frame :
    session.contactGained.options = session.options ∧
    session.contactGained.contact = .normal ∧
    session.contactGained.activity = session.activity ∧
    session.contactGained.queue = session.queue ∧
    session.contactGained.definition = session.definition ∧
    session.contactGained.mirror = session.mirror ∧
    session.contactGained.filter = session.filter ∧
    session.contactGained.observers = session.observers ∧
    session.contactGained.shuttingDown = session.shuttingDown ∧
    session.contactGained.commands = session.commands := by
  rw [contactGained]
  split <;> simp [*]

@[simp] theorem contactLost_frame (reason : String) :
    (session.contactLost reason).options = session.options ∧
    (session.contactLost reason).activity = session.activity ∧
    (session.contactLost reason).queue = session.queue ∧
    (session.contactLost reason).definition = session.definition ∧
    (session.contactLost reason).mirror = session.mirror ∧
    (session.contactLost reason).filter = session.filter ∧
    (session.contactLost reason).observers = session.observers ∧
    (session.contactLost reason).shuttingDown = session.shuttingDown ∧
    (session.contactLost reason).commands = session.commands := by
  rw [contactLost]
  split <;> simp

/-! ## Timers -/

@[simp] theorem stopTimer_frame :
    session.stopTimer.options = session.options ∧
    session.stopTimer.contact = session.contact ∧
    session.stopTimer.activity = session.activity ∧
    session.stopTimer.queue = session.queue ∧
    session.stopTimer.definition = session.definition ∧
    session.stopTimer.mirror = session.mirror ∧
    session.stopTimer.filter = session.filter ∧
    session.stopTimer.observers = session.observers ∧
    session.stopTimer.shuttingDown = session.shuttingDown ∧
    session.stopTimer.notices = session.notices := by
  rw [stopTimer]
  split <;> simp

@[simp] theorem restartTimer_frame :
    session.restartTimer.options = session.options ∧
    session.restartTimer.contact = session.contact ∧
    session.restartTimer.activity = session.activity ∧
    session.restartTimer.queue = session.queue ∧
    session.restartTimer.definition = session.definition ∧
    session.restartTimer.mirror = session.mirror ∧
    session.restartTimer.filter = session.filter ∧
    session.restartTimer.observers = session.observers ∧
    session.restartTimer.shuttingDown = session.shuttingDown ∧
    session.restartTimer.notices = session.notices := by
  rw [restartTimer]
  split
  · simp
  · split <;> simp

/-! ## The end -/

@[simp] theorem finishIfIdle_frame :
    session.finishIfIdle.options = session.options ∧
    session.finishIfIdle.contact = session.contact ∧
    session.finishIfIdle.activity = session.activity ∧
    session.finishIfIdle.queue = session.queue ∧
    session.finishIfIdle.definition = session.definition ∧
    session.finishIfIdle.mirror = session.mirror ∧
    session.finishIfIdle.filter = session.filter ∧
    session.finishIfIdle.observers = session.observers ∧
    session.finishIfIdle.shuttingDown = session.shuttingDown ∧
    session.finishIfIdle.commands = session.commands := by
  rw [finishIfIdle]
  split <;> simp

/-! ## The mirror -/

@[simp] theorem clearTree_frame :
    session.clearTree.options = session.options ∧
    session.clearTree.contact = session.contact ∧
    session.clearTree.activity = session.activity ∧
    session.clearTree.queue = session.queue ∧
    session.clearTree.definition = session.definition ∧
    session.clearTree.filter = session.filter ∧
    session.clearTree.observers = session.observers ∧
    session.clearTree.shuttingDown = session.shuttingDown ∧
    session.clearTree.commands = session.commands := by
  rw [clearTree]
  split <;> simp

@[simp] theorem isEmpty_clearTree : session.clearTree.mirror.isEmpty = true := by
  rw [clearTree]
  split
  · assumption
  · rfl

@[simp] theorem stampServer_frame :
    session.stampServer.options = session.options ∧
    session.stampServer.contact = session.contact ∧
    session.stampServer.activity = session.activity ∧
    session.stampServer.queue = session.queue ∧
    session.stampServer.mirror = session.mirror ∧
    session.stampServer.filter = session.filter ∧
    session.stampServer.observers = session.observers ∧
    session.stampServer.shuttingDown = session.shuttingDown ∧
    session.stampServer.commands = session.commands ∧
    session.stampServer.notices = session.notices := by
  simp [stampServer]

@[simp] theorem suites_stampServer :
    session.stampServer.definition.suites = session.definition.suites := rfl

@[simp] theorem scan_frame :
    session.scan.1.options = session.options ∧
    session.scan.1.contact = session.contact ∧
    session.scan.1.activity = session.activity ∧
    session.scan.1.queue = session.queue ∧
    session.scan.1.definition = session.definition ∧
    session.scan.1.mirror = { suites := Mirror.scanned session.definition session.filter } ∧
    session.scan.1.filter = session.filter ∧
    session.scan.1.observers = session.observers ∧
    session.scan.1.shuttingDown = session.shuttingDown ∧
    session.scan.1.commands = session.commands := by
  simp [scan, Mirror.beginScan, Mirror.endScan]

/-- A scan brings what it announced. -/
@[simp] theorem scan_checked : session.scan.2 = .ok () := by
  simp [scan, Mirror.beginScan, Mirror.endScan, Mirror.checkScan, Mirror.extentOf,
    Mirror.suiteCount]

@[simp] theorem rescan_frame :
    session.rescan.1.options = session.options ∧
    session.rescan.1.contact = session.contact ∧
    session.rescan.1.activity = .idle ∧
    session.rescan.1.queue = session.queue.suspend.start ∧
    session.rescan.1.definition = session.definition ∧
    session.rescan.1.mirror = { suites := Mirror.scanned session.definition session.filter } ∧
    session.rescan.1.filter = session.filter ∧
    session.rescan.1.observers = session.observers ∧
    session.rescan.1.shuttingDown = session.shuttingDown := by
  simp [rescan]

/-! ## Resets -/

@[simp] theorem resetFinished_frame :
    session.resetFinished.1.options = session.options ∧
    session.resetFinished.1.contact = .normal ∧
    session.resetFinished.1.activity = .idle ∧
    session.resetFinished.1.queue = session.queue ∧
    session.resetFinished.1.definition = session.stampServer.definition ∧
    session.resetFinished.1.mirror = { suites := Mirror.scanned session.definition session.filter } ∧
    session.resetFinished.1.filter = session.filter ∧
    session.resetFinished.1.observers = session.observers ∧
    session.resetFinished.1.shuttingDown = session.shuttingDown := by
  simp [resetFinished, Mirror.scanned]
  simp [stampServer]

@[simp] theorem resetFinished_checked : session.resetFinished.2 = .ok () := by
  simp [resetFinished]

@[simp] theorem resetFailed_frame (reason : String) :
    (session.resetFailed reason).options = session.options ∧
    (session.resetFailed reason).contact = .lost (some reason) ∧
    (session.resetFailed reason).activity = .idle ∧
    (session.resetFailed reason).queue = session.queue ∧
    (session.resetFailed reason).definition = session.definition ∧
    (session.resetFailed reason).mirror = session.mirror ∧
    (session.resetFailed reason).filter = session.filter ∧
    (session.resetFailed reason).observers = session.observers ∧
    (session.resetFailed reason).shuttingDown = session.shuttingDown := by
  simp [resetFailed]

/-! ## Changes -/

@[simp] theorem nodeChanged_frame (update : NodeUpdate) :
    (session.nodeChanged update).1.options = session.options ∧
    (session.nodeChanged update).1.contact = session.contact ∧
    (session.nodeChanged update).1.activity = session.activity ∧
    (session.nodeChanged update).1.queue = session.queue ∧
    (session.nodeChanged update).1.definition = session.definition ∧
    (session.nodeChanged update).1.filter = session.filter ∧
    (session.nodeChanged update).1.observers = session.observers ∧
    (session.nodeChanged update).1.shuttingDown = session.shuttingDown ∧
    (session.nodeChanged update).1.commands = session.commands := by
  rw [nodeChanged]
  split
  · simp
  split
  · simp
  split
  · simp
  split
  · simp
  split
  · simp
  · simp only
    split <;> simp

/-- The session after a change: emptied, if the mirror could not follow it. -/
def settled : Session × Except MirrorError Unit → Session
  | (session, .ok ()) => session
  | (session, .error _) => session.clearTree

theorem applyChange_eq (update : NodeUpdate) : session.applyChange update =
    settled (nodeChanged { session with definition := session.definition.updated update } update) :=
  rfl

theorem applyChange_cases (update : NodeUpdate) :
    session.applyChange update = (nodeChanged
        { session with definition := session.definition.updated update } update).1 ∨
      session.applyChange update = (nodeChanged
        { session with definition := session.definition.updated update } update).1.clearTree := by
  rw [applyChange_eq]
  rcases nodeChanged { session with definition := session.definition.updated update } update with
      ⟨after, _ | _⟩
  · exact .inr rfl
  · exact .inl rfl

@[simp] theorem applyChange_frame (update : NodeUpdate) :
    (session.applyChange update).options = session.options ∧
    (session.applyChange update).contact = session.contact ∧
    (session.applyChange update).activity = session.activity ∧
    (session.applyChange update).queue = session.queue ∧
    (session.applyChange update).definition = session.definition.updated update ∧
    (session.applyChange update).filter = session.filter ∧
    (session.applyChange update).observers = session.observers ∧
    (session.applyChange update).shuttingDown = session.shuttingDown ∧
    (session.applyChange update).commands = session.commands := by
  rcases session.applyChange_cases update with same | same <;> simp [same]

@[simp] theorem takeDefinition_frame (reply : Reply) :
    (session.takeDefinition reply).options = session.options ∧
    (session.takeDefinition reply).contact = session.contact ∧
    (session.takeDefinition reply).activity = session.activity ∧
    (session.takeDefinition reply).queue = session.queue ∧
    (session.takeDefinition reply).mirror = session.mirror ∧
    (session.takeDefinition reply).filter = session.filter ∧
    (session.takeDefinition reply).observers = session.observers ∧
    (session.takeDefinition reply).shuttingDown = session.shuttingDown ∧
    (session.takeDefinition reply).commands = session.commands ∧
    (session.takeDefinition reply).notices = session.notices := by
  rw [takeDefinition]
  repeat' split
  all_goals simp

/-- What relates a session to the one with another definition, and to the one after each
change, relates it to the one after a sync. -/
theorem applySync_of_steps (Related : Session → Session → Prop) {session : Session}
    (trans : ∀ {before middle after}, Related before middle → Related middle after →
      Related before after)
    {reply : Reply} (takes : Related session (session.takeDefinition reply))
    (follows : ∀ session update, Related session (applyChange session update)) :
    Related session (session.applySync reply) := by
  rw [applySync]
  generalize session.takeDefinition reply = taken at takes
  induction reply.changes generalizing taken with
  | nil => exact takes
  | cons update changes induction => exact induction _ (trans takes (follows taken update))

theorem foldl_applyChange_frame (changes : List NodeUpdate) :
    (changes.foldl applyChange session).options = session.options ∧
    (changes.foldl applyChange session).contact = session.contact ∧
    (changes.foldl applyChange session).activity = session.activity ∧
    (changes.foldl applyChange session).queue = session.queue ∧
    (changes.foldl applyChange session).definition =
      changes.foldl Definition.updated session.definition ∧
    (changes.foldl applyChange session).filter = session.filter ∧
    (changes.foldl applyChange session).observers = session.observers ∧
    (changes.foldl applyChange session).shuttingDown = session.shuttingDown ∧
    (changes.foldl applyChange session).commands = session.commands := by
  induction changes generalizing session with
  | nil => simp
  | cons update changes induction => simpa using induction (session.applyChange update)

@[simp] theorem applySync_frame (reply : Reply) :
    (session.applySync reply).options = session.options ∧
    (session.applySync reply).contact = session.contact ∧
    (session.applySync reply).activity = session.activity ∧
    (session.applySync reply).queue = session.queue ∧
    (session.applySync reply).definition =
      reply.changes.foldl Definition.updated (session.takeDefinition reply).definition ∧
    (session.applySync reply).filter = session.filter ∧
    (session.applySync reply).observers = session.observers ∧
    (session.applySync reply).shuttingDown = session.shuttingDown ∧
    (session.applySync reply).commands = session.commands := by
  simpa [applySync] using foldl_applyChange_frame (session.takeDefinition reply) reply.changes

end FlowClient.Session
