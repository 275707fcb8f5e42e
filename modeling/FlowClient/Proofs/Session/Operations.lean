import FlowClient.Proofs.Session.Frames

/-! The operations on the mirror as a whole: scans, which fill it, and clears, which empty
it. Observers hear of each when it ends, and so the notices of a session say which
operations there were. -/

namespace FlowClient

/-- Whether an event ends a scan or a clear. -/
def Event.isOperation : Event → Bool
  | scanEnd => true
  | clearEnd => true
  | _ => false

namespace Session

/-- The ends of all scans and clears so far. -/
def operations (session : Session) : List Notice :=
  session.notices.filter (·.event.isOperation)

def scanCount (session : Session) : Nat := session.operations.countP (·.event = .scanEnd)

/-- What the observers hear at the end of a clear. An empty mirror needs none. -/
def clearing (session : Session) : List Notice :=
  if session.mirror.isEmpty then [] else [⟨.clearEnd, [], session.observers⟩]

/-- What the observers hear at the end of a scan. -/
def scanning (session : Session) : Notice :=
  ⟨.scanEnd, Mirror.scanned session.definition session.filter, session.observers⟩

variable (session : Session)

theorem operations_new (options : SessionOptions) : (new options).operations = [] := rfl

theorem operations_announce (event : Event) : (session.announce event).operations =
    session.operations ++
      if event.isOperation then [⟨event, session.mirror.suites, session.observers⟩] else [] := by
  cases known : event.isOperation <;> simp [operations, known]

@[simp] theorem operations_setActivity (activity : Activity) :
    (session.setActivity activity).operations = session.operations := by
  simp [operations, Event.isOperation]

@[simp] theorem operations_setContact (contact : Contact) :
    (session.setContact contact).operations = session.operations := by
  simp [operations, Event.isOperation]

@[simp] theorem operations_contactGained :
    session.contactGained.operations = session.operations := by
  rw [contactGained]
  split <;> simp

@[simp] theorem operations_finishIfIdle :
    session.finishIfIdle.operations = session.operations := by
  rw [finishIfIdle]
  split
  · simp [operations, announce, Event.isOperation]
  · rfl

@[simp] theorem operations_stopTimer : session.stopTimer.operations = session.operations := by
  simp [operations]

@[simp] theorem operations_restartTimer :
    session.restartTimer.operations = session.operations := by
  simp [operations]

@[simp] theorem operations_stampServer :
    session.stampServer.operations = session.operations := by
  simp [operations]

@[simp] theorem operations_takeDefinition (reply : Reply) :
    (session.takeDefinition reply).operations = session.operations := by
  simp [operations]

theorem suites_clearTree : session.clearTree.mirror.suites = [] :=
  List.isEmpty_iff.mp session.isEmpty_clearTree

@[simp] theorem operations_clearTree :
    session.clearTree.operations = session.operations ++ session.clearing := by
  unfold clearTree clearing
  split
  · simp
  · simp [operations, announce, Event.isOperation, Mirror.clear]

@[simp] theorem operations_scan :
    session.scan.1.operations = session.operations ++ [session.scanning] := by
  simp [scan, operations, announce, scanning, Mirror.beginScan, Mirror.endScan,
    Event.isOperation]

@[simp] theorem operations_rescan : session.rescan.1.operations =
    session.operations ++ session.clearing ++ [session.scanning] := by
  rw [rescan]
  rw [operations_setActivity, operations_restartTimer]
  have scanned (waiting : Session) (queue : Queue) :
      ({ waiting.scan.1 with queue } : Session).operations =
        waiting.operations ++ [waiting.scanning] := waiting.operations_scan
  have cleared (waiting : Session) (queue : Queue) :
      ({ waiting with queue } : Session).clearTree.operations =
        waiting.operations ++ waiting.clearing := operations_clearTree { waiting with queue }
  rw [scanned, cleared]
  simp [scanning, clearing]

@[simp] theorem operations_resetFinished : session.resetFinished.1.operations =
    session.operations ++ [session.scanning] := by
  simp [resetFinished, scanning, Mirror.scanned]

@[simp] theorem operations_resetFailed (reason : String) :
    (session.resetFailed reason).operations = session.operations := by
  rw [resetFailed]
  rw [operations_restartTimer, operations_announce, operations_setActivity]
  exact List.append_nil session.operations

end Session

end FlowClient
