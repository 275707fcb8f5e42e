import FlowClient.Proofs.Mirror.Repeated
import FlowClient.Proofs.Session.Cancellations

/-! What comes of the reply to a sync. Its changes are followed in the mirror one by one, and
each is told with a pair of events. The mirror is filled anew if it has to be; and whether it
has to be is decided by its outline before the first of the changes, since a change that is
followed keeps the outline, and one that is not empties the mirror for good. -/

namespace FlowClient

/-! ## What is told of a change -/

/-- An event without what it says of attributes. -/
def Event.withoutCounts : Event → Event
  | nodeChangeBegin path aspects _ => nodeChangeBegin path aspects {}
  | nodeChangeEnd path aspects _ => nodeChangeEnd path aspects {}
  | event => event

/-- Whether an event is one that following a change can bring about. -/
def Event.isOfChange : Event → Bool
  | clearBegin => true
  | clearEnd => true
  | nodeChangeBegin _ _ _ => true
  | nodeChangeEnd _ _ _ => true
  | definitionChanged _ => true
  | _ => false

/-- What is told of an update that a mirror can follow. -/
def NodeUpdate.tellings (update : NodeUpdate) (mirror : Mirror) : List Event :=
  if update.isServer then [.definitionChanged update.aspects]
  else if mirror.holdsSuiteOf update.path then
    [.nodeChangeBegin update.path update.aspects {}, .nodeChangeEnd update.path update.aspects {}]
  else []

theorem NodeUpdate.tellings_of_outline {before after : Mirror}
    (same : after.outline = before.outline) (update : NodeUpdate) :
    update.tellings after = update.tellings before := by
  rw [tellings, tellings, Mirror.holdsSuiteOf_of_outline same]

namespace Session

/-! ## Events -/

def events (session : Session) : List Event := session.notices.map (·.event)

/-- The events of a turn, in order. -/
def Turn.announced (turn : Turn) : List Event :=
  turn.after.events.drop turn.before.events.length

variable {session before middle after : Session} {update : NodeUpdate} {turn : Turn}
  {told : List Event}

@[simp] theorem events_announce (session : Session) (event : Event) :
    (session.announce event).events = session.events ++ [event] := by
  simp [events]

@[simp] theorem events_setActivity (session : Session) (activity : Activity) :
    (session.setActivity activity).events = session.events ++ [.activityChanged activity] :=
  session.events_announce _

@[simp] theorem events_stopTimer (session : Session) :
    session.stopTimer.events = session.events := by
  simp [events]

@[simp] theorem events_restartTimer (session : Session) :
    session.restartTimer.events = session.events := by
  simp [events]

theorem announced_of_append (grown : turn.after.events = turn.before.events ++ told) :
    turn.announced = told := by
  simp [Turn.announced, grown]

theorem scanCount_eq (session : Session) : session.scanCount = session.events.count .scanEnd := by
  simp only [scanCount, operations, events, List.countP_filter, List.count, List.countP_map]
  congr 1
  funext notice
  cases kind : notice.event <;> simp [Event.isOperation, kind]

theorem scans_of_append (grown : turn.after.events = turn.before.events ++ told) :
    turn.scans = decide (.scanEnd ∈ told) := by
  simp [Turn.scans, scanCount_eq, grown, List.count_append, List.count_pos_iff]

/-- From `before` to `after` nothing is told but changes. -/
def TellsChanges (before after : Session) : Prop :=
  ∃ told, after.events = before.events ++ told ∧ ∀ event ∈ told, event.isOfChange = true

theorem TellsChanges.of_same (same : after.events = before.events) : before.TellsChanges after :=
  ⟨[], by simp [same], by simp⟩

theorem TellsChanges.trans (first : before.TellsChanges middle)
    (second : middle.TellsChanges after) : before.TellsChanges after := by
  rcases first with ⟨told, grown, changes⟩
  rcases second with ⟨more, later, moreChanges⟩
  refine ⟨told ++ more, by rw [later, grown, List.append_assoc], fun event member => ?_⟩
  exact (List.mem_append.mp member).elim (changes event) (moreChanges event)

theorem TellsChanges.announce (event : Event) (ofChange : event.isOfChange = true) :
    session.TellsChanges (session.announce event) :=
  ⟨[event], by simp, by simpa using ofChange⟩

/-- What is told when the mirror is emptied. -/
def clearTold (session : Session) : List Event :=
  if session.mirror.isEmpty then [] else [.clearBegin, .clearEnd]

@[simp] theorem events_clearTree (session : Session) :
    session.clearTree.events = session.events ++ session.clearTold := by
  unfold clearTree clearTold
  split
  · simp
  · simp [events]

theorem tellsChanges_clearTree (session : Session) : session.TellsChanges session.clearTree := by
  refine ⟨session.clearTold, by simp, fun event member => ?_⟩
  unfold clearTold at member
  split at member
  · cases member
  · simp only [List.mem_cons, List.not_mem_nil, or_false] at member
    rcases member with rfl | rfl <;> rfl

@[simp] theorem events_scan (session : Session) : session.scan.1.events = session.events ++
    [.scanBegin (Mirror.extentOf (Mirror.scanned session.definition session.filter)), .scanEnd] := by
  simp [scan, events, Mirror.beginScan]

/-- What is told when the mirror is filled anew. -/
def rescanTold (session : Session) : List Event :=
  .activityChanged .rescanning :: session.clearTold ++
    [.scanBegin (Mirror.extentOf (Mirror.scanned session.definition session.filter)), .scanEnd,
      .activityChanged .idle]

theorem events_rescan (session : Session) :
    session.rescan.1.events = session.events ++ session.rescanTold := by
  have scanned (waiting : Session) (queue : Queue) :
      ({ waiting.scan.1 with queue } : Session).events = waiting.scan.1.events := rfl
  have cleared (waiting : Session) (queue : Queue) :
      ({ waiting with queue } : Session).clearTree.events = waiting.events ++ waiting.clearTold :=
    events_clearTree { waiting with queue }
  rw [rescan]
  rw [events_setActivity, events_restartTimer, scanned, events_scan, cleared]
  simp [rescanTold, clearTold]

/-! ## One change -/

theorem tellsChanges_nodeChanged (session : Session) (update : NodeUpdate) :
    session.TellsChanges (session.nodeChanged update).1 := by
  rw [nodeChanged]
  split
  · exact .announce _ rfl
  split
  · exact session.tellsChanges_clearTree
  split
  · exact .of_same rfl
  split
  · exact .of_same rfl
  split
  · exact .of_same rfl
  · simp only
    split
    · exact .announce _ rfl
    · exact .trans (.announce _ rfl) (.announce _ rfl)

theorem tellsChanges_applyChange (session : Session) (update : NodeUpdate) :
    session.TellsChanges (session.applyChange update) := by
  have follows : session.TellsChanges (nodeChanged
      { session with definition := session.definition.updated update } update).1 :=
    tellsChanges_nodeChanged { session with definition := session.definition.updated update } update
  rcases session.applyChange_cases update with same | same
  · exact same ▸ follows
  · exact same ▸ follows.trans (tellsChanges_clearTree _)

/-- A change that cannot be followed empties the mirror. -/
theorem isEmpty_applyChange_of_outdates (filled : session.mirror.isEmpty = false)
    (outdates : update.outdates session.mirror = true) :
    (session.applyChange update).mirror.isEmpty = true := by
  simp only [NodeUpdate.outdates, Bool.and_eq_true, Bool.not_eq_true', Bool.or_eq_true] at outdates
  rcases outdates with ⟨node, structural | ⟨held, missing⟩⟩
  · simp [applyChange, nodeChanged, node, structural]
  · have refused : session.mirror.beginUpdate update.path {} = .error (.unknownNode update.path) := by
      rw [Mirror.beginUpdate_eq filled node, if_pos held, Option.isNone_iff_eq_none.mp missing]
    cases structural : update.isStructural <;>
      simp [applyChange, nodeChanged, node, structural, filled, refused]

/-- One that can be followed makes of the mirror what it says, and is told as the outline has
it. -/
theorem applyChange_of_not_outdates (filled : session.mirror.isEmpty = false)
    (follows : update.outdates session.mirror = false) :
    (session.applyChange update).mirror = session.mirror.followed update ∧
      (session.applyChange update).events.map Event.withoutCounts =
        session.events.map Event.withoutCounts ++ update.tellings session.mirror := by
  cases node : update.isServer with
  | true =>
      simp [applyChange, nodeChanged, node, Mirror.followed_server node, NodeUpdate.tellings,
        Event.withoutCounts, events]
  | false =>
      simp only [NodeUpdate.outdates, node, Bool.not_false, Bool.true_and, Bool.or_eq_false_iff,
        Bool.and_eq_false_iff] at follows
      rcases follows with ⟨flat, present⟩
      have begins := Mirror.beginUpdate_eq filled node
      cases held : session.mirror.holdsSuiteOf update.path with
      | false =>
          rw [held, if_neg Bool.false_ne_true] at begins
          simp [applyChange, nodeChanged, node, flat, filled, begins, Mirror.followed_absent held,
            NodeUpdate.tellings, held, events]
      | true =>
          have missing : (session.mirror.find? update.path).isNone = false := by simpa [held] using present
          rcases Option.isSome_iff_exists.mp (Option.isNone_eq_false_iff.mp missing) with ⟨found, reached⟩
          rw [held, if_pos rfl, reached] at begins
          rcases Mirror.endUpdate_of_beginUpdate begins rfl with ⟨⟨mirror, change⟩, made⟩
          have followed : mirror = session.mirror.followed update := Mirror.followed_endUpdate rfl made
          simp [applyChange, nodeChanged, node, flat, filled, begins, made, followed,
            NodeUpdate.tellings, held, Event.withoutCounts, events, announce]

theorem outline_applyChange (filled : session.mirror.isEmpty = false)
    (follows : update.outdates session.mirror = false) :
    (session.applyChange update).mirror.outline = session.mirror.outline := by
  rw [(applyChange_of_not_outdates filled follows).1, Mirror.outline_followed]

/-! ## All changes -/

/-- A mirror that is empty after some changes was empty before them, or one of them could not
be followed from the start. -/
theorem isEmpty_foldl_applyChange (changes : List NodeUpdate) (session : Session) :
    (changes.foldl applyChange session).mirror.isEmpty =
      (session.mirror.isEmpty || changes.any (·.outdates session.mirror)) := by
  induction changes generalizing session with
  | nil => simp
  | cons update changes induction =>
      rw [List.foldl_cons, induction, List.any_cons]
      cases filled : session.mirror.isEmpty with
      | true =>
          -- Nothing fills the mirror while changes are followed.
          have stays : (session.applyChange update).mirror.isEmpty = true := by
            by_contra refilled
            have before := ((session.keepsUp_applyChange update).filled (by simpa using refilled)).1
            rw [filled] at before
            cases before
          rw [stays, Bool.true_or, Bool.true_or]
      | false =>
          cases outdates : update.outdates session.mirror with
          | true => simp [isEmpty_applyChange_of_outdates filled outdates]
          | false =>
              have outline := outline_applyChange filled outdates
              simp only [Mirror.isEmpty_of_outline outline, filled, Mirror.outdates_of_outline outline,
                Bool.false_or]

theorem foldl_applyChange_of_follows (session : Session) {changes : List NodeUpdate}
    (filled : session.mirror.isEmpty = false)
    (follows : ∀ update ∈ changes, update.outdates session.mirror = false) :
    (changes.foldl applyChange session).mirror = changes.foldl Mirror.followed session.mirror ∧
      (changes.foldl applyChange session).events.map Event.withoutCounts =
        session.events.map Event.withoutCounts ++ changes.flatMap (·.tellings session.mirror) := by
  induction changes generalizing session with
  | nil => simp
  | cons update changes induction =>
      have now := follows update List.mem_cons_self
      have outline := outline_applyChange filled now
      rcases applyChange_of_not_outdates filled now with ⟨followed, told⟩
      have later : ∀ other ∈ changes, other.outdates (session.applyChange update).mirror = false := by
        intro other member
        rw [Mirror.outdates_of_outline outline]
        exact follows other (List.mem_cons_of_mem _ member)
      rcases induction _ ((Mirror.isEmpty_of_outline outline).trans filled) later with
          ⟨laterFollowed, laterTold⟩
      refine ⟨by rw [List.foldl_cons, laterFollowed, followed, List.foldl_cons], ?_⟩
      rw [List.foldl_cons, laterTold, told, List.flatMap_cons, List.append_assoc]
      simp only [NodeUpdate.tellings_of_outline outline]

theorem tellsChanges_applySync (session : Session) (reply : Reply) :
    session.TellsChanges (session.applySync reply) := by
  have takes : session.TellsChanges (session.takeDefinition reply) := .of_same (by simp [events])
  exact applySync_of_steps TellsChanges .trans takes tellsChanges_applyChange

/-- Whether the mirror is filled anew was decided before the first change. -/
theorem isOutdatedBy_eq (session : Session) (reply : Reply) :
    (reply.fullSync || (session.applySync reply).mirror.isEmpty) =
      session.mirror.isOutdatedBy reply := by
  have mirror : (session.takeDefinition reply).mirror = session.mirror := by simp
  rw [applySync, isEmpty_foldl_applyChange, mirror, Mirror.isOutdatedBy, Bool.or_assoc]

/-! ## A sync that comes back -/

/-- The session after the changes of a sync, before its mirror is filled anew. -/
def folded (session : Session) (id : TaskId) (reply : Reply) : Session :=
  (session.applySync reply).advance id (.finished .nothing)

theorem syncSucceeded_eq (session : Session) (id : TaskId) (reply : Reply) :
    session.syncSucceeded id reply = Session.follow
      (if session.mirror.isOutdatedBy reply then (session.folded id reply).rescan.1
        else session.folded id reply) { kind := .suiteList } := by
  rw [← isOutdatedBy_eq]
  rfl

/-- Whether the mirror is filled anew or not, the list of suites is asked for. -/
theorem queue_syncSucceeded (session : Session) (id : TaskId) (reply : Reply)
    (enabled : session.queue.mode ≠ .disabled) (ended : session.queue.resetting = none) :
    (session.syncSucceeded id reply).queue.pending =
        session.queue.pending ++ [session.queue.ledger.size] ∧
      (session.syncSucceeded id reply).queue.ledger =
        (session.queue.ledger.advance id (.finished .nothing)).add { kind := .suiteList } := by
  have asks (queue : Queue) (mode : queue.mode ≠ .disabled)
      (kept : queue.ledger = session.queue.ledger.advance id (.finished .nothing) ∧
        queue.pending = session.queue.pending ∧ queue.resetting = session.queue.resetting) :
      (queue.add { kind := .suiteList }).1.pending =
          session.queue.pending ++ [session.queue.ledger.size] ∧
        (queue.add { kind := .suiteList }).1.ledger =
          (session.queue.ledger.advance id (.finished .nothing)).add { kind := .suiteList } := by
    rcases kept with ⟨ledger, pending, resetting⟩
    rw [queue.add_of_open _ mode (resetting.trans ended)]
    simp [ledger, pending, Ledger.advance]
  have folded : (session.folded id reply).queue = session.queue.advance id (.finished .nothing) := by
    simp [folded]
  rw [syncSucceeded_eq]
  split
  · have started : (session.folded id reply).rescan.1.queue =
        (session.queue.advance id (.finished .nothing)).start := by
      simp [folded]
    apply asks
    · rw [started, Ne, Queue.mode_start]
      exact enabled
    · rw [started]
      simp [Queue.advance]
  · apply asks
    · rw [folded]
      exact enabled
    · rw [folded]
      exact ⟨rfl, rfl, rfl⟩

/-- What a turn tells and shows that fills the mirror anew. -/
structure Rebuilt (turn : Turn) : Prop where
  /-- After the changes the mirror is emptied, unless it is empty by then, and scanned. -/
  told : ∃ followed cleared,
    turn.announced = followed ++ .activityChanged .rescanning :: cleared ++
      [.scanBegin (Mirror.extentOf turn.after.mirror.suites), .scanEnd, .activityChanged .idle] ∧
    (∀ event ∈ followed, event.isOfChange = true) ∧
    (cleared = [] ∨ cleared = [.clearBegin, .clearEnd])
  shown : turn.after.mirror.suites = Mirror.scanned turn.after.definition turn.after.filter

/-- What a turn tells and shows in which the mirror follows the changes of a reply. -/
structure Followed (turn : Turn) (reply : Reply) : Prop where
  told : turn.announced.map Event.withoutCounts =
    reply.changes.flatMap (·.tellings turn.before.mirror)
  outline : turn.after.mirror.outline = turn.before.mirror.outline

theorem rebuilt_of_outdated {id : TaskId} {reply : Reply}
    (after : turn.after = (turn.before.takenBack id).syncSucceeded id reply)
    (outdated : turn.before.mirror.isOutdatedBy reply = true) :
    Rebuilt turn ∧ turn.scans = true ∧ .activityChanged .rescanning ∈ turn.announced := by
  have back : (turn.before.takenBack id).mirror.isOutdatedBy reply = true := outdated
  rw [syncSucceeded_eq, if_pos back] at after
  generalize folding : (turn.before.takenBack id).folded id reply = folded at after
  rcases (turn.before.takenBack id).tellsChanges_applySync reply with ⟨followed, grown, changes⟩
  have foldedEvents : folded.events = turn.before.events ++ followed := by
    rw [← folding]
    exact grown
  have events : turn.after.events = turn.before.events ++ (followed ++ folded.rescanTold) := by
    rw [after, ← List.append_assoc, ← foldedEvents]
    exact folded.events_rescan
  have shown : turn.after.mirror.suites = Mirror.scanned folded.definition folded.filter := by
    rw [after]
    simp [follow]
  refine ⟨⟨⟨followed, folded.clearTold, ?_, changes, ?_⟩, ?_⟩, ?_, ?_⟩
  · rw [announced_of_append events, shown, rescanTold]
    simp
  · unfold clearTold
    split
    · exact .inl rfl
    · exact .inr rfl
  · rw [shown, after]
    simp [follow]
  · simp [scans_of_append events, rescanTold]
  · simp [announced_of_append events, rescanTold]

theorem followed_of_current {id : TaskId} {reply : Reply}
    (after : turn.after = (turn.before.takenBack id).syncSucceeded id reply)
    (current : turn.before.mirror.isOutdatedBy reply = false) :
    Followed turn reply ∧ turn.scans = false ∧ .activityChanged .rescanning ∉ turn.announced := by
  have back : (turn.before.takenBack id).mirror.isOutdatedBy reply = false := current
  rw [syncSucceeded_eq, if_neg (by simp [back])] at after
  simp only [Mirror.isOutdatedBy, Bool.or_eq_false_iff, List.any_eq_false, Bool.not_eq_true] at current
  rcases current with ⟨⟨part, filled⟩, follows⟩
  have applying : (turn.before.takenBack id).applySync reply =
      reply.changes.foldl applyChange (turn.before.takenBack id) := by
    simp [applySync, takeDefinition, part]
  have applied := foldl_applyChange_of_follows (turn.before.takenBack id) filled follows
  rw [← applying] at applied
  rcases (turn.before.takenBack id).tellsChanges_applySync reply with ⟨told, grown, changes⟩
  have events : turn.after.events = turn.before.events ++ told := by
    rw [after]
    exact grown
  have expected : told.map Event.withoutCounts =
      reply.changes.flatMap (·.tellings turn.before.mirror) := by
    have whole := applied.2
    rw [grown, List.map_append] at whole
    exact List.append_cancel_left whole
  have silent (event : Event) (other : event.isOfChange = false) : event ∉ told := by
    intro member
    rw [changes event member] at other
    cases other
  refine ⟨⟨?_, ?_⟩, ?_, ?_⟩
  · rw [announced_of_append events, expected]
  · rw [after]
    exact (congrArg Mirror.outline applied.1).trans (Mirror.outline_foldl_followed _ _)
  · rw [scans_of_append events]
    exact decide_eq_false (silent _ rfl)
  · rw [announced_of_append events]
    exact silent _ rfl

theorem receive_sync {id : TaskId} (sound : session.queue.Sound)
    (flying : session.queue.inFlight = some id) (known : session.queue.kind? id = some .sync)
    (used : session.isSuperseded .sync = false) (reply : Reply) :
    session.receive (.complete (.ok reply)) = (session.takenBack id).syncSucceeded id reply := by
  rw [receive_complete flying, taskCompleted_of_known known,
    isSuperseded_takenBack sound flying known, if_neg (by simp [used])]
  rfl

/-- What a turn with the reply to a sync makes of the mirror. -/
structure Resolves (turn : Turn) (reply : Reply) : Prop where
  scans : turn.scans = true ↔ turn.before.mirror.isOutdatedBy reply = true
  rescans : .activityChanged .rescanning ∈ turn.announced ↔
    turn.before.mirror.isOutdatedBy reply = true
  rebuilt : turn.before.mirror.isOutdatedBy reply = true → Rebuilt turn
  followed : turn.before.mirror.isOutdatedBy reply = false → Followed turn reply

theorem resolves_of_after {id : TaskId} {reply : Reply}
    (after : turn.after = (turn.before.takenBack id).syncSucceeded id reply) :
    Resolves turn reply := by
  cases outdated : turn.before.mirror.isOutdatedBy reply with
  | true =>
      rcases rebuilt_of_outdated after outdated with ⟨rebuilt, scans, rescans⟩
      exact ⟨iff_of_true scans outdated, iff_of_true rescans outdated, fun _ => rebuilt,
        fun current => by simp [outdated] at current⟩
  | false =>
      rcases followed_of_current after outdated with ⟨followed, still, quiet⟩
      exact ⟨by simp [still, outdated], by simp [quiet, outdated],
        fun needed => by simp [outdated] at needed, fun _ => followed⟩

/-- What comes of the sync `id` in a turn, after these, in which it brought this reply. -/
structure Synced (turns : List Turn) (turn : Turn) (id : TaskId) (reply : Reply) : Prop
    extends Resolves turn reply where
  /-- One task is made, which asks for the suites, and it waits behind the others. -/
  asks : turn.after.queue.pending = turn.before.queue.pending ++ [turn.before.queue.ledger.size] ∧
    turn.after.queue.task? turn.before.queue.ledger.size = some { kind := .suiteList } ∧
    turn.after.queue.ledger.size = turn.before.queue.ledger.size + 1
  /-- The sync is finished, unless somebody ran it meanwhile and had it rejected. -/
  ended : (turn.after.queue.ledger.progress? id = some (.finished .nothing) ∧
      ¬RanInFlight turns id) ∨
    ∃ reason, turn.after.queue.ledger.progress? id = some (.rejected reason) ∧
      RanInFlight turns id

theorem asks_of_after {id : TaskId} {reply : Reply}
    (after : turn.after = (turn.before.takenBack id).syncSucceeded id reply)
    (coherent : turn.before.Coherent) (flying : turn.before.queue.inFlight = some id)
    (used : turn.before.isSuperseded .sync = false) :
    turn.after.queue.pending = turn.before.queue.pending ++ [turn.before.queue.ledger.size] ∧
      turn.after.queue.task? turn.before.queue.ledger.size = some { kind := .suiteList } ∧
      turn.after.queue.ledger.size = turn.before.queue.ledger.size + 1 := by
  rcases not_isSuperseded used with ⟨connected, going, unreset⟩
  have enabled : (turn.before.takenBack id).queue.mode ≠ .disabled := by
    simpa [takenBack, Queue.complete, flying] using coherent.enabled connected going
  have free : (turn.before.takenBack id).queue.resetting = none := by
    simp [takenBack, Queue.complete, flying, unreset (by simp)]
  have asks := queue_syncSucceeded (turn.before.takenBack id) id reply enabled free
  rw [← after] at asks
  rcases asks with ⟨pending, ledger⟩
  have size : turn.before.queue.ledger.size =
      ((turn.before.takenBack id).queue.ledger.advance id (.finished .nothing)).size := by
    simp [Ledger.advance, takenBack]
  refine ⟨by simpa [takenBack] using pending, ?_, ?_⟩
  · rw [Queue.task?, ledger, size]
    exact Ledger.get?_add_new _ _
  · rw [ledger, size]
    simp [Ledger.add, Ledger.size]

/-- In any run, a sync whose reply is used has the mirror filled anew just if its outline does
not let it follow the reply. -/
theorem synced_receiveAll (options : SessionOptions) (inputs : List Input) {id : TaskId}
    (flying : ((new options).receiveAll inputs).queue.inFlight = some id)
    (known : ((new options).receiveAll inputs).queue.kind? id = some .sync)
    (used : ((new options).receiveAll inputs).isSuperseded .sync = false) (reply : Reply) :
    Synced ((new options).turns inputs) ⟨(new options).receiveAll inputs, .complete (.ok reply)⟩
      id reply := by
  have coherent := coherent_receiveAll options inputs
  have after := receive_sync coherent.sound flying known used reply
  have now := progress_of_flying options inputs id flying
  have ended := progress_complete flying known now (.ok reply)
  refine ⟨resolves_of_after after, asks_of_after after coherent flying used, ?_⟩
  rcases cancellation?_of_unroutable options inputs flying known rfl with
      ⟨spared, unran⟩ | ⟨reason, rejected, ran⟩
  · rw [spared] at ended
    exact .inl ⟨ended, unran⟩
  · rw [rejected] at ended
    exact .inr ⟨reason, ended, ran⟩

/-- A load, after which the server has news, so that a sync is in flight. -/
def syncs : List Input :=
  .reset :: loads ++ [.tick, .takeStep, .complete (.ok { news := some .news }), .takeStep]

/-- The reply that the only suite has become active. -/
def activates : Reply := { changes := [{ path := "/s1", state := some .active }] }

theorem synced_of_syncs :
    ((new sampleOptions).receiveAll syncs).queue.inFlight = some 3 ∧
      ((new sampleOptions).receiveAll syncs).queue.kind? 3 = some .sync ∧
      ((new sampleOptions).receiveAll syncs).isSuperseded .sync = false ∧
      ((new sampleOptions).receiveAll syncs).mirror.isOutdatedBy activates = false ∧
      Synced ((new sampleOptions).turns syncs)
        ⟨(new sampleOptions).receiveAll syncs, .complete (.ok activates)⟩ 3 activates :=
  have flying : ((new sampleOptions).receiveAll syncs).queue.inFlight = some 3 := by decide +kernel
  have known : ((new sampleOptions).receiveAll syncs).queue.kind? 3 = some .sync := by
    decide +kernel
  have used : ((new sampleOptions).receiveAll syncs).isSuperseded .sync = false := by
    decide +kernel
  ⟨flying, known, used, by decide +kernel,
    synced_receiveAll sampleOptions syncs flying known used activates⟩

/-- A sync that somebody runs while it is in flight is rejected, though its reply is used. -/
theorem rejected_of_run_sync :
    ((new sampleOptions).receiveAll (syncs ++ [.run 3])).queue.inFlight = some 3 ∧
      ((new sampleOptions).receiveAll (syncs ++ [.run 3])).queue.kind? 3 = some .sync ∧
      ((new sampleOptions).receiveAll (syncs ++ [.run 3])).isSuperseded .sync = false ∧
      ((new sampleOptions).receiveAll
        (syncs ++ [.run 3, .complete (.ok activates)])).queue.ledger.progress? 3 =
          some (.rejected "Sync tasks cannot be run directly") := by
  decide +kernel

end Session

end FlowClient
