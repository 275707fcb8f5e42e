import FlowClient.Proofs.Live.Answers
import FlowClient.Proofs.Live.Credentials
import FlowClient.Proofs.Session.Endings
import FlowClient.Proofs.Session.Timers

/-! How a live session comes to its end. It is shut down by a caller, or when nobody is left to
call; the session inside ends in order, and only then is the worker let go, with the
connection that it has. The one exception is a session that breaks down because its timer
cannot be started. -/

namespace FlowClient

/-! ## Workers -/

namespace Worker

variable {worker next : Worker}

/-- A worker gives its connection up when it ends, and not before. -/
def ReleasesLast (worker : Worker) : Prop := .release ∈ worker.actions → worker.running = false

theorem releasesLast_of_same (releases : worker.ReleasesLast)
    (actions : next.actions = worker.actions) (running : next.running = worker.running) :
    next.ReleasesLast := by
  rwa [ReleasesLast, actions, running]

theorem releasesLast_perform (releases : worker.ReleasesLast) {action : ConnectionAction}
    (keeps : action ≠ .release) : (worker.perform action).ReleasesLast := by
  intro released
  rcases List.mem_append.mp released with before | now
  · exact releases before
  · exact absurd (List.mem_singleton.mp now).symm keeps

theorem releasesLast_stop (worker : Worker) : worker.stop.ReleasesLast := fun _ => rfl

theorem releasesLast_report (releases : worker.ReleasesLast) (id : TaskId) (outcome : Outcome) :
    (worker.report id outcome).ReleasesLast := by
  rw [report]
  split
  · exact releasesLast_of_same releases rfl rfl
  · exact worker.releasesLast_stop

theorem releasesLast_finish (releases : worker.ReleasesLast) (outcome : Outcome) :
    (worker.finish outcome).ReleasesLast := by
  rw [finish]
  split
  · refine releasesLast_report ?_ _ outcome
    exact releasesLast_of_same releases rfl rfl
  · exact releases

theorem releasesLast_step? (releases : worker.ReleasesLast) {ledger : Ledger}
    (stepped : worker.step? ledger = some next) : next.ReleasesLast := by
  rw [step?] at stepped
  split at stepped
  · cases stepped
  split at stepped
  · simp only at stepped
    split at stepped
    · cases stepped
      exact releasesLast_perform (releasesLast_of_same releases rfl rfl) (by simp)
    · cases stepped
      refine releasesLast_report ?_ _ _
      exact releasesLast_of_same releases rfl rfl
    · cases stepped
      exact releasesLast_of_same releases rfl rfl
  · cases stepped
    exact releasesLast_perform (releasesLast_of_same releases rfl rfl) (by simp)
  · split at stepped
    · cases stepped
    · cases stepped
      exact worker.releasesLast_stop

end Worker

namespace LiveSession

variable {live after : LiveSession} {options : SessionOptions} {moments : List Nat} {now : Nat}
  {happening : Happening} {course : Course}

/-! ## What goes wrong -/

/-- At one of some moments the timer of a session cannot be started. -/
def Late (options : SessionOptions) (moments : List Nat) : Prop :=
  ∃ period, options.refreshInterval = some period ∧
    ∃ moment ∈ moments, Timer.start? moment period = none

/-- What holds of a live session between two happenings, as far as its timer and its worker
go. -/
structure Orderly (options : SessionOptions) (moments : List Nat) (live : LiveSession) : Prop where
  own : live.session.options = options
  punctual : live.session.Punctual
  releases : live.worker.ReleasesLast
  broken : live.phase = .broken → Late options moments

theorem Orderly.next (orderly : Orderly options moments live)
    (minds : live.session.Minds after.session) (releases : after.worker.ReleasesLast)
    (phase : after.phase = live.phase) : Orderly options moments after where
  own := minds.options.trans orderly.own
  punctual := minds.punctual orderly.punctual
  releases := releases
  broken fails := orderly.broken (phase.symm.trans fails)

theorem orderly_breakDown (orderly : Orderly options moments live) (late : Late options moments) :
    Orderly options moments live.breakDown :=
  ⟨orderly.own, orderly.punctual, Worker.releasesLast_of_same orderly.releases rfl rfl,
    fun _ => late⟩

theorem orderly_carryOut (orderly : Orderly options moments live) (present : now ∈ moments)
    {commands : List SessionCommand}
    (own : ∀ period, .startTimer period ∈ commands → options.refreshInterval = some period)
    (keepRunning again : Bool) :
    Orderly options moments (carryOut now keepRunning commands again live).1 := by
  induction commands generalizing live again with
  | nil => exact orderly
  | cons command rest induction =>
      have later (period : Nat) (member : .startTimer period ∈ rest) :=
        own period (List.mem_cons_of_mem command member)
      cases command with
      | stopTimer =>
          refine induction ?_ later again
          exact orderly.next .rfl orderly.releases rfl
      | startTimer period =>
          rw [carryOut]
          cases started : Timer.start? now period with
          | some timer =>
              refine induction ?_ later again
              exact orderly.next .rfl orderly.releases rfl
          | none =>
              exact orderly_breakDown orderly
                ⟨period, own period List.mem_cons_self, now, present, started⟩
      | dispatch id =>
          rw [carryOut]
          split
          · refine induction ?_ later true
            exact orderly.next (Session.minds_taskCompleted _ id workerGone) orderly.releases rfl
          split
          · refine induction ?_ later again
            exact orderly.next .rfl (Worker.releasesLast_of_same orderly.releases rfl rfl) rfl
          · exact ⟨orderly.own, orderly.punctual, orderly.releases, by simp⟩

/-- A step asks for the timer only as the session did before it. -/
theorem own_takeStep {session : Session} (punctual : session.Punctual) (period : Nat)
    (asked : .startTimer period ∈ session.takeStep.2.commands) :
    session.options.refreshInterval = some period := by
  rcases List.mem_append.mp asked with waiting | dispatched
  · exact punctual period waiting
  · cases session.queue.next.2 <;> simp at dispatched

theorem orderly_drive (orderly : Orderly options moments live) (present : now ∈ moments) :
    Orderly options moments (live.drive now) := by
  rw [drive]
  generalize live.session.queue.pending.length + 1 = rounds
  induction rounds generalizing live with
  | zero => exact orderly
  | succ rounds induction =>
      have stepped : Orderly options moments { live with session := live.session.takeStep.1 } :=
        ⟨orderly.own, (fun _ asked => by cases asked), orderly.releases, orderly.broken⟩
      have carried := orderly_carryOut stepped present
        (fun period asked => orderly.own ▸ own_takeStep orderly.punctual period asked)
        live.session.takeStep.2.keepRunning false
      simp only [driveFor]
      generalize carryOut now _ _ _ _ = carriedOut at carried ⊢
      rcases carriedOut with ⟨reached, _ | again⟩
      · exact carried
      · cases live.session.takeStep.2.keepRunning with
        | false =>
            exact ⟨carried.own, carried.punctual,
              Worker.releasesLast_of_same carried.releases rfl rfl, fun broken => by cases broken⟩
        | true =>
            have waits : Orderly options moments { reached with phase := .waiting } :=
              ⟨carried.own, carried.punctual, carried.releases, fun broken => by cases broken⟩
            cases again with
            | false => exact waits
            | true => exact induction waits

/-! ## What happens -/

/-- The moment at which something happens, where that matters. -/
def Happening.moment? : Happening → Option Nat
  | .resume now => some now
  | .receive now => some now
  | .complete now => some now
  | .tick now => some now
  | _ => none

theorem minds_inputs (session : Session) (call : Call) :
    session.Minds (session.receiveAll call.inputs) := by
  rcases call.inputs_single with none | ⟨input, isCall, single⟩
  · rw [none]
    exact .rfl
  · rw [single]
    refine Session.minds_receive ?_
    rintro rfl
    cases isCall

theorem handle_same (live : LiveSession) (ticket : Ticket) (call : Call) :
    (live.handle ticket call).phase = live.phase ∧
      (live.handle ticket call).worker.actions = live.worker.actions ∧
      (live.handle ticket call).worker.running = live.worker.running := by
  cases call with
  | setCredential credential =>
      rw [handle, forwardCredential]
      split <;> exact ⟨rfl, rfl, rfl⟩
  | _ => exact ⟨rfl, rfl, rfl⟩

theorem orderly_happens (linked : live.Linked) (orderly : Orderly options moments live)
    (happens : live.Happens happening course after)
    (present : ∀ now, happening.moment? = some now → now ∈ moments) :
    Orderly options moments after := by
  cases happens with
  | nothing => exact orderly
  | makes | changes => exact orderly.next (Session.minds_queue _ _) orderly.releases rfl
  | calls | leaves => exact orderly.next .rfl orderly.releases rfl
  | answers => exact orderly.next .rfl (Worker.releasesLast_finish orderly.releases _) rfl
  | resumes resumed =>
      rcases resumes_handing linked resumed with ⟨id, -, -, rfl⟩
      exact ⟨orderly.own, orderly.punctual,
        Worker.releasesLast_of_same orderly.releases rfl rfl, by simp⟩
  | @takes now ticket call rest waits =>
      let opened : LiveSession := { live with mailbox := rest }
      obtain ⟨phase, actions, running⟩ := opened.handle_same ticket call
      have session := (opened.handle_frame ticket call).1
      refine orderly_drive (orderly.next ?_ ?_ phase) (present now rfl)
      · exact session ▸ minds_inputs live.session call
      · exact Worker.releasesLast_of_same orderly.releases actions running
  | @closes now =>
      exact orderly_drive (orderly.next (Session.minds_shutdown _) orderly.releases rfl)
        (present now rfl)
  | @collects now id outcome rest =>
      refine orderly_drive (orderly.next (Session.minds_taskCompleted _ id outcome) ?_ rfl)
        (present now rfl)
      exact Worker.releasesLast_of_same orderly.releases rfl rfl
  | @ticks now =>
      exact orderly_drive (orderly.next (Session.minds_update _) orderly.releases rfl)
        (present now rfl)
  | works worked => exact orderly.next .rfl (Worker.releasesLast_step? orderly.releases worked) rfl
  | stops => exact ⟨orderly.own, orderly.punctual, orderly.releases, by simp⟩

/-- A live session that is to be shut down has handed over all that it dispatched. -/
def HandsNothing (live : LiveSession) : Prop := live.session.shuttingDown = true → live.handed = []

theorem Drives.handsNothing (coherent : live.session.Coherent) (drives : live.Drives after) :
    after.HandsNothing := by
  intro closing
  cases drives with
  | idles | hands => exact handed_of_phase (.inl rfl)
  | waits timer asked full =>
      rw [Session.next_of_shuttingDown coherent closing] at asked
      cases asked
  | stops => exact handed_of_phase (.inr (.inl rfl))
  | breaks => exact handed_of_phase (.inr (.inr (.inr rfl)))

theorem handsNothing_drive {told : LiveSession} {inputs : List Session.Input} (linked : live.Linked)
    (session : told.session = live.session.receiveAll inputs)
    (running : told.worker.running = true) : (told.drive now).HandsNothing := by
  rcases Session.settled_receiveAll linked.coherent linked.concluded inputs with
    ⟨coherent, concluded⟩
  rw [← session] at coherent concluded
  exact (drives_drive coherent concluded running).handsNothing coherent

theorem handsNothing_happens (linked : live.Linked) (hands : live.HandsNothing)
    (happens : live.Happens happening course after) : after.HandsNothing := by
  have running (waits : live.phase = .waiting) : live.worker.running = true :=
    (linked.stands.atWork_of_waiting waits).2.1.running
  cases happens with
  | nothing | makes | changes | calls | leaves | answers | works => exact hands
  | resumes resumed =>
      rcases resumes_handing linked resumed with ⟨id, -, -, rfl⟩
      exact fun _ => handed_of_phase (.inl rfl)
  | @takes now ticket call rest waits =>
      let opened : LiveSession := { live with mailbox := rest }
      exact handsNothing_drive linked (opened.handle_frame ticket call).1
        ((opened.handle_same ticket call).2.2.trans (running waits))
  | closes waits =>
      have told : live.session.shutdown = live.session.receiveAll [.shutdown] := rfl
      exact handsNothing_drive linked told (running waits)
  | @collects now id outcome rest waits completions =>
      obtain ⟨-, -, load⟩ := linked.stands.atWork_of_waiting waits
      have flying := (Worker.load_of_completions load completions).1
      have told : live.session.taskCompleted id outcome =
          live.session.receiveAll [.complete outcome] :=
        (Session.receive_complete flying outcome).symm
      exact handsNothing_drive linked told (running waits)
  | ticks waits =>
      have told : live.session.tick = live.session.receiveAll [.tick] := rfl
      exact handsNothing_drive linked told (running waits)
  | stops => exact fun _ => handed_of_phase (.inr (.inr (.inl rfl)))

theorem endsLast_stepped {inputs : List Session.Input} (linked : live.Linked)
    (waits : live.phase = .waiting) (few : inputs = [] ∨ ∃ input, inputs = [input])
    (stepped : after.session = live.session.receiveAll (inputs ++ [.takeStep])) :
    after.session.EndsLast := by
  have going := (linked.stands.atWork_of_waiting waits).1
  have told : (live.session.receiveAll inputs).EndsLast := by
    rcases few with rfl | ⟨input, rfl⟩
    · exact Session.endsLast_of_going going
    · exact Session.endsLast_receive linked.coherent.sound going input
  rw [stepped, Session.receiveAll_concat]
  exact told

/-- Nothing follows the end: a session that is over receives nothing that it would tell of. -/
theorem endsLast_happens (linked : live.Linked) (ends : live.session.EndsLast)
    (happens : live.Happens happening course after) : after.session.EndsLast := by
  have session := (follows_happens linked happens).session
  cases happens with
  | nothing | makes | changes | calls | leaves | answers | works | stops => exact ends
  | resumes resumed => exact session ▸ ends
  | @takes now ticket call rest waits =>
      exact endsLast_stepped linked waits
        (call.inputs_single.imp_right fun ⟨input, _, single⟩ => ⟨input, single⟩) session
  | closes waits => exact endsLast_stepped linked waits (.inr ⟨_, rfl⟩) session
  | collects waits => exact endsLast_stepped linked waits (.inr ⟨_, rfl⟩) session
  | ticks waits => exact endsLast_stepped linked waits (.inr ⟨_, rfl⟩) session

/-! ## Runs -/

theorem orderly_mono {more : List Nat} (orderly : Orderly options moments live)
    (within : moments ⊆ more) : Orderly options more live where
  own := orderly.own
  punctual := orderly.punctual
  releases := orderly.releases
  broken fails := by
    rcases orderly.broken fails with ⟨period, interval, moment, member, late⟩
    exact ⟨period, interval, moment, within member, late⟩

/-- The moments of a run. -/
def momentsOf (now : Nat) (occasions : List Occasion) : List Nat :=
  now :: occasions.filterMap (·.happening.moment?)

theorem momentsOf_concat (now : Nat) (occasions : List Occasion) (occasion : Occasion) :
    momentsOf now (occasions ++ [occasion]) =
      momentsOf now occasions ++ occasion.happening.moment?.toList := by
  simp only [momentsOf, List.filterMap_append, List.cons_append]
  cases known : occasion.happening.moment? <;> simp [known]

theorem orderly_start (options : SessionOptions) (now : Nat) :
    Orderly options [now] (start options now) := by
  have new : Orderly options [now] { session := .new options } := ⟨rfl, nofun, nofun, nofun⟩
  refine orderly_drive (new.next (Session.minds_reset _) ?_ rfl) List.mem_cons_self
  exact new.releases

/-- What holds of a live session between two happenings, besides how it is linked with the
session inside. -/
structure Proper (options : SessionOptions) (moments : List Nat) (live : LiveSession) : Prop where
  orderly : Orderly options moments live
  hands : live.HandsNothing
  ends : live.session.EndsLast

theorem proper_happenAll (options : SessionOptions) (now : Nat) (happenings : List Happening) :
    Proper options (momentsOf now ((start options now).occasions happenings))
      ((start options now).happenAll happenings) := by
  induction happenings using List.reverseRecOn with
  | nil =>
      have linked := linked_new options
      have told : ({ session := (Session.new options).reset } : LiveSession).session =
          (Session.new options).receiveAll [.reset] := rfl
      have hands : (start options now).HandsNothing := handsNothing_drive linked told rfl
      exact ⟨orderly_start options now, hands,
        endsLast_stepped linked rfl (.inr ⟨.reset, rfl⟩) (follows_start options now).session⟩
  | append_singleton happenings happening induction =>
      have linked := (linked_happenAll options now happenings).1
      have happened := happens ((start options now).happenAll happenings) happening
      rw [happenAll_concat, occasions_concat, momentsOf_concat]
      refine ⟨?_, handsNothing_happens linked induction.hands happened,
        endsLast_happens linked induction.ends happened⟩
      refine orderly_happens linked (orderly_mono induction.orderly (by simp)) happened ?_
      intro moment known
      simp [known]

theorem asked_of_happens (happens : live.Happens happening course after)
    (shut : .shutdown ∈ course.inputs) : (∃ ticket, (ticket, .shutdown) ∈ course.taken) ∨
      live.hasCallers = false ∧ live.mailbox = [] := by
  cases happens with
  | @takes now ticket call rest =>
      left
      cases call <;> simp [Call.inputs] at shut ⊢
  | closes waits listens mailbox alone => exact .inr ⟨alone, mailbox⟩
  | _ => simp at shut

/-- What is told once, and last, is not followed by anything. -/
theorem eq_nil_of_last {notices earlier later : List Notice} {notice : Notice}
    (once : notices.countP (·.event = .deleted) ≤ 1)
    (last : ∃ told ending, notices = told ++ [ending] ∧ ending.event = .deleted)
    (split : notices = earlier ++ notice :: later) (ends : notice.event = .deleted) :
    later = [] := by
  rcases last with ⟨told, ending, rfl, final⟩
  rcases List.eq_nil_or_concat later with rfl | ⟨rest, other, rfl⟩
  · rfl
  · rw [List.concat_eq_append, ← List.cons_append, ← List.append_assoc] at split
    rcases List.append_inj' split rfl with ⟨rfl, -⟩
    simp only [List.countP_append, List.countP_cons, List.countP_nil, final, ends, decide_true,
      if_true] at once
    omega

/-- How a live session comes to its end, in a run. -/
structure EndsInOrder (options : SessionOptions) (now : Nat) (occasions : List Occasion)
    (live : LiveSession) : Prop where
  inside : live.session = (Session.new options).receiveAll (received occasions)
  /-- It is shut down by a call, or when nobody is left to call. -/
  asked : ∀ occasion ∈ occasions, .shutdown ∈ occasion.course.inputs →
    (∃ ticket, (ticket, .shutdown) ∈ occasion.course.taken) ∨
      occasion.before.hasCallers = false ∧ occasion.before.mailbox = []
  /-- The end is told when nothing is left in flight, and nothing is dispatched before it. -/
  closes : Session.ClosesDown ((Session.new options).turns (received occasions))
  /-- Nothing is told after the end. -/
  lastWord : ∀ earlier notice later, live.session.notices = earlier ++ notice :: later →
    notice.event = .deleted → later = []
  handsNothing : live.HandsNothing
  /-- The worker is let go after the end was told, or when the session breaks down. -/
  closed : live.worker.isOpen = false ∨ .release ∈ live.worker.actions →
    (∃ notice ∈ live.session.notices, notice.event = .deleted) ∨ live.phase = .broken
  broken : live.phase = .broken → Late options (momentsOf now occasions)

/-- In any run a live session ends in order, unless its timer cannot be started. -/
theorem endsInOrder_happenAll (options : SessionOptions) (now : Nat) (happenings : List Happening) :
    EndsInOrder options now ((start options now).occasions happenings)
      ((start options now).happenAll happenings) := by
  have proper := proper_happenAll options now happenings
  rcases linked_happenAll options now happenings with ⟨linked, inside⟩
  have endings := Session.endings_receiveAll options
    (received ((start options now).occasions happenings))
  rw [← inside] at endings
  have asked : ∀ occasion ∈ (start options now).occasions happenings,
      .shutdown ∈ occasion.course.inputs → (∃ ticket, (ticket, .shutdown) ∈ occasion.course.taken) ∨
        occasion.before.hasCallers = false ∧ occasion.before.mailbox = [] :=
    fun occasion _ => asked_of_happens (happens occasion.before occasion.happening)
  have closes : Session.ClosesDown
      ((Session.new options).turns (received ((start options now).occasions happenings))) :=
    Session.closesDown_turns options _
  generalize (start options now).happenAll happenings = live at *
  refine ⟨inside, asked, closes, ?_, proper.hands, ?_, proper.orderly.broken⟩
  · intro earlier notice later split ends
    have deleted : live.session.deleted = true := by
      cases going : live.session.deleted with
      | true => rfl
      | false => simp [Session.endings, going, split, ends] at endings
    refine eq_nil_of_last ?_ (proper.ends deleted) split ends
    exact endings.le.trans (Bool.toNat_le _)
  · intro gone
    have unreleased (atWork : live.worker.AtWork) :
        ¬(live.worker.isOpen = false ∨ .release ∈ live.worker.actions) := by
      rintro (shut | released)
      · cases shut.symm.trans atWork.isOpen
      · cases (proper.orderly.releases released).symm.trans atWork.running
    cases linked.stands with
    | waiting phase going atWork => exact absurd gone (unreleased atWork)
    | handing phase atWork => exact absurd gone (unreleased atWork)
    | finished phase deleted =>
        rcases proper.ends deleted with ⟨told, ending, notices, last⟩
        exact .inl ⟨ending, by simp [notices], last⟩
    | broken phase => exact .inr phase

/-- The options of a session that is to poll without a pause. -/
def restlessOptions : SessionOptions := { Session.sampleOptions with refreshInterval := some 0 }

/-- The definition is loaded, and polling is to begin. -/
def loaded : List Happening :=
  [.work, .answer (.ok { definition := some Session.oneSuite }), .complete 0, .work]

/-- A session that is to poll without a pause is gone before anybody shuts it down: its
connection is given up, and nobody is told of it. -/
theorem unannounced_of_restless :
    ((start restlessOptions 0).happenAll loaded).phase = .broken ∧
      ((start restlessOptions 0).happenAll loaded).worker.isOpen = false ∧
      ConnectionAction.release ∈ ((start restlessOptions 0).happenAll loaded).worker.actions ∧
      ∀ notice ∈ ((start restlessOptions 0).happenAll loaded).session.notices,
        notice.event ≠ .deleted := by
  decide +kernel

end LiveSession

end FlowClient
