import FlowClient.Proofs.Live.Linked
import FlowClient.Proofs.Live.Sendings
import FlowClient.Proofs.Session.Dispatch

/-! Under which credential a live session sends its requests: under the last one that it passed
on to its worker before it dispatched the task. That is the last one it was told, unless the
worker had no room for it: then it is dropped, where a task would have waited. -/

namespace FlowClient

/-! ## The session and its worker -/

/-- The credential that the session is told. -/
def LiveSession.Course.told? (course : LiveSession.Course) : Option Credential :=
  match course.taken with
  | [(_, .setCredential credential)] => some credential
  | _ => none

namespace LiveSession

variable {live after : LiveSession} {initial : Credential} {now : Nat} {course : Course}

/-- The credential that the session is told and passes on, which takes room. -/
def passedOn? (live : LiveSession) (course : Course) : Option Credential :=
  if live.worker.hasRoom then course.told? else none

/-- The tasks that the session inside dispatches. -/
def dispatched (live : LiveSession) (course : Course) : List TaskId :=
  (live.session.turns course.inputs).flatMap Session.Turn.dispatched

/-- The task that the worker has no room for yet. -/
def handed (live : LiveSession) : List TaskId :=
  match live.phase with
  | .handing id _ _ _ => [id]
  | _ => []

/-- The tasks that were dispatched and not sent yet, each with its credential. -/
def outstanding (initial : Credential) (live : LiveSession) : List (TaskId × Credential) :=
  live.worker.upcoming initial ++ live.handed.map (·, live.worker.lastCredential initial)

/-- What a happening comes to for the tasks that are on their way to the server. -/
structure Carries (initial : Credential) (live : LiveSession) (course : Course)
    (after : LiveSession) : Prop where
  requests : ConnectionAction.requests initial after.worker.actions =
    ConnectionAction.requests initial live.worker.actions ++
      (Worker.sent initial live.worker after.worker).map Sending.shown
  caughtUp : after.worker.running = true → live.worker.running = true ∧
    after.worker.lastCredential initial =
      (live.passedOn? course).getD (live.worker.lastCredential initial)
  outstanding : ((Worker.sent initial live.worker after.worker).map Sending.task ++
    after.outstanding initial).Sublist (live.outstanding initial ++
      (live.dispatched course).map (·, (live.passedOn? course).getD (live.worker.lastCredential initial)))
  heeds : live.dispatched course = [] ∨ live.worker.running = true
  unchanged : live.worker.busy.isSome = true →
    after.worker.credential initial = live.worker.credential initial
  own : ∀ sending ∈ Worker.sent initial live.worker after.worker,
    (live.session.queue.ledger.get? sending.id).map Task.request = some (.ok sending.request)

theorem passedOn?_of_untold (live : LiveSession) (untold : course.told? = none) :
    live.passedOn? course = none := by
  simp [passedOn?, untold]

theorem carries_of_serves
    (serves : live.worker.Serves initial live.session.queue.ledger after.worker)
    (undispatched : live.dispatched course = []) (untold : course.told? = none)
    (handed : after.handed = live.handed) (kept : live.handed = [] ∨ after.worker.running = true) :
    Carries initial live course after := by
  have unheard := live.passedOn?_of_untold untold
  refine ⟨serves.requests, ?_, ?_, .inl undispatched, serves.unchanged, serves.own⟩
  · rw [unheard]
    exact serves.caughtUp
  · have same : after.handed.map (·, after.worker.lastCredential initial) =
        live.handed.map (·, live.worker.lastCredential initial) := by
      rcases kept with none | running
      · rw [handed, none]
        rfl
      · rw [handed, (serves.caughtUp running).2]
    rw [undispatched, LiveSession.outstanding, LiveSession.outstanding, same, List.map_nil,
      List.append_nil, ← List.append_assoc]
    exact serves.upcoming.append (.refl _)

theorem carries_of_aside (worker : after.worker = live.worker)
    (undispatched : live.dispatched course = []) (untold : course.told? = none)
    (handed : after.handed = live.handed) (kept : live.handed = [] ∨ live.worker.running = true) :
    Carries initial live course after := by
  refine carries_of_serves ?_ undispatched untold handed (worker ▸ kept)
  rw [worker]
  exact Worker.serves_of_same _ rfl id (.refl _) fun running => ⟨running, rfl⟩

/-- When the session is asked what is to be done, what it dispatches is handed on after all that
was on its way. -/
structure Passes (initial : Credential) (told after : LiveSession) : Prop where
  actions : after.worker.actions = told.worker.actions
  busy : after.worker.busy = told.worker.busy
  running : after.worker.running = told.worker.running
  last : after.worker.lastCredential initial = told.worker.lastCredential initial
  outstanding : (after.outstanding initial).Sublist (told.worker.upcoming initial ++
    told.session.queue.next.2.toList.map (·, told.worker.lastCredential initial))

theorem Drives.passes {told : LiveSession} (drives : told.Drives after) :
    Passes initial told after := by
  cases drives with
  | idles timer going unasked =>
      refine ⟨rfl, rfl, rfl, rfl, ?_⟩
      simp [outstanding, handed, unasked]
  | @hands id timer asked room =>
      refine ⟨rfl, rfl, rfl, Worker.lastCredential_tell_run initial told.worker id, ?_⟩
      simp [outstanding, handed, asked, Worker.upcoming_tell_run]
  | waits timer asked full =>
      refine ⟨rfl, rfl, rfl, rfl, ?_⟩
      simp [outstanding, handed, asked]
  | stops timer deleted =>
      refine ⟨rfl, rfl, rfl, rfl, ?_⟩
      change (told.worker.upcoming initial ++ []).Sublist _
      rw [List.append_nil]
      exact List.sublist_append_left _ _
  | breaks =>
      refine ⟨rfl, rfl, rfl, rfl, ?_⟩
      change (told.worker.upcoming initial ++ []).Sublist _
      rw [List.append_nil]
      exact List.sublist_append_left _ _

theorem carries_of_passes {told : LiveSession} (passes : Passes initial told after)
    (actions : told.worker.actions = live.worker.actions)
    (busy : told.worker.busy = live.worker.busy) (atWork : live.worker.running = true)
    (upcoming : told.worker.upcoming initial = live.worker.upcoming initial)
    (last : told.worker.lastCredential initial =
      (live.passedOn? course).getD (live.worker.lastCredential initial))
    (dispatched : live.dispatched course = told.session.queue.next.2.toList) :
    Carries initial live course after := by
  have kept := passes.actions.trans actions
  have none : Worker.sent initial live.worker after.worker = [] :=
    Worker.sent_of_busy fun free => (passes.busy.trans busy).trans free
  have outstanding := passes.outstanding
  rw [upcoming, last, ← dispatched] at outstanding
  refine ⟨?_, ?_, ?_, .inr atWork, ?_, ?_⟩
  · rw [kept, none]
    simp
  · intro _
    exact ⟨atWork, passes.last.trans last⟩
  · rw [none]
    exact outstanding.trans ((List.sublist_append_left _ _).append (.refl _))
  · intro _
    rw [Worker.credential, Worker.credential, kept]
  · rw [none]
    simp

theorem dispatched_stepped (linked : live.Linked) {told : LiveSession}
    {inputs : List Session.Input} (taken : List (Ticket × Call))
    (session : told.session = live.session.receiveAll inputs)
    (unstepped : ∀ input ∈ inputs, input ≠ .takeStep) :
    live.dispatched { inputs := inputs ++ [.takeStep], taken } =
      told.session.queue.next.2.toList := by
  have coherent := (Session.settled_receiveAll linked.coherent linked.concluded inputs).1
  rw [dispatched, Session.turns_concat, List.flatMap_append,
    Session.dispatched_turns_of_unstepped unstepped, List.nil_append, List.flatMap_singleton,
    Session.dispatched_takeStep coherent, session]

/-- A live session that is asked what is to be done, after it was told something that leaves what
its worker has. -/
theorem carries_drive (linked : live.Linked) (waits : live.phase = .waiting)
    {told : LiveSession} {inputs : List Session.Input} {taken : List (Ticket × Call)}
    (session : told.session = live.session.receiveAll inputs)
    (unstepped : ∀ input ∈ inputs, input ≠ .takeStep)
    (actions : told.worker.actions = live.worker.actions)
    (busy : told.worker.busy = live.worker.busy)
    (running : told.worker.running = live.worker.running)
    (upcoming : told.worker.upcoming initial = live.worker.upcoming initial)
    (last : told.worker.lastCredential initial =
      (live.passedOn? { inputs := inputs ++ [.takeStep], taken }).getD
        (live.worker.lastCredential initial)) :
    Carries initial live { inputs := inputs ++ [.takeStep], taken } (told.drive now) := by
  obtain ⟨-, atWork, -⟩ := linked.stands.atWork_of_waiting waits
  rcases Session.settled_receiveAll linked.coherent linked.concluded inputs with
    ⟨coherent, concluded⟩
  rw [← session] at coherent concluded
  have drives : told.Drives (told.drive now) :=
    drives_drive coherent concluded (running.trans atWork.running)
  exact carries_of_passes drives.passes actions busy atWork.running upcoming last
    (dispatched_stepped linked taken session unstepped)

/-- A credential is left in the worker's mailbox, if there is room; other calls are not for the
worker. -/
theorem handle_messages (opened : LiveSession) (ticket : Ticket) (call : Call)
    (running : opened.worker.running = true) :
    (opened.handle ticket call).worker.actions = opened.worker.actions ∧
      (opened.handle ticket call).worker.busy = opened.worker.busy ∧
      (opened.handle ticket call).worker.running = opened.worker.running ∧
      (opened.handle ticket call).worker.upcoming initial = opened.worker.upcoming initial ∧
      (opened.handle ticket call).worker.lastCredential initial =
        (opened.passedOn? { taken := [(ticket, call)] }).getD
          (opened.worker.lastCredential initial) := by
  cases call with
  | setCredential credential =>
      cases room : opened.worker.hasRoom with
      | true =>
          simp [handle, forwardCredential, running, room, passedOn?, Course.told?,
            Worker.upcoming_tell_credential, Worker.lastCredential_tell_credential]
          exact ⟨rfl, rfl, running⟩
      | false => simp [handle, forwardCredential, room, passedOn?]
  | _ => simp [handle, reply, passedOn?, Course.told?]

/-! ## One happening -/

theorem unstepped_inputs (call : Call) : ∀ input ∈ call.inputs, input ≠ .takeStep := by
  intro input member
  rcases call.inputs_single with none | ⟨single, isCall, same⟩
  · rw [none] at member
    cases member
  · rw [same] at member
    rw [List.mem_singleton.mp member]
    rintro rfl
    cases isCall

theorem handed_of_phase (phase : live.phase = .waiting ∨ live.phase = .stopping ∨
    live.phase = .ended ∨ live.phase = .broken) : live.handed = [] := by
  rcases phase with phase | phase | phase | phase <;> rw [handed, phase]

/-- What is still to be handed over waits for a worker that is at its work, and idle. -/
theorem handed_or_atWork (linked : live.Linked) :
    live.handed = [] ∨ live.worker.AtWork ∧ live.worker.load = [] := by
  cases linked.stands with
  | waiting phase => exact .inl (handed_of_phase (.inl phase))
  | handing phase atWork load flying => exact .inr ⟨atWork, load⟩
  | finished phase =>
      rcases phase with stops | ended
      · exact .inl (handed_of_phase (.inr (.inl stops)))
      · exact .inl (handed_of_phase (.inr (.inr (.inl ended))))
  | broken phase => exact .inl (handed_of_phase (.inr (.inr (.inr phase))))

theorem carries_answers (linked : live.Linked) (outcome : Outcome) :
    Carries initial live {} (live.finish outcome) := by
  refine carries_of_serves (Worker.serves_finish _ _ _ outcome) rfl rfl rfl ?_
  rcases handed_or_atWork linked with none | ⟨atWork, load⟩
  · exact .inl none
  · right
    have idle : live.worker.busy = none := by
      simp only [Worker.load, List.append_eq_nil_iff, Option.toList_eq_nil_iff] at load
      exact load.1.2
    have same : live.worker.finish outcome = live.worker := by simp [Worker.finish, idle]
    rw [finish, same]
    exact atWork.running

theorem carries_resumes (linked : live.Linked) (resumed : live.resume? now = some after) :
    Carries initial live {} after := by
  rcases resumes_handing linked resumed with ⟨id, phase, -, rfl⟩
  have waits : live.handed = [id] := by rw [handed, phase]
  have running : live.worker.running = true := by
    rcases handed_or_atWork linked with none | ⟨atWork, -⟩
    · rw [none] at waits
      cases waits
    · exact atWork.running
  have none : Worker.sent initial live.worker (live.worker.tell (.run id)) = [] :=
    Worker.sent_of_busy fun free => free
  have last := Worker.lastCredential_tell_run initial live.worker id
  refine ⟨?_, ?_, ?_, .inl rfl, fun _ => rfl, ?_⟩
  · rw [none]
    simp [Worker.tell]
  · intro _
    rw [passedOn?_of_untold live rfl]
    exact ⟨running, last⟩
  · have free : ({ live with worker := live.worker.tell (.run id), phase := .waiting } :
        LiveSession).handed = [] := rfl
    rw [none, outstanding, outstanding, waits, free, Worker.upcoming_tell_run]
    simp [dispatched]
  · rw [none]
    simp

theorem carries_takes {ticket : Ticket} {call : Call} {rest : List (Ticket × Call)}
    (linked : live.Linked) (waits : live.phase = .waiting) :
    Carries initial live { inputs := call.inputs ++ [.takeStep], taken := [(ticket, call)] }
      (({ live with mailbox := rest }.handle ticket call).drive now) := by
  obtain ⟨-, atWork, -⟩ := linked.stands.atWork_of_waiting waits
  let opened : LiveSession := { live with mailbox := rest }
  rcases opened.handle_frame ticket call with ⟨session, -⟩
  obtain ⟨actions, busy, running, upcoming, last⟩ :=
    opened.handle_messages ticket call atWork.running
  exact carries_drive linked waits session (unstepped_inputs call) actions busy running upcoming
    last

/-- A caller who goes away, a tick and an outcome are not for the worker. -/
theorem carries_turn {told : LiveSession} {input : Session.Input} (linked : live.Linked)
    (waits : live.phase = .waiting) (session : told.session = live.session.receive input)
    (unstepped : input ≠ .takeStep)
    (worker : ∃ completions, told.worker = { live.worker with completions }) :
    Carries initial live { inputs := [input, .takeStep] } (told.drive now) := by
  rcases worker with ⟨completions, worker⟩
  have received : told.session = live.session.receiveAll [input] := session
  have untold : live.passedOn? { inputs := [input, .takeStep] } = none :=
    live.passedOn?_of_untold rfl
  refine carries_drive linked waits received ?_ (by rw [worker]) (by rw [worker]) (by rw [worker])
    (by rw [worker]; rfl) ?_
  · intro other member
    rw [List.mem_singleton.mp member]
    exact unstepped
  · rw [worker]
    exact (congrArg (·.getD (live.worker.lastCredential initial)) untold).symm

theorem carries_works (linked : live.Linked) {worker : Worker}
    (worked : live.worker.step? live.session.queue.ledger = some worker) :
    Carries initial live {} { live with worker } := by
  refine carries_of_serves (Worker.serves_step? initial worked) rfl rfl rfl ?_
  rcases handed_or_atWork linked with none | ⟨atWork, load⟩
  · exact .inl none
  · exact .inr (Worker.tookUp_step? atWork (by simp [load]) worked).atWork.running

theorem carries_happens {happening : Happening} (linked : live.Linked)
    (happens : live.Happens happening course after) : Carries initial live course after := by
  have kept : live.handed = [] ∨ live.worker.running = true :=
    (handed_or_atWork linked).imp_right fun ⟨atWork, _⟩ => atWork.running
  cases happens with
  | nothing => exact carries_of_aside rfl rfl rfl rfl kept
  | makes | changes | calls | leaves => exact carries_of_aside rfl rfl rfl rfl kept
  | answers => exact carries_answers linked _
  | resumes resumed => exact carries_resumes linked resumed
  | takes waits => exact carries_takes linked waits
  | closes waits => exact carries_turn linked waits rfl nofun ⟨_, rfl⟩
  | collects waits completions =>
      obtain ⟨-, -, load⟩ := linked.stands.atWork_of_waiting waits
      have flying := (Worker.load_of_completions load completions).1
      exact carries_turn linked waits (Session.receive_complete flying _).symm nofun ⟨_, rfl⟩
  | ticks waits => exact carries_turn linked waits rfl nofun ⟨_, rfl⟩
  | works worked => exact carries_works linked worked
  | stops stopping =>
      have none := handed_of_phase (.inr (.inl stopping))
      exact carries_of_aside rfl rfl rfl none.symm kept

/-! ## Runs -/

/-- The credential that the session is told. -/
def Occasion.told? (occasion : Occasion) : Option Credential := occasion.course.told?

/-- The credential that it passes on to the worker. -/
def Occasion.passedOn? (occasion : Occasion) : Option Credential :=
  occasion.before.passedOn? occasion.course

def Occasion.dispatched (occasion : Occasion) : List TaskId :=
  occasion.before.dispatched occasion.course

/-- The request that goes out, if one does. -/
def Occasion.sent (initial : Credential) (occasion : Occasion) : List Sending :=
  Worker.sent initial occasion.before.worker occasion.after.worker

/-- The last credential that was heard of in a run that began with another. -/
def lastHeard (heard : Occasion → Option Credential) (initial : Credential)
    (occasions : List Occasion) : Credential :=
  occasions.foldl (fun credential occasion => (heard occasion).getD credential) initial

/-- The tasks that a run dispatches, each with the last credential that was heard of. -/
def dispatches (heard : Occasion → Option Credential) (initial : Credential) :
    List Occasion → List (TaskId × Credential)
  | [] => []
  | occasion :: rest =>
      occasion.dispatched.map (·, (heard occasion).getD initial) ++
        dispatches heard ((heard occasion).getD initial) rest

def sendings (initial : Credential) (occasions : List Occasion) : List Sending :=
  occasions.flatMap (·.sent initial)

theorem lastHeard_concat (heard : Occasion → Option Credential) (initial : Credential)
    (occasions : List Occasion) (occasion : Occasion) :
    lastHeard heard initial (occasions ++ [occasion]) =
      (heard occasion).getD (lastHeard heard initial occasions) := by
  simp [lastHeard]

theorem dispatches_concat (heard : Occasion → Option Credential) (initial : Credential)
    (occasions : List Occasion) (occasion : Occasion) :
    dispatches heard initial (occasions ++ [occasion]) = dispatches heard initial occasions ++
      occasion.dispatched.map (·, (heard occasion).getD (lastHeard heard initial occasions)) := by
  induction occasions generalizing initial with
  | nil => simp [dispatches, lastHeard]
  | cons head occasions induction =>
      rw [List.cons_append, dispatches, dispatches, induction, List.append_assoc]
      rfl

/-- What holds of a run up to here. What goes out, and what is still on its way, comes in the
order of the dispatches, each with the last credential that had been passed on. -/
structure Conveys (initial : Credential) (occasions : List Occasion) (live : LiveSession) :
    Prop where
  received : ConnectionAction.requests initial live.worker.actions =
    (sendings initial occasions).map Sending.shown
  caughtUp : live.worker.running = true →
    live.worker.lastCredential initial = lastHeard Occasion.passedOn? initial occasions
  inOrder : ((sendings initial occasions).map Sending.task ++ live.outstanding initial).Sublist
    ((0, initial) :: dispatches Occasion.passedOn? initial occasions)

theorem Conveys.happens {occasions : List Occasion} (conveys : Conveys initial occasions live)
    (linked : live.Linked) (happening : Happening) :
    Conveys initial (occasions ++ [⟨live, happening⟩]) (live.happen happening) := by
  have carries : Carries initial live (live.course happening) (live.happen happening) :=
    carries_happens linked (live.happens happening)
  have sent : sendings initial (occasions ++ [⟨live, happening⟩]) = sendings initial occasions ++
      Worker.sent initial live.worker (live.happen happening).worker := by
    simp [sendings, Occasion.sent, Occasion.after]
  refine ⟨?_, ?_, ?_⟩
  · rw [carries.requests, conveys.received, sent, List.map_append]
  · intro running
    rcases carries.caughtUp running with ⟨ran, last⟩
    rw [last, conveys.caughtUp ran, lastHeard_concat]
    rfl
  · have credited : (live.dispatched (live.course happening)).map
          (·, (live.passedOn? (live.course happening)).getD
            (live.worker.lastCredential initial)) =
        (live.dispatched (live.course happening)).map
          (·, (live.passedOn? (live.course happening)).getD
            (lastHeard Occasion.passedOn? initial occasions)) := by
      rcases carries.heeds with none | running
      · rw [none]
        rfl
      · rw [conveys.caughtUp running]
    have went := carries.outstanding
    rw [credited] at went
    rw [sent, dispatches_concat, List.map_append, List.append_assoc, ← List.cons_append]
    refine .trans (.append (.refl _) went) ?_
    rw [← List.append_assoc]
    exact conveys.inOrder.append (.refl _)

theorem conveys_start (options : SessionOptions) (now : Nat) (initial : Credential) :
    Conveys initial [] (start options now) := by
  have coherent := Session.coherent_receive (Session.coherent_new options) .reset
  have concluded := Session.concluded_receive (Session.coherent_new options) rfl .reset
  let told : LiveSession := { session := (Session.new options).reset }
  have drives : told.Drives (start options now) := drives_drive coherent concluded rfl
  have passes : Passes initial told (start options now) := drives.passes
  have first : told.session.queue.next.2 = some 0 := rfl
  have outstanding := passes.outstanding
  rw [first] at outstanding
  refine ⟨?_, ?_, outstanding⟩
  · rw [passes.actions]
    rfl
  · intro _
    exact passes.last

theorem conveys_happenAll (options : SessionOptions) (now : Nat) (initial : Credential)
    (happenings : List Happening) :
    Conveys initial ((start options now).occasions happenings)
      ((start options now).happenAll happenings) := by
  induction happenings using List.reverseRecOn with
  | nil => exact conveys_start options now initial
  | append_singleton happenings happening induction =>
      rw [happenAll_concat, occasions_concat]
      exact induction.happens (linked_happenAll options now happenings).1 happening

/-! ## Which tasks are dispatched -/

theorem fst_dispatches (heard : Occasion → Option Credential) (initial : Credential)
    (occasions : List Occasion) : (dispatches heard initial occasions).map Prod.fst =
      occasions.flatMap Occasion.dispatched := by
  induction occasions generalizing initial with
  | nil => rfl
  | cons occasion occasions induction =>
      simp [dispatches, induction, Function.comp_def]

theorem dispatches_congr {heard other : Occasion → Option Credential} (initial : Credential)
    {occasions : List Occasion} (same : ∀ occasion ∈ occasions, heard occasion = other occasion) :
    dispatches heard initial occasions = dispatches other initial occasions := by
  induction occasions generalizing initial with
  | nil => rfl
  | cons occasion occasions induction =>
      have rest (credential : Credential) := induction credential fun later member =>
        same later (List.mem_cons_of_mem _ member)
      rw [dispatches, dispatches, same occasion List.mem_cons_self, rest]

/-- A run dispatches the reset that it begins with, and then what its occasions dispatch. -/
theorem dispatched_received (options : SessionOptions) (now : Nat)
    (happenings : List Happening) :
    ((Session.new options).turns (received ((start options now).occasions happenings))).flatMap
        Session.Turn.dispatched =
      0 :: ((start options now).occasions happenings).flatMap Occasion.dispatched := by
  induction happenings using List.reverseRecOn with
  | nil => rfl
  | append_singleton happenings happening induction =>
      have session := (linked_happenAll options now happenings).2
      rw [occasions_concat, received_concat, Session.turns_append, List.flatMap_append, induction,
        ← session, List.flatMap_append, List.flatMap_singleton, List.cons_append]
      rfl

theorem passedOn?_of_room {occasion : Occasion}
    (room : occasion.told?.isSome = true → occasion.before.worker.hasRoom = true) :
    occasion.passedOn? = occasion.told? := by
  cases told : occasion.told? with
  | none => exact occasion.before.passedOn?_of_untold told
  | some credential =>
      rw [told] at room
      rw [Occasion.passedOn?, LiveSession.passedOn?, if_pos (room rfl)]
      exact told

/-! ## Sent under the last credential -/

/-- How a run sends its requests that begins with a credential. -/
structure SendsUnderLast (initial : Credential) (occasions : List Occasion)
    (live : LiveSession) : Prop where
  /-- These are all the requests that the server receives, and the credentials in force. -/
  received : ConnectionAction.requests initial live.worker.actions =
    (sendings initial occasions).map Sending.shown
  own : ∀ occasion ∈ occasions, ∀ sending ∈ occasion.sent initial,
    (occasion.before.session.queue.ledger.get? sending.id).map Task.request =
      some (.ok sending.request)
  /-- A task is sent under the last credential that was passed on before it was dispatched. -/
  inOrder : ((sendings initial occasions).map Sending.task).Sublist
    ((0, initial) :: dispatches Occasion.passedOn? initial occasions)
  once : (((0, initial) :: dispatches Occasion.passedOn? initial occasions).map Prod.fst).Nodup
  /-- While a request is out the credential stays. -/
  unchanged : ∀ occasion ∈ occasions, occasion.before.worker.busy.isSome = true →
    occasion.after.worker.credential initial = occasion.before.worker.credential initial
  /-- If the worker had room for each, it is the last credential that the session was told. -/
  undropped : (∀ occasion ∈ occasions, occasion.told?.isSome = true →
      occasion.before.worker.hasRoom = true) →
    ((sendings initial occasions).map Sending.task).Sublist
      ((0, initial) :: dispatches Occasion.told? initial occasions)

/-- In any run a request is sent under the last credential that the session was told, while its
worker had room for it, before it dispatched the task. -/
theorem sendsUnderLast_happenAll (options : SessionOptions) (now : Nat) (initial : Credential)
    (happenings : List Happening) :
    SendsUnderLast initial ((start options now).occasions happenings)
      ((start options now).happenAll happenings) := by
  have conveys := conveys_happenAll options now initial happenings
  have carries (occasion : Occasion)
      (member : occasion ∈ (start options now).occasions happenings) :
      Carries initial occasion.before occasion.course occasion.after := by
    rcases before_of_mem_occasions member with ⟨earlier, before⟩
    apply carries_happens _ (happens occasion.before occasion.happening)
    rw [before]
    exact (linked_happenAll options now earlier).1
  have inOrder := (List.sublist_append_left _ _).trans conveys.inOrder
  refine ⟨conveys.received, ?_, inOrder, ?_, ?_, ?_⟩
  · intro occasion member
    exact (carries occasion member).own
  · rw [List.map_cons, fst_dispatches, ← dispatched_received options now happenings]
    exact (Session.dispatching_receiveAll options _).once
  · intro occasion member
    exact (carries occasion member).unchanged
  · intro room
    rw [← dispatches_congr initial fun occasion member => passedOn?_of_room (room occasion member)]
    exact inOrder

def token (number : Nat) : Credential := .token s!"t{number}"

/-- Nine credentials come while a request is out, and after that its answer. -/
def nineCredentials : List Happening :=
  .work ::
    (List.range 9).flatMap (fun number => [.call (.setCredential (token (number + 1))), .receive 0])
    ++ [.answer (.ok { definition := some Session.oneSuite }), .complete 0, .work, .resume 0]
    ++ List.replicate 8 .work

/-- The ninth is lost for want of room, and the next request is sent under the eighth. -/
theorem stale_of_nineCredentials :
    ((start Session.sampleOptions 0).occasions nineCredentials).filterMap Occasion.told? =
        (List.range 9).map (token <| · + 1) ∧
      dispatches Occasion.told? (token 0)
        ((start Session.sampleOptions 0).occasions nineCredentials) = [(1, token 9)] ∧
      (sendings (token 0) ((start Session.sampleOptions 0).occasions nineCredentials)).map
        Sending.task = [(0, token 0), (1, token 8)] := by
  decide +kernel

end LiveSession

end FlowClient
