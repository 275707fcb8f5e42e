import FlowClient.Proofs.Session.Narratives

/-! What somebody knows of a session who only listens to it. An observer that follows the
events from the start has the same picture of the session as somebody who asks it. -/

namespace FlowClient

/-! ## Pictures -/

/-- What an observer makes of a session from the events it hears. -/
structure Picture where
  contact : Contact := .lost none
  activity : Activity := .idle
  suites : Nat := 0
  /-- What the last scan announced. -/
  announced : Nat := 0

namespace Picture

/-- The picture after one more event. What a scan announces counts when it ends. -/
def follow (picture : Picture) : Event → Picture
  | .contactChanged contact => { picture with contact }
  | .activityChanged activity => { picture with activity }
  | .scanBegin extent => { picture with announced := extent.suites }
  | .scanEnd => { picture with suites := picture.announced }
  | .clearEnd => { picture with suites := 0 }
  | _ => picture

def followAll (picture : Picture) (notices : List Notice) : Picture :=
  notices.foldl (fun picture notice => picture.follow notice.event) picture

@[simp] theorem followAll_cons (picture : Picture) (notice : Notice) (notices : List Notice) :
    picture.followAll (notice :: notices) = (picture.follow notice.event).followAll notices := rfl

theorem followAll_append (picture : Picture) (notices more : List Notice) :
    picture.followAll (notices ++ more) = (picture.followAll notices).followAll more :=
  List.foldl_append

/-- A picture shows what a snapshot has of the same. -/
structure Agrees (picture : Picture) (snapshot : Snapshot) : Prop where
  contact : picture.contact = snapshot.contact
  activity : picture.activity = snapshot.activity
  suites : picture.suites = snapshot.mirroredSuites.length

/-- A picture shows what can be seen. -/
structure Fits (picture : Picture) (appearance : Appearance) : Prop where
  contact : picture.contact = appearance.contact
  activity : picture.activity = appearance.activity
  suites : picture.suites = appearance.shown.length

variable {picture : Picture} {first second : Notice} {start later : Appearance}

theorem Fits.agrees {session : Session} (fits : picture.Fits session.appearance) :
    picture.Agrees session.snapshot where
  contact := fits.contact
  activity := fits.activity
  suites := by
    simpa [Session.appearance, Session.snapshot, Mirror.suiteNames] using fits.suites

theorem follow_of_isRemark {event : Event} (remark : event.isRemark = true) :
    picture.follow event = picture := by
  cases event <;> first | rfl | cases remark

/-- At the end of a pair the picture shows as many suites as the mirror has. -/
theorem Fits.pair (fits : picture.Fits start) (pair : Notice.Pair first second)
    (same : first.shown = start.shown)
    (grown : first.event.beginsChange = true → second.shown.length = first.shown.length) :
    ((picture.follow first.event).follow second.event).Fits
      { start with shown := second.shown } := by
  rcases fits with ⟨contact, activity, suites⟩
  cases pair with
  | scan extent begins ends empty complete =>
      rw [begins, ends]
      exact ⟨contact, activity, (congrArg ScanExtent.suites complete).symm⟩
  | clear begins ends empty =>
      rw [begins, ends]
      exact ⟨contact, activity, (congrArg List.length empty).symm⟩
  | change path aspects begun ended begins ends =>
      have size : second.shown.length = start.shown.length :=
        (grown (begins ▸ rfl)).trans (congrArg List.length same)
      rw [begins, ends]
      exact ⟨contact, activity, suites.trans size.symm⟩

/-- Whoever follows a chronicle has the picture of what there is at its end. -/
theorem Fits.followAll {notices : List Notice} (fits : picture.Fits start)
    (told : Chronicle start notices later) : (picture.followAll notices).Fits later := by
  induction told generalizing picture with
  | nil => exact fits
  | remark remark _ _ induction =>
      rw [followAll_cons, follow_of_isRemark remark]
      exact induction fits
  | activity activity event _ _ induction =>
      rw [followAll_cons, event]
      exact induction ⟨fits.contact, rfl, fits.suites⟩
  | contact contact event _ _ induction =>
      rw [followAll_cons, event]
      exact induction ⟨rfl, fits.activity, fits.suites⟩
  | deleted event _ _ _ induction =>
      rw [followAll_cons, event]
      exact induction ⟨fits.contact, fits.activity, fits.suites⟩
  | pair pair same grown _ induction => exact induction (fits.pair pair same grown)

end Picture

namespace Session

variable {session : Session} {input : Input} {id : ObserverId}

/-! ## Observers -/

/-- What an observer makes of all that it has heard. -/
def pictured (session : Session) (id : ObserverId) : Picture :=
  Picture.followAll {} (session.heard id)

/-- An observer that joined at the start knows the session for as long as it listens. -/
structure Informed (id : ObserverId) (session : Session) : Prop where
  joined : id < session.subscriptions
  fits : id ∈ session.observers → (session.pictured id).Fits session.appearance

theorem informed_subscribe (informed : Informed id session) :
    Informed id session.subscribe.1 where
  joined := Nat.lt_succ_of_lt informed.joined
  fits := by
    intro listens
    rcases List.mem_append.mp listens with old | new
    · exact informed.fits old
    · exact absurd (List.mem_singleton.mp new) (Nat.ne_of_lt informed.joined)

theorem informed_unsubscribe (informed : Informed id session) (other : ObserverId) :
    Informed id (session.unsubscribe other).1 where
  joined := informed.joined
  fits listens := informed.fits (List.mem_filter.mp listens).1

theorem Informed.later (informed : Informed id session)
    (chronicles : session.Chronicles (session.receive input))
    (subscriptions : (session.receive input).subscriptions = session.subscriptions) :
    Informed id (session.receive input) where
  joined := subscriptions ▸ informed.joined
  fits := by
    intro listens
    rw [chronicles.observers] at listens
    rcases chronicles.told with ⟨added, notices, audience, told⟩
    have heard := heard_of_narrates id notices audience
    rw [if_pos listens] at heard
    rw [pictured, heard, Picture.followAll_append]
    exact (informed.fits listens).followAll told

theorem informed_receive (coherent : session.Coherent) (blank : Standing.Blank session.standing)
    (informed : Informed id session) (input : Input) : Informed id (session.receive input) := by
  have subscriptions := congrArg Lasting.subscriptions (lasting_receive coherent.sound input)
  have chronicles := chronicles_receive coherent blank input
  cases input with
  | subscribe => exact informed_subscribe informed
  | unsubscribe other => exact informed_unsubscribe informed other
  | shutdown =>
      refine informed.later (chronicles (by simp) (by simp)) (subscriptions.trans ?_)
      cases session.shuttingDown <;> rfl
  | _ => exact informed.later (chronicles (by simp) (by simp)) subscriptions

/-- So many observers join before anything else happens. -/
theorem receiveAll_subscribe (options : SessionOptions) (count : Nat) :
    (new options).receiveAll (List.replicate count .subscribe) =
      { new options with observers := List.range count, subscriptions := count } := by
  induction count with
  | zero => rfl
  | succ count induction =>
      rw [List.replicate_succ', receiveAll_concat, induction]
      simp [receive, subscribe, List.range_succ]

theorem informed_receiveAll (options : SessionOptions) {count : Nat} (early : id < count)
    (inputs : List Input) :
    Informed id ((new options).receiveAll (List.replicate count .subscribe ++ inputs)) := by
  induction inputs using List.reverseRecOn with
  | nil =>
      rw [List.append_nil, receiveAll_subscribe]
      exact ⟨early, fun _ => ⟨rfl, rfl, rfl⟩⟩
  | append_singleton inputs input induction =>
      rw [← List.append_assoc, receiveAll_concat]
      exact informed_receive (coherent_receiveAll options _) (blank_receiveAll options _)
        induction input

/-- Whoever joins before anything else happens knows the session from what it hears, after any
inputs and for as long as it listens. -/
theorem agrees_pictured (options : SessionOptions) (count : Nat) (inputs : List Input)
    (id : ObserverId) (early : id < count)
    (listens : id ∈ ((new options).receiveAll
      (List.replicate count .subscribe ++ inputs)).observers) :
    (((new options).receiveAll (List.replicate count .subscribe ++ inputs)).pictured id).Agrees
      ((new options).receiveAll (List.replicate count .subscribe ++ inputs)).snapshot :=
  ((informed_receiveAll options early inputs).fits listens).agrees

/-- Two observers join, one leaves, and the other follows the first load. -/
theorem agrees_pictured_loads :
    1 < 2 ∧ 1 ∈ ((new sampleOptions).receiveAll
      (List.replicate 2 .subscribe ++ .unsubscribe 0 :: .reset :: loads)).observers ∧
    (((new sampleOptions).receiveAll
      (List.replicate 2 .subscribe ++ .unsubscribe 0 :: .reset :: loads)).pictured 1).Agrees
      ((new sampleOptions).receiveAll
        (List.replicate 2 .subscribe ++ .unsubscribe 0 :: .reset :: loads)).snapshot :=
  have listens : 1 ∈ ((new sampleOptions).receiveAll
      (List.replicate 2 .subscribe ++ .unsubscribe 0 :: .reset :: loads)).observers := by
    decide +kernel
  ⟨by decide, listens, agrees_pictured sampleOptions 2 _ 1 (by decide) listens⟩

end Session

end FlowClient
