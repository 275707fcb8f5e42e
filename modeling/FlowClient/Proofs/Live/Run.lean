import FlowClient.Live
import FlowClient.Proofs.Session.Run

/-! Runs of a live session. Its callers, its server and its timer may move in any order, and
it does one thing at a time. What the session inside receives are the calls that are taken,
the outcomes and the ticks, each with a step after it. -/

namespace FlowClient

/-- What a call does to the session. Some are not for it: a credential goes to the worker, and
a snapshot is only looked at. -/
def Call.inputs : Call → List Session.Input
  | .runCommand args => [.runCommand args]
  | .run id => [.run id]
  | .refresh => [.refresh]
  | .reset => [.reset]
  | .connect => [.connect]
  | .disconnect => [.disconnect]
  | .updateFilter filter => [.updateFilter filter]
  | .subscribe => [.subscribe]
  | .unsubscribe id => [.unsubscribe id]
  | .setCredential _ => []
  | .snapshot => []
  | .shutdown => [.shutdown]

namespace LiveSession

/-! ## What happens -/

/-- One thing that happens to a live session. -/
inductive Happening where
  /-- A caller makes a task, and does not hand it over yet. -/
  | make (kind : TaskKind) (args : List String) (params : Params)
  | setParam (id : TaskId) (param : Param) (value : String)
  | call (call : Call)
  /-- The last caller goes away. -/
  | leave
  /-- The request that is out comes to something. -/
  | answer (outcome : Outcome)
  | resume (now : Nat)
  | receive (now : Nat)
  | complete (now : Nat)
  | tick (now : Nat)
  | work
  | stop

/-- What comes of it. Where it cannot be, nothing happens. -/
def happen (live : LiveSession) : Happening → LiveSession
  | .make kind args params => (live.enter { kind, args, params }).1
  | .setParam id param value =>
      { live with session := live.session.receive (.setParam id param value) }
  | .call call => if live.hasCallers then ((live.call? call).map (·.1)).getD live else live
  | .leave => live.dropCallers
  | .answer outcome => live.finish outcome
  | .resume now => (live.resume? now).getD live
  | .receive now => (live.receive? now).getD live
  | .complete now => (live.complete? now).getD live
  | .tick now => (live.tick? now).getD live
  | .work => live.work?.getD live
  | .stop => live.stop?.getD live

/-- What a happening is for the session, and what it does to the mailbox. -/
structure Course where
  inputs : List Session.Input := []
  /-- The call that a caller left in the mailbox. -/
  left : List (Ticket × Call) := []
  /-- The call that the session took from it. -/
  taken : List (Ticket × Call) := []

def course (live : LiveSession) : Happening → Course
  | .make kind args params => { inputs := [.make kind args params] }
  | .setParam id param value => { inputs := [.setParam id param value] }
  | .call call =>
      if live.hasCallers then
        { left := ((live.call? call).map fun (_, ticket) => (ticket, call)).toList }
      else {}
  | .receive _ =>
      if live.phase == .waiting && live.isListening then
        match live.mailbox with
        | (ticket, call) :: _ =>
            { inputs := call.inputs ++ [.takeStep], taken := [(ticket, call)] }
        | [] => if live.hasCallers then {} else { inputs := [.shutdown, .takeStep] }
      else {}
  | .complete _ =>
      match live.phase, live.worker.completions with
      | .waiting, (_, outcome) :: _ => { inputs := [.complete outcome, .takeStep] }
      | _, _ => {}
  | .tick now =>
      match live.phase, live.timer with
      | .waiting, some timer =>
          if timer.deadline ≤ now then { inputs := [.tick, .takeStep] } else {}
      | _, _ => {}
  | _ => {}

structure Occasion where
  before : LiveSession
  happening : Happening

def Occasion.after (occasion : Occasion) : LiveSession :=
  occasion.before.happen occasion.happening

def Occasion.course (occasion : Occasion) : Course := occasion.before.course occasion.happening

def happenAll (live : LiveSession) (happenings : List Happening) : LiveSession :=
  happenings.foldl happen live

/-- All that happens in a run, in order. -/
def occasions (live : LiveSession) : List Happening → List Occasion
  | [] => []
  | happening :: happenings =>
      ⟨live, happening⟩ :: (live.happen happening).occasions happenings

@[simp] theorem happenAll_nil (live : LiveSession) : live.happenAll [] = live := rfl

@[simp] theorem happenAll_concat (live : LiveSession) (happenings : List Happening)
    (happening : Happening) : live.happenAll (happenings ++ [happening]) =
      (live.happenAll happenings).happen happening := by
  simp [happenAll]

@[simp] theorem occasions_nil (live : LiveSession) : live.occasions [] = [] := rfl

@[simp] theorem occasions_concat (live : LiveSession) (happenings : List Happening)
    (happening : Happening) : live.occasions (happenings ++ [happening]) =
      live.occasions happenings ++ [⟨live.happenAll happenings, happening⟩] := by
  induction happenings generalizing live with
  | nil => rfl
  | cons head happenings induction =>
      rw [List.cons_append, occasions, occasions, induction]
      rfl

theorem before_of_mem_occasions {live : LiveSession} {happenings : List Happening}
    {occasion : Occasion} (member : occasion ∈ live.occasions happenings) :
    ∃ earlier, occasion.before = live.happenAll earlier := by
  induction happenings using List.reverseRecOn with
  | nil => cases member
  | append_singleton happenings happening induction =>
      rw [occasions_concat] at member
      rcases List.mem_append.mp member with old | last
      · exact induction old
      · exact ⟨happenings, by rw [List.mem_singleton.mp last]⟩

/-! ## One happening -/

/-- What can happen to a live session, and when. -/
inductive Happens (live : LiveSession) : Happening → Course → LiveSession → Prop
  | nothing {happening} : Happens live happening {} live
  | makes {kind args params} : Happens live (.make kind args params)
      { inputs := [.make kind args params] }
      { live with session := live.session.receive (.make kind args params) }
  | changes {id param value} : Happens live (.setParam id param value)
      { inputs := [.setParam id param value] }
      { live with session := live.session.receive (.setParam id param value) }
  | calls {call} (goesOn : live.isEnded = false) (room : live.mailbox.length < capacity) :
      Happens live (.call call) { left := [(live.calls, call)] }
        { live with mailbox := live.mailbox ++ [(live.calls, call)], calls := live.calls + 1 }
  | leaves : Happens live .leave {} live.dropCallers
  | answers {outcome} : Happens live (.answer outcome) {} (live.finish outcome)
  | resumes {now after} (resumed : live.resume? now = some after) :
      Happens live (.resume now) {} after
  | takes {now ticket call rest} (waits : live.phase = .waiting)
      (listens : live.isListening = true) (mailbox : live.mailbox = (ticket, call) :: rest) :
      Happens live (.receive now)
        { inputs := call.inputs ++ [.takeStep], taken := [(ticket, call)] }
        (({ live with mailbox := rest }.handle ticket call).drive now)
  | closes {now} (waits : live.phase = .waiting) (listens : live.isListening = true)
      (mailbox : live.mailbox = []) (alone : live.hasCallers = false) :
      Happens live (.receive now) { inputs := [.shutdown, .takeStep] }
        ({ live with session := live.session.shutdown, isListening := false }.drive now)
  | collects {now id outcome rest} (waits : live.phase = .waiting)
      (completions : live.worker.completions = (id, outcome) :: rest) :
      Happens live (.complete now) { inputs := [.complete outcome, .takeStep] }
        ({ live with
          session := live.session.taskCompleted id outcome
          worker := { live.worker with completions := rest } }.drive now)
  | ticks {now timer} (waits : live.phase = .waiting) (started : live.timer = some timer)
      (due : timer.deadline ≤ now) :
      Happens live (.tick now) { inputs := [.tick, .takeStep] }
        ({ live with session := live.session.tick, timer := some (timer.tick now) }.drive now)
  | works {worker} (worked : live.worker.step? live.session.queue.ledger = some worker) :
      Happens live .work {} { live with worker }
  | stops (stopping : live.phase = .stopping) (gone : live.worker.running = false) :
      Happens live .stop {} { live with phase := .ended, mailbox := [] }

theorem happens_call (live : LiveSession) (call : Call) :
    live.Happens (.call call) (live.course (.call call)) (live.happen (.call call)) := by
  simp only [course, happen]
  split
  · by_cases refused : live.isEnded = true ∨ capacity ≤ live.mailbox.length
    · have none : live.call? call = none := by simp [call?, refused]
      rw [none]
      exact .nothing
    · simp only [not_or, Bool.not_eq_true, Nat.not_le] at refused
      have accepted : live.call? call = some ({ live with
          mailbox := live.mailbox ++ [(live.calls, call)]
          calls := live.calls + 1 }, live.calls) := by
        simp [call?, refused.1, refused.2]
      rw [accepted]
      exact .calls refused.1 refused.2
  · exact .nothing

theorem happens_receive (live : LiveSession) (now : Nat) :
    live.Happens (.receive now) (live.course (.receive now)) (live.happen (.receive now)) := by
  simp only [course, happen, receive?]
  split
  · rename_i takes
    simp only [Bool.and_eq_true, beq_iff_eq] at takes
    cases mailbox : live.mailbox with
    | cons first rest =>
        rcases first with ⟨ticket, call⟩
        exact .takes takes.1 takes.2 mailbox
    | nil =>
        cases callers : live.hasCallers with
        | true => exact .nothing
        | false =>
            have closes : live.Happens (.receive now) _ _ := .closes takes.1 takes.2 mailbox callers
            rw [mailbox, callers] at closes
            exact closes
  · exact .nothing

theorem happens_complete (live : LiveSession) (now : Nat) :
    live.Happens (.complete now) (live.course (.complete now)) (live.happen (.complete now)) := by
  by_cases waits : live.phase = .waiting
  · cases completions : live.worker.completions with
    | nil => simpa [course, happen, complete?, waits, completions] using .nothing
    | cons first rest =>
        have collects : live.Happens (.complete now) _ _ := .collects waits completions
        simpa [course, happen, complete?, waits, completions] using collects
  · have busy : live.complete? now = none := by simp [complete?, waits]
    have nothing : live.course (.complete now) = {} := by
      rw [course]
      split
      · rename_i waiting _
        exact absurd waiting waits
      · rfl
    rw [happen, busy, nothing]
    exact .nothing

theorem happens_tick (live : LiveSession) (now : Nat) :
    live.Happens (.tick now) (live.course (.tick now)) (live.happen (.tick now)) := by
  by_cases due : ∃ timer, live.phase = .waiting ∧ live.timer = some timer ∧ timer.deadline ≤ now
  · rcases due with ⟨timer, waits, started, due⟩
    have ticks : live.Happens (.tick now) _ _ := .ticks waits started due
    simpa [course, happen, tick?, waits, started, due] using ticks
  · have early : live.tick? now = none := by
      rw [tick?]
      split
      · rename_i timer waits started
        exact if_neg fun reached => due ⟨timer, waits, started, reached⟩
      · rfl
    have nothing : live.course (.tick now) = {} := by
      rw [course]
      split
      · rename_i timer waits started
        exact if_neg fun reached => due ⟨timer, waits, started, reached⟩
      · rfl
    rw [happen, early, nothing]
    exact .nothing

/-- Whatever happens, it is one of the things that can. -/
theorem happens (live : LiveSession) (happening : Happening) :
    live.Happens happening (live.course happening) (live.happen happening) := by
  cases happening with
  | make kind args params => exact .makes
  | setParam id param value => exact .changes
  | call call => exact live.happens_call call
  | leave => exact .leaves
  | answer outcome => exact .answers
  | resume now =>
      cases resumed : live.resume? now with
      | none => simpa [course, happen, resumed] using .nothing
      | some after => simpa [course, happen, resumed] using .resumes resumed
  | receive now => exact live.happens_receive now
  | complete now => exact live.happens_complete now
  | tick now => exact live.happens_tick now
  | work =>
      cases worked : live.worker.step? live.session.queue.ledger with
      | none => simpa [course, happen, work?, worked] using .nothing
      | some worker => simpa [course, happen, work?, worked] using .works worked
  | stop =>
      simp only [course, happen, stop?]
      split
      · rename_i ends
        simp only [Bool.and_eq_true, beq_iff_eq, Bool.not_eq_true'] at ends
        exact .stops ends.1 ends.2
      · exact .nothing

end LiveSession

end FlowClient
