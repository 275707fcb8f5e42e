import FlowClient.Registry
import FlowClient.Proofs.Live.Run

/-! What a command for several servers leaves in their mailboxes. Its groups are served in
order, and one whose server is not known ends it. The groups before that have been served
by then: their servers carry the command out, and nobody is given the tasks. -/

namespace FlowClient

/-! ## Mailboxes -/

namespace Registry

def mailbox (registry : Registry) (name : String) : List (Ticket × Call) :=
  ((registry.find? name).map (·.mailbox)).getD []

/-- The calls that came into the mailbox of a server. -/
def arrived (before after : Registry) (name : String) : List Call :=
  ((after.mailbox name).drop (before.mailbox name).length).map (·.2)

variable (registry : Registry) {name other : String} {live later : LiveSession}

@[simp] theorem arrived_same (name : String) : registry.arrived registry name = [] := by
  simp [arrived]

@[simp] theorem find?_put (name : String) (live : LiveSession) :
    (registry.put name live).find? name = some live :=
  registry.sessions.get?_insert_same name live

theorem find?_put_other (live : LiveSession) (different : other ≠ name) :
    (registry.put name live).find? other = registry.find? other :=
  registry.sessions.get?_insert_other live different

/-- A session that goes on keeps its name. -/
theorem isSome_find?_put (known : registry.find? name = some live) (other : String) :
    ((registry.put name later).find? other).isSome = (registry.find? other).isSome := by
  by_cases same : other = name
  · subst same
    simp [known]
  · rw [registry.find?_put_other later same]

theorem arrived_put {call : Call} {ticket : Ticket} (known : registry.find? name = some live)
    (called : live.call? call = some (later, ticket)) (other : String) :
    registry.arrived (registry.put name later) other = if name = other then [call] else [] := by
  by_cases same : name = other
  · subst same
    rw [LiveSession.call?] at called
    split at called
    · cases called
    · rcases Option.some.inj called with ⟨rfl, rfl⟩
      simp [arrived, mailbox, known]
  · simp [arrived, mailbox, registry.find?_put_other later (Ne.symm same), same]

end Registry

/-! ## Steps -/

/-- What one step of a command can come to. -/
inductive CommandStep (registry : Registry) (template : String) :
    GroupCommand → Registry → GroupCommand → Prop
  | finishes {tasks} : CommandStep registry template (.running [] tasks) registry (.done (.ok tasks))
  | refuses {server members groups tasks} (unknown : registry.find? server = none) :
      CommandStep registry template (.running ((server, members) :: groups) tasks) registry
        (.done (.error (.serverNotFound server)))
  | passes {server members groups tasks live} (known : registry.find? server = some live)
      (empty : (expandTemplate template members).isEmpty = true) :
      CommandStep registry template (.running ((server, members) :: groups) tasks) registry
        (.running groups tasks)
  | leaves {server members groups tasks live later ticket}
      (known : registry.find? server = some live)
      (nonempty : (expandTemplate template members).isEmpty = false)
      (called : live.call? (.runCommand (expandTemplate template members)) = some (later, ticket)) :
      CommandStep registry template (.running ((server, members) :: groups) tasks)
        (registry.put server later) (.awaiting server ticket groups tasks)
  | goesOn {server ticket groups tasks more} :
      CommandStep registry template (.awaiting server ticket groups tasks) registry
        (.running groups more)
  | closes {progress server} :
      CommandStep registry template progress registry (.done (.error (.sessionClosed server)))

namespace Registry

theorem call_of_known {registry : Registry} {name : String} {live : LiveSession}
    (known : registry.find? name = some live) (call : Call) : registry.call name call =
      match live.call? call with
      | some (live, ticket) => .ok (registry.put name live, ticket)
      | none => .error (.sessionClosed name) := by
  simp only [Registry.call, require, known]
  rfl

theorem known_of_call {registry after : Registry} {name : String} {call : Call} {ticket : Ticket}
    (called : registry.call name call = .ok (after, ticket)) :
    ∃ live later, registry.find? name = some live ∧ live.call? call = some (later, ticket) ∧
      after = registry.put name later := by
  cases known : registry.find? name with
  | none =>
      simp only [Registry.call, require, known] at called
      cases called
  | some live =>
      rw [call_of_known known] at called
      cases left : live.call? call with
      | none =>
          rw [left] at called
          cases called
      | some later =>
          rw [left] at called
          cases called
          exact ⟨live, later.1, rfl, left, rfl⟩

/-- A group whose server takes the call waits for the answer. -/
theorem stepCommand?_of_call {registry after : Registry} {template server : String}
    {members : List Target} {groups : List (String × List Target)} {tasks : List SessionTask}
    {ticket : Ticket} (nonempty : (expandTemplate template members).isEmpty = false)
    (called : registry.call server (.runCommand (expandTemplate template members)) =
      .ok (after, ticket)) :
    registry.stepCommand? ⟨template, .running ((server, members) :: groups) tasks⟩ =
      some (after, ⟨template, .awaiting server ticket groups tasks⟩) := by
  rcases known_of_call called with ⟨live, later, known, taken, rfl⟩
  have room : (!live.isEnded && decide (LiveSession.capacity ≤ live.mailbox.length)) = false := by
    rw [LiveSession.call?] at taken
    split at taken
    · cases taken
    · rename_i open_
      cases ended : live.isEnded with
      | true => simp [ended] at open_
      | false => simpa [ended] using open_
  simp only [stepCommand?, require, known, nonempty, room, called, Bool.false_eq_true, if_false]

theorem commandStep_of_stepCommand? {registry after : Registry} {run next : CommandRun}
    (stepped : registry.stepCommand? run = some (after, next)) :
    next.template = run.template ∧
      CommandStep registry run.template run.progress after next.progress := by
  rcases run with ⟨template, progress⟩
  cases progress with
  | done result => cases stepped
  | running groups tasks =>
      cases groups with
      | nil =>
          cases stepped
          exact ⟨rfl, .finishes⟩
      | cons group groups =>
          rcases group with ⟨server, members⟩
          cases known : registry.find? server with
          | none =>
              simp only [stepCommand?, require, known] at stepped
              cases stepped
              exact ⟨rfl, .refuses known⟩
          | some live =>
              simp only [stepCommand?, require, known, call_of_known known] at stepped
              by_cases empty : (expandTemplate template members).isEmpty = true
              · rw [if_pos empty] at stepped
                cases stepped
                exact ⟨rfl, .passes known empty⟩
              · rw [if_neg empty] at stepped
                by_cases full : (!live.isEnded &&
                    decide (LiveSession.capacity ≤ live.mailbox.length)) = true
                · rw [if_pos full] at stepped
                  cases stepped
                · rw [if_neg full] at stepped
                  cases called : live.call? (.runCommand (expandTemplate template members)) with
                  | none =>
                      rw [called] at stepped
                      cases stepped
                      exact ⟨rfl, .closes⟩
                  | some left =>
                      rw [called] at stepped
                      cases stepped
                      exact ⟨rfl, .leaves known (by simpa using empty) called⟩
  | awaiting server ticket groups tasks =>
      simp only [stepCommand?] at stepped
      split at stepped
      · cases stepped
        exact ⟨rfl, .closes⟩
      · split at stepped
        · cases stepped
          exact ⟨rfl, .goesOn⟩
        · cases stepped
          exact ⟨rfl, .goesOn⟩
        · split at stepped
          · cases stepped
            exact ⟨rfl, .closes⟩
          · cases stepped

end Registry

/-! ## Errands -/

/-- A command on its way, the sessions it goes to, and the calls that it has left with each. -/
structure Errand where
  registry : Registry
  run : CommandRun
  left : String → List Call := fun _ => []

namespace Errand

inductive Move where
  /-- The command goes one step further. -/
  | step
  /-- Something happens to one of the sessions meanwhile. -/
  | happens (server : String) (happening : LiveSession.Happening)

def start (registry : Registry) (targets : List Target) (command : String) (byName : Bool) :
    Errand :=
  { registry, run := registry.beginCommand targets command byName }

def move (errand : Errand) : Move → Errand
  | .step =>
      match errand.registry.stepCommand? errand.run with
      | some (registry, run) =>
          { registry, run
            left := fun name => errand.left name ++ errand.registry.arrived registry name }
      | none => errand
  | .happens server happening =>
      match errand.registry.find? server with
      | some live => { errand with registry := errand.registry.put server (live.happen happening) }
      | none => errand

def moveAll (errand : Errand) (moves : List Move) : Errand := moves.foldl move errand

@[simp] theorem moveAll_concat (errand : Errand) (moves : List Move) (last : Move) :
    errand.moveAll (moves ++ [last]) = (errand.moveAll moves).move last := by
  simp [moveAll]

/-! ## How far a command has come -/

/-- The call that a group comes to, unless it comes to nothing. -/
def part? (template : String) (group : String × List Target) : Option (String × Call) :=
  let args := expandTemplate template group.2
  if args.isEmpty then none else some (group.1, .runCommand args)

/-- The calls that these groups come to for one server. -/
def calls (template : String) (groups : List (String × List Target)) (server : String) :
    List Call :=
  ((groups.filterMap (part? template)).filter (·.1 = server)).map (·.2)

@[simp] theorem calls_nil (template server : String) : calls template [] server = [] := rfl

theorem calls_append (template : String) (first second : List (String × List Target))
    (server : String) : calls template (first ++ second) server =
      calls template first server ++ calls template second server := by
  simp [calls]

/-- What the progress of a command says of the groups that were served. -/
inductive Stands (known : String → Prop) (groups : List (String × List Target)) :
    List (String × List Target) → GroupCommand → Prop
  | running {served rest tasks} (split : groups = served ++ rest) :
      Stands known groups served (.running rest tasks)
  | awaiting {served rest server ticket tasks} (split : groups = served ++ rest) :
      Stands known groups served (.awaiting server ticket rest tasks)
  | through {tasks} : Stands known groups groups (.done (.ok tasks))
  | unknownCommand {name} : Stands known groups [] (.done (.error (.commandNotFound name)))
  | unknownServer {served server members rest} (split : groups = served ++ (server, members) :: rest)
      (unknown : ¬ known server) :
      Stands known groups served (.done (.error (.serverNotFound server)))
  | closed {served server} : Stands known groups served (.done (.error (.sessionClosed server)))

/-- What holds of a command on its way, once these groups were served. -/
structure Served (start : Registry) (template : String) (groups : List (String × List Target))
    (errand : Errand) (served : List (String × List Target)) : Prop where
  stands : Stands (fun server => (start.find? server).isSome = true) groups served
    errand.run.progress
  carries : errand.run.template = template
  left : ∀ server, errand.left server = calls template served server
  known : ∀ group ∈ served, (start.find? group.1).isSome = true
  names : ∀ server, (errand.registry.find? server).isSome = (start.find? server).isSome

theorem served_start (registry : Registry) (targets : List Target) (command : String)
    (byName : Bool) : ∃ served,
      Served registry (registry.beginCommand targets command byName).template
        (groupByServer targets) (start registry targets command byName) served := by
  refine ⟨[], ?_, rfl, fun _ => rfl, by simp, fun _ => rfl⟩
  simp only [start, Registry.beginCommand]
  split
  · exact .running rfl
  · rename_i error unresolved
    cases byName with
    | false => cases unresolved
    | true =>
        simp only [if_true, CommandTable.resolve] at unresolved
        split at unresolved
        · cases unresolved
        · rw [← Except.error.inj unresolved]
          exact .unknownCommand

variable {start : Registry} {template : String} {groups served : List (String × List Target)}
  {errand : Errand}

/-- The sessions go on, and the command stands where it stood. -/
theorem Served.happens (holds : Served start template groups errand served) (server : String)
    (happening : LiveSession.Happening) :
    Served start template groups (errand.move (.happens server happening)) served := by
  rw [move]
  split
  · rename_i live known
    refine ⟨holds.stands, holds.carries, holds.left, holds.known, fun other => ?_⟩
    exact (errand.registry.isSome_find?_put known other).trans (holds.names other)
  · exact holds

/-- A step that serves some groups more. -/
theorem Served.more (holds : Served start template groups errand served)
    {more : List (String × List Target)} {registry : Registry} {run : CommandRun}
    (carries : run.template = template)
    (stands : Stands (fun server => (start.find? server).isSome = true) groups (served ++ more)
      run.progress)
    (arrived : ∀ server, errand.registry.arrived registry server = calls template more server)
    (known : ∀ group ∈ more, (errand.registry.find? group.1).isSome = true)
    (names : ∀ server, (registry.find? server).isSome = (errand.registry.find? server).isSome) :
    Served start template groups
      { registry, run
        left := fun name => errand.left name ++ errand.registry.arrived registry name }
      (served ++ more) where
  stands := stands
  carries := carries
  left := fun server => by simp only [holds.left, arrived, calls_append]
  known := by
    intro group member
    rcases List.mem_append.mp member with old | new
    · exact holds.known group old
    · exact (holds.names group.1).symm.trans (known group new)
  names := fun server => (names server).trans (holds.names server)

theorem Served.step (holds : Served start template groups errand served) :
    ∃ more, Served start template groups (errand.move .step) (served ++ more) := by
  rw [move]
  split
  · rename_i registry run stepped
    rcases Registry.commandStep_of_stepCommand? stepped with ⟨carries, step⟩
    have stands := holds.stands
    rw [holds.carries] at carries step
    generalize errand.run.progress = before at stands step
    generalize reached : run.progress = after at step
    cases step with
    | finishes =>
        cases stands with
        | running split =>
            refine ⟨[], holds.more carries ?_ (by simp) (by simp) (fun _ => rfl)⟩
            rw [reached, split]
            exact .through
    | refuses unknown =>
        cases stands with
        | running split =>
            refine ⟨[], holds.more carries ?_ (by simp) (by simp) (fun _ => rfl)⟩
            rw [reached, List.append_nil]
            refine .unknownServer split fun known => ?_
            rw [← holds.names, unknown] at known
            cases known
    | @passes server members _ _ _ known empty =>
        cases stands with
        | running split =>
            refine ⟨[(server, members)], holds.more carries ?_ ?_ (by simp [known]) (fun _ => rfl)⟩
            · rw [reached]
              exact .running (by simpa using split)
            · simp [calls, part?, empty]
    | @leaves server members _ _ _ _ _ known nonempty called =>
        cases stands with
        | running split =>
            refine ⟨[(server, members)], holds.more carries ?_ ?_ (by simp [known]) ?_⟩
            · rw [reached]
              exact .awaiting (by simpa using split)
            · intro other
              rw [errand.registry.arrived_put known called]
              by_cases same : server = other <;> simp [calls, part?, nonempty, same]
            · exact errand.registry.isSome_find?_put known
    | goesOn =>
        cases stands with
        | awaiting split =>
            refine ⟨[], holds.more carries ?_ (by simp) (by simp) (fun _ => rfl)⟩
            rw [reached, List.append_nil]
            exact .running split
    | closes =>
        refine ⟨[], holds.more carries ?_ (by simp) (by simp) (fun _ => rfl)⟩
        rw [reached]
        exact .closed
  · exact ⟨[], by simpa using holds⟩

theorem served_moveAll (registry : Registry) (targets : List Target) (command : String)
    (byName : Bool) (moves : List Move) : ∃ served,
      Served registry (registry.beginCommand targets command byName).template
        (groupByServer targets) ((Errand.start registry targets command byName).moveAll moves)
        served := by
  induction moves using List.reverseRecOn with
  | nil => exact served_start registry targets command byName
  | append_singleton moves last induction =>
      rcases induction with ⟨served, holds⟩
      rw [moveAll_concat]
      cases last with
      | step => exact holds.step.imp' (served ++ ·) fun _ further => further
      | happens server happening => exact ⟨served, holds.happens server happening⟩

/-! ## What a command leaves behind -/

/-- What a command has left with the sessions by the time it is done. -/
structure Settled (start : Registry) (template : String) (groups : List (String × List Target))
    (errand : Errand) : Prop where
  /-- Every server has got its part. -/
  through : ∀ tasks, errand.run.progress = .done (.ok tasks) →
    (∀ group ∈ groups, (start.find? group.1).isSome = true) ∧
      ∀ server, errand.left server = calls template groups server
  /-- A command that has no template goes to nobody. -/
  unknownCommand : ∀ name, errand.run.progress = .done (.error (.commandNotFound name)) →
    ∀ server, errand.left server = []
  /-- A server that is not known ends it where its turn comes. -/
  unknownServer : ∀ name, errand.run.progress = .done (.error (.serverNotFound name)) →
    ∃ earlier members later, groups = earlier ++ (name, members) :: later ∧
      start.find? name = none ∧ (∀ group ∈ earlier, (start.find? group.1).isSome = true) ∧
      ∀ server, errand.left server = calls template earlier server

theorem settled_moveAll (registry : Registry) (targets : List Target) (command : String)
    (byName : Bool) (moves : List Move) :
    Settled registry (registry.beginCommand targets command byName).template
      (groupByServer targets) ((Errand.start registry targets command byName).moveAll moves) := by
  rcases served_moveAll registry targets command byName moves with ⟨served, holds⟩
  have stands := holds.stands
  refine ⟨?_, ?_, ?_⟩
  · intro tasks done
    rw [done] at stands
    cases stands with
    | through => exact ⟨holds.known, holds.left⟩
  · intro name done
    rw [done] at stands
    cases stands with
    | unknownCommand => exact holds.left
  · intro name done
    rw [done] at stands
    cases stands with
    | @unknownServer _ _ members rest split unknown =>
        exact ⟨served, members, rest, split, by simpa using unknown, holds.known, holds.left⟩

/-- A registry that knows one server, and one command. -/
def sampleRegistry : Registry :=
  { ({} : Registry).put "alpha" (.start { name := "alpha", host := "localhost", port := "3141" } 0) with
    commands := .ofList [("begin", "begin <full_name>")] }

def twoTargets : List Target := [⟨"alpha", "/s1"⟩, ⟨"gamma", "/s1"⟩]

/-- A server that is known gets its part, though the next one is not known. -/
def meetsUnknown : List Move :=
  [.step, .happens "alpha" (.receive 0), .step, .step]

theorem left_of_meetsUnknown :
    ((Errand.start sampleRegistry twoTargets "begin" true).moveAll meetsUnknown).run.progress =
        .done (.error (.serverNotFound "gamma")) ∧
      ((Errand.start sampleRegistry twoTargets "begin" true).moveAll meetsUnknown).left "alpha" =
        [.runCommand ["begin", "/s1"]] :=
  ⟨by rfl, by decide +kernel⟩

end Errand

end FlowClient
