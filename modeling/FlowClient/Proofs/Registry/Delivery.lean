import FlowClient.Proofs.Command.Groups
import FlowClient.Proofs.Live.Attending
import FlowClient.Proofs.Registry.Commands
import Mathlib.Data.List.Forall2
import Mathlib.Data.List.ReduceOption

/-! What a command for several servers comes to when all of them attend to it. Each server that
its part is not empty for makes one task of it, and the tasks come in the order in which the
servers are named; and while the sessions are left in peace, the command gets through. -/

namespace FlowClient

/-! ## Steps that are taken and steps that are not -/

namespace Registry

variable {registry : Registry} {template server : String} {members : List Target}
  {groups : List (String × List Target)} {tasks : List SessionTask} {live : LiveSession}
  {ticket : Ticket}

theorem stepCommand?_of_empty (known : registry.find? server = some live)
    (empty : (expandTemplate template members).isEmpty = true) :
    registry.stepCommand? ⟨template, .running ((server, members) :: groups) tasks⟩ =
      some (registry, ⟨template, .running groups tasks⟩) := by
  simp only [stepCommand?, require, known, empty, if_true]

/-- A server that has no room for a call makes the command wait. -/
theorem stepCommand?_of_full (known : registry.find? server = some live)
    (nonempty : (expandTemplate template members).isEmpty = false)
    (goesOn : live.isEnded = false) (full : LiveSession.capacity ≤ live.mailbox.length) :
    registry.stepCommand? ⟨template, .running ((server, members) :: groups) tasks⟩ = none := by
  simp [stepCommand?, require, known, nonempty, goesOn, full]

theorem stepCommand?_of_answer (known : registry.find? server = some live) {id : TaskId}
    (answer : live.answer? ticket = some (.command (some id))) :
    registry.stepCommand? ⟨template, .awaiting server ticket groups tasks⟩ =
      some (registry, ⟨template, .running groups (tasks ++ [⟨server, live.serial, id⟩])⟩) := by
  simp only [stepCommand?, known, answer]

theorem stepCommand?_of_unanswered (known : registry.find? server = some live)
    (goesOn : live.isEnded = false) (unanswered : live.answer? ticket = none) :
    registry.stepCommand? ⟨template, .awaiting server ticket groups tasks⟩ = none := by
  simp [stepCommand?, known, unanswered, goesOn]

theorem find?_put_cases (name other : String) (later : LiveSession) :
    other = name ∧ (registry.put name later).find? other = some later ∨
      other ≠ name ∧ (registry.put name later).find? other = registry.find? other := by
  by_cases same : other = name
  · subst same
    exact .inl ⟨rfl, registry.find?_put other later⟩
  · exact .inr ⟨same, registry.find?_put_other later same⟩

end Registry

namespace Errand

/-! ## Parts -/

/-- The arguments that a server is sent, if there are any. -/
def parcel (template : String) (targets : List Target) (server : String) : List String :=
  expandTemplate template (targetsOf targets server)

/-- The servers that are sent something, in the order in which they are named first. -/
def recipients (template : String) (targets : List Target) : List String :=
  (serversOf targets).filter fun server => !(parcel template targets server).isEmpty

/-- The groups for which there is something to send. -/
def filled (template : String) (groups : List (String × List Target)) :
    List (String × List Target) :=
  groups.filter fun group => !(expandTemplate template group.2).isEmpty

/-- Whether nobody disturbs these servers with a move. -/
def Move.isPeaceful (limit : Nat) (servers : List String) : Move → Bool
  | .step => true
  | .happens server happening => !servers.contains server || happening.isPeaceful limit

/-! ## Tasks -/

/-- What a task has to do with the group that it was made for: it is a task of that server that
was not there when the command set out. -/
structure Deal (start present : Registry) (template : String) (group : String × List Target)
    (task : SessionTask) : Prop where
  server : task.server = group.1
  fresh : ∃ first, start.find? group.1 = some first ∧ first.serial = task.serial ∧
    first.session.queue.ledger.size ≤ task.id
  made : ∃ live, present.find? group.1 = some live ∧ live.serial = task.serial ∧
    live.session.HasCommand task.id (expandTemplate template group.2)

/-- What the progress of a command says of the tasks that it was given. -/
inductive Deals (start present : Registry) (template : String)
    (groups : List (String × List Target)) : GroupCommand → Prop
  | running {served rest tasks} (split : groups = served ++ rest)
      (dealt : List.Forall₂ (Deal start present template) (filled template served) tasks) :
      Deals start present template groups (.running rest tasks)
  | awaiting {served server members rest ticket tasks first live}
      (split : groups = served ++ (server, members) :: rest)
      (dealt : List.Forall₂ (Deal start present template) (filled template served) tasks)
      (nonempty : (expandTemplate template members).isEmpty = false)
      (before : start.find? server = some first) (now : present.find? server = some live)
      (owes : live.Owes first.session.queue.ledger.size ticket (expandTemplate template members)) :
      Deals start present template groups (.awaiting server ticket rest tasks)
  | through {tasks}
      (dealt : List.Forall₂ (Deal start present template) (filled template groups) tasks) :
      Deals start present template groups (.done (.ok tasks))

/-- That a server is there from the start, and attends to its callers. -/
def Attended (limit : Nat) (start present : Registry) (server : String) : Prop :=
  ∃ first live, start.find? server = some first ∧ present.find? server = some live ∧
    live.serial = first.serial ∧
    first.session.queue.ledger.size ≤ live.session.queue.ledger.size ∧ live.Attends limit

/-- What holds of a command on its way that nobody disturbs. -/
structure Delivering (limit : Nat) (start : Registry) (template : String) (targets : List Target)
    (errand : Errand) : Prop where
  carries : errand.run.template = template
  attended : ∀ server ∈ serversOf targets, Attended limit start errand.registry server
  deals : Deals start errand.registry template (groupByServer targets) errand.run.progress

section

variable {limit : Nat} {start present later : Registry} {template server : String}
  {groups : List (String × List Target)} {targets : List Target} {errand : Errand}

/-! ## Sessions that go on -/

/-- That the sessions of some servers go on to attend to their callers. -/
def GoOn (limit : Nat) (servers : List String) (present later : Registry) : Prop :=
  ∀ server ∈ servers, ∀ live, present.find? server = some live → live.Attends limit →
    ∃ after, later.find? server = some after ∧ live.GoesOn limit after

theorem goOn_put {live : LiveSession} {happening : LiveSession.Happening} {servers : List String}
    (known : present.find? server = some live)
    (peaceful : server ∈ servers → happening.isPeaceful limit = true) :
    GoOn limit servers present (present.put server (live.happen happening)) := by
  intro other member session found attends
  rcases present.find?_put_cases server other (live.happen happening) with
    ⟨rfl, put⟩ | ⟨-, kept⟩
  · cases known.symm.trans found
    exact ⟨_, put, LiveSession.goesOn_happens attends (peaceful member) (live.happens happening)⟩
  · exact ⟨session, kept.trans found, LiveSession.goesOn_same attends⟩

theorem Attended.goOn {servers : List String} (attended : Attended limit start present server)
    (goOn : GoOn limit servers present later) (member : server ∈ servers) :
    Attended limit start later server := by
  rcases attended with ⟨first, live, before, now, serial, known, attends⟩
  rcases goOn server member live now attends with ⟨after, found, goesOn⟩
  exact ⟨first, after, before, found, goesOn.serial.trans serial, known.trans goesOn.known,
    goesOn.attends⟩

theorem Deals.goOn {progress : GroupCommand} (deals : Deals start present template groups progress)
    (attended : ∀ group ∈ groups, Attended limit start present group.1)
    (goOn : GoOn limit (groups.map (·.1)) present later) :
    Deals start later template groups progress := by
  have next {server : String} {live : LiveSession} (member : server ∈ groups.map (·.1))
      (now : present.find? server = some live) :
      ∃ after, later.find? server = some after ∧ live.GoesOn limit after := by
    rcases List.mem_map.mp member with ⟨group, isGroup, rfl⟩
    rcases attended group isGroup with ⟨first, same, -, found, -, -, attends⟩
    cases now.symm.trans found
    exact goOn group.1 member live now attends
  have deal {served : List (String × List Target)} {tasks : List SessionTask}
      (within : ∀ group ∈ served, group ∈ groups)
      (dealt : List.Forall₂ (Deal start present template) (filled template served) tasks) :
      List.Forall₂ (Deal start later template) (filled template served) tasks := by
    have filledWithin : ∀ group ∈ filled template served, group ∈ groups :=
      fun group member => within group (List.mem_of_mem_filter member)
    have both := (List.forall₂_and_left _ _).mpr ⟨filledWithin, dealt⟩
    refine both.imp fun group task ⟨member, deal⟩ => ?_
    rcases deal.made with ⟨live, now, serial, has⟩
    rcases next (List.mem_map_of_mem member) now with ⟨after, found, goesOn⟩
    exact ⟨deal.server, deal.fresh, after, found, goesOn.serial.trans serial, goesOn.has _ _ has⟩
  cases deals with
  | running split dealt =>
      exact .running split (deal (fun group member => split ▸ List.mem_append_left _ member) dealt)
  | @awaiting served server members rest ticket tasks first live split dealt nonempty before now owes =>
      have member : server ∈ groups.map (·.1) := by simp [split]
      rcases next member now with ⟨after, found, goesOn⟩
      exact .awaiting split (deal (fun group member => split ▸ List.mem_append_left _ member) dealt)
        nonempty before found (goesOn.owes _ _ _ owes)
  | through dealt => exact .through (deal (fun _ member => member) dealt)

theorem mem_serversOf_of_group {group : String × List Target}
    (member : group ∈ groupByServer targets) : group.1 ∈ serversOf targets := by
  rw [groupByServer_eq] at member
  rcases List.mem_map.mp member with ⟨server, named, rfl⟩
  exact named

theorem mem_serversOf_of_split {served rest : List (String × List Target)} {members : List Target}
    (split : groupByServer targets = served ++ (server, members) :: rest) :
    server ∈ serversOf targets := by
  have member : (server, members) ∈ groupByServer targets := by simp [split]
  exact mem_serversOf_of_group member

theorem Delivering.goOn (holds : Delivering limit start template targets errand)
    (goOn : GoOn limit (serversOf targets) errand.registry later) (left : String → List Call) :
    Delivering limit start template targets { errand with registry := later, left } where
  carries := holds.carries
  attended server member := (holds.attended server member).goOn goOn member
  deals := by
    have attended (group : String × List Target) (member : group ∈ groupByServer targets) :
        Attended limit start errand.registry group.1 :=
      holds.attended group.1 (mem_serversOf_of_group member)
    refine holds.deals.goOn attended ?_
    intro server member
    rcases List.mem_map.mp member with ⟨group, isGroup, rfl⟩
    exact goOn group.1 (mem_serversOf_of_group isGroup)

theorem Delivering.happens (holds : Delivering limit start template targets errand)
    {happening : LiveSession.Happening}
    (peaceful : (Move.happens server happening).isPeaceful limit (serversOf targets) = true) :
    Delivering limit start template targets (errand.move (.happens server happening)) := by
  rw [move]
  split
  · rename_i live known
    refine holds.goOn (goOn_put known fun member => ?_) errand.left
    simpa [Move.isPeaceful, member] using peaceful
  · exact holds

/-! ## Steps -/

theorem filled_append (first second : List (String × List Target)) :
    filled template (first ++ second) = filled template first ++ filled template second :=
  List.filter_append ..

theorem Delivering.step (holds : Delivering limit start template targets errand) :
    Delivering limit start template targets (errand.move .step) := by
  rcases errand with ⟨registry, ⟨carried, progress⟩, left⟩
  have carries : carried = template := holds.carries
  have attended := holds.attended
  have deals := holds.deals
  subst carries
  -- what is left with the sessions does not matter here
  have stays (unmoved : registry.stepCommand? ⟨carried, progress⟩ = none) :
      Delivering limit start carried targets
        ((Errand.mk registry ⟨carried, progress⟩ left).move .step) := by
    rw [move, unmoved]
    exact holds
  have becomes {after : Registry} {reached : GroupCommand}
      (stepped : registry.stepCommand? ⟨carried, progress⟩ = some (after, ⟨carried, reached⟩))
      (attended : ∀ server ∈ serversOf targets, Attended limit start after server)
      (deals : Deals start after carried (groupByServer targets) reached) :
      Delivering limit start carried targets
        ((Errand.mk registry ⟨carried, progress⟩ left).move .step) := by
    rw [move, stepped]
    exact ⟨rfl, attended, deals⟩
  cases deals with
  | @running served rest tasks split dealt =>
      cases rest with
      | nil =>
          rw [List.append_nil] at split
          exact becomes rfl attended (.through (split ▸ dealt))
      | cons group rest =>
          rcases group with ⟨server, members⟩
          have advanced : groupByServer targets = (served ++ [(server, members)]) ++ rest := by
            simp [split]
          have member : server ∈ serversOf targets := mem_serversOf_of_split split
          rcases attended server member with ⟨first, live, before, now, -, known, attends⟩
          cases empty : (expandTemplate carried members).isEmpty with
          | true =>
              have nothing : filled carried [(server, members)] = [] := by simp [filled, empty]
              refine becomes (Registry.stepCommand?_of_empty now empty) attended ?_
              refine .running advanced ?_
              rw [filled_append, nothing, List.append_nil]
              exact dealt
          | false =>
              by_cases full : LiveSession.capacity ≤ live.mailbox.length
              · exact stays (Registry.stepCommand?_of_full now empty attends.not_ended full)
              · have taken := LiveSession.call?_of_room attends (Nat.lt_of_not_le full)
                  (expandTemplate carried members)
                let later := live.happen (.call (.runCommand (expandTemplate carried members)))
                have called : registry.call server (.runCommand (expandTemplate carried members)) =
                    .ok (registry.put server later, live.calls) := by
                  rw [Registry.call_of_known now, taken]
                have goOn : GoOn limit (serversOf targets) registry (registry.put server later) :=
                  goOn_put now fun _ => rfl
                have next := holds.goOn goOn left
                refine becomes (Registry.stepCommand?_of_call empty called) next.attended ?_
                cases next.deals with
                | running again dealt =>
                    have same : _ = served := List.append_cancel_right (again.symm.trans split)
                    have owes := LiveSession.owes_of_room attends (Nat.lt_of_not_le full)
                      (expandTemplate carried members) known
                    exact .awaiting split (same ▸ dealt) empty before (registry.find?_put _ _) owes
  | @awaiting served server members rest ticket tasks first live split dealt nonempty before now owes =>
      have advanced : groupByServer targets = (served ++ [(server, members)]) ++ rest := by
        simp [split]
      have member : server ∈ serversOf targets := mem_serversOf_of_split split
      rcases attended server member with ⟨same, again, alsoBefore, alsoNow, serial, -, attends⟩
      cases before.symm.trans alsoBefore
      cases now.symm.trans alsoNow
      cases owes with
      | waits left =>
          exact stays (Registry.stepCommand?_of_unanswered now attends.not_ended
            (attends.ticketed.answer?_of_waiting left))
      | answered id answer fresh has =>
          refine becomes (Registry.stepCommand?_of_answer now (attends.ticketed.answer? answer))
            attended ?_
          have something : filled carried [(server, members)] = [(server, members)] := by
            simp [filled, nonempty]
          refine .running advanced ?_
          rw [filled_append, something]
          refine List.rel_append dealt ?_
          exact .cons ⟨rfl, ⟨first, before, serial.symm, fresh⟩, live, now, rfl, has⟩ .nil
  | through dealt => exact stays rfl

/-! ## Runs -/

theorem Delivering.move (holds : Delivering limit start template targets errand) (move : Move)
    (peaceful : move.isPeaceful limit (serversOf targets) = true) :
    Delivering limit start template targets (errand.move move) := by
  cases move with
  | step => exact holds.step
  | happens server happening => exact holds.happens peaceful

theorem Delivering.moveAll (holds : Delivering limit start template targets errand)
    {moves : List Move} (peaceful : ∀ move ∈ moves, move.isPeaceful limit (serversOf targets) = true) :
    Delivering limit start template targets (errand.moveAll moves) := by
  induction moves generalizing errand with
  | nil => exact holds
  | cons move moves induction =>
      exact induction (holds.move move (peaceful move List.mem_cons_self)) fun later member =>
        peaceful later (List.mem_cons_of_mem _ member)

theorem delivering_start {command : String} {byName : Bool}
    (resolved : (if byName then CommandTable.resolve start.commands command else .ok command) =
      .ok template)
    (ready : ∀ server ∈ serversOf targets, ∃ live, start.find? server = some live ∧
      live.Ready limit) :
    Delivering limit start template targets (Errand.start start targets command byName) := by
  have begun : start.beginCommand targets command byName =
      ⟨template, .running (groupByServer targets) []⟩ := by
    rw [Registry.beginCommand, resolved]
  refine ⟨by rw [Errand.start, begun], fun server member => ?_, ?_⟩
  · rcases ready server member with ⟨live, known, isReady⟩
    exact ⟨live, live, known, known, rfl, Nat.le_refl _, isReady.attends⟩
  · rw [Errand.start, begun]
    exact .running (List.nil_append _).symm .nil

/-! ## Getting through -/

theorem moveAll_append (errand : Errand) (earlier more : List Move) :
    errand.moveAll (earlier ++ more) = (errand.moveAll earlier).moveAll more :=
  List.foldl_append

theorem moveAll_happens {live : LiveSession} (known : errand.registry.find? server = some live)
    (happenings : List LiveSession.Happening) :
    (errand.moveAll (happenings.map (.happens server))).run = errand.run ∧
      (errand.moveAll (happenings.map (.happens server))).registry.find? server =
        some (live.happenAll happenings) := by
  induction happenings generalizing errand live with
  | nil => exact ⟨rfl, known⟩
  | cons happening happenings induction =>
      let moved : Errand :=
        { errand with registry := errand.registry.put server (live.happen happening) }
      have move : errand.move (.happens server happening) = moved := by
        rw [Errand.move, known]
      have next : moved.registry.find? server = some (live.happen happening) :=
        errand.registry.find?_put server _
      simp only [List.map_cons, Errand.moveAll, List.foldl_cons, move]
      exact induction next

/-- That a command can come to something while nobody disturbs these servers. -/
def Reaches (limit : Nat) (servers : List String) (errand : Errand) (reached : Errand → Prop) :
    Prop :=
  ∃ moves : List Move, (∀ move ∈ moves, move.isPeaceful limit servers = true) ∧
    reached (errand.moveAll moves)

variable {servers : List String} {middle reached : Errand → Prop}

theorem reaches_now (holds : reached errand) : Reaches limit servers errand reached :=
  ⟨[], by simp, holds⟩

theorem reaches_step (holds : reached (errand.move .step)) :
    Reaches limit servers errand reached :=
  ⟨[.step], by simp [Move.isPeaceful], holds⟩

theorem Delivering.reaches (holds : Delivering limit start template targets errand)
    (first : Reaches limit (serversOf targets) errand middle)
    (next : ∀ later, Delivering limit start template targets later → middle later →
      Reaches limit (serversOf targets) later reached) :
    Reaches limit (serversOf targets) errand reached := by
  rcases first with ⟨moves, peaceful, comes⟩
  rcases next _ (holds.moveAll peaceful) comes with ⟨others, stillPeaceful, done⟩
  refine ⟨moves ++ others, List.forall_mem_append.mpr ⟨peaceful, stillPeaceful⟩, ?_⟩
  rw [moveAll_append]
  exact done

/-- A server comes to everything that waits in its mailbox, and the command stands meanwhile. -/
theorem Delivering.empties (holds : Delivering limit start template targets errand)
    (member : server ∈ serversOf targets) :
    Reaches limit (serversOf targets) errand fun later => later.run = errand.run ∧
      ∃ live, later.registry.find? server = some live ∧ live.mailbox = [] ∧ live.Attends limit := by
  rcases holds.attended server member with ⟨-, live, -, now, -, -, attends⟩
  rcases LiveSession.comesTo_emptied attends with ⟨happenings, peaceful, empty⟩
  rcases moveAll_happens now happenings with ⟨run, found⟩
  have stillAttends := LiveSession.attends_happenAll attends peaceful
  refine ⟨happenings.map (.happens server), fun move isMove => ?_, run, _, found, empty,
    stillAttends⟩
  rcases List.mem_map.mp isMove with ⟨happening, isHappening, rfl⟩
  simp [Move.isPeaceful, peaceful happening isHappening]

theorem run_step {registry : Registry} {run next : CommandRun} (stands : errand.run = run)
    (stepped : errand.registry.stepCommand? run = some (registry, next)) :
    (errand.move .step).run = next := by
  rw [Errand.move, stands, stepped]

variable {ticket : Ticket} {members : List Target} {rest : List (String × List Target)}
  {tasks : List SessionTask}

/-- A command that waits for an answer gets it. -/
theorem Delivering.answered (holds : Delivering limit start template targets errand)
    (waits : errand.run.progress = .awaiting server ticket rest tasks) :
    Reaches limit (serversOf targets) errand fun later =>
      ∃ more, later.run.progress = .running rest more := by
  have member : server ∈ serversOf targets := by
    have deals := holds.deals
    rw [waits] at deals
    cases deals with
    | awaiting split => exact mem_serversOf_of_split split
  refine holds.reaches (holds.empties member) ?_
  rintro later delivering ⟨run, live, found, empty, attends⟩
  have stands : later.run = ⟨template, .awaiting server ticket rest tasks⟩ := by
    rw [run, ← holds.carries, ← waits]
  have deals := delivering.deals
  rw [stands] at deals
  cases deals with
  | awaiting split dealt nonempty before now owes =>
      cases now.symm.trans found
      cases owes with
      | waits left =>
          rw [empty] at left
          cases left
      | answered id answer =>
          have answers := attends.ticketed.answer? answer
          refine reaches_step ⟨tasks ++ [⟨server, live.serial, id⟩], ?_⟩
          rw [run_step stands (Registry.stepCommand?_of_answer now answers)]

/-- A group whose turn has come is served. -/
theorem Delivering.serves (holds : Delivering limit start template targets errand)
    (runs : errand.run.progress = .running ((server, members) :: rest) tasks) :
    Reaches limit (serversOf targets) errand fun later =>
      ∃ more, later.run.progress = .running rest more := by
  have member : server ∈ serversOf targets := by
    have deals := holds.deals
    rw [runs] at deals
    cases deals with
    | running split => exact mem_serversOf_of_split split
  refine holds.reaches (holds.empties member) ?_
  rintro later delivering ⟨run, live, now, empty, attends⟩
  have stands : later.run = ⟨template, .running ((server, members) :: rest) tasks⟩ := by
    rw [run, ← holds.carries, ← runs]
  cases nothing : (expandTemplate template members).isEmpty with
  | true =>
      refine reaches_step ⟨tasks, ?_⟩
      rw [run_step stands (Registry.stepCommand?_of_empty now nothing)]
  | false =>
      have room : live.mailbox.length < LiveSession.capacity := by
        simp [empty, LiveSession.capacity]
      have taken := LiveSession.call?_of_room attends room (expandTemplate template members)
      have called := Registry.call_of_known now (.runCommand (expandTemplate template members))
      rw [taken] at called
      have waits : Reaches limit (serversOf targets) later fun called =>
          called.run.progress = .awaiting server live.calls rest tasks := by
        refine reaches_step ?_
        rw [run_step stands (Registry.stepCommand?_of_call nothing called)]
      exact delivering.reaches waits fun _ delivering waits => delivering.answered waits

/-- Each group that is left is served, and then the command is through. -/
theorem Delivering.finishes (holds : Delivering limit start template targets errand)
    (runs : errand.run.progress = .running rest tasks) :
    Reaches limit (serversOf targets) errand fun later =>
      ∃ result, later.run.progress = .done result := by
  induction rest generalizing errand tasks with
  | nil =>
      have stands : errand.run = ⟨template, .running [] tasks⟩ := by
        rw [← holds.carries, ← runs]
      have stepped : errand.registry.stepCommand? ⟨template, .running [] tasks⟩ =
          some (errand.registry, ⟨template, .done (.ok tasks)⟩) := rfl
      exact reaches_step ⟨.ok tasks, by rw [run_step stands stepped]⟩
  | cons group rest induction =>
      rcases group with ⟨server, members⟩
      refine holds.reaches (holds.serves runs) ?_
      rintro later delivering ⟨more, runs⟩
      exact induction delivering runs

/-- A command that nobody disturbs gets through, wherever it stands. -/
theorem Delivering.completes (holds : Delivering limit start template targets errand) :
    Reaches limit (serversOf targets) errand fun later =>
      ∃ result, later.run.progress = .done result := by
  have deals := holds.deals
  generalize progress : errand.run.progress = reached at deals
  cases deals with
  | running => exact holds.finishes progress
  | awaiting =>
      refine holds.reaches (holds.answered progress) ?_
      rintro later delivering ⟨more, runs⟩
      exact delivering.finishes runs
  | through => exact reaches_now ⟨_, progress⟩

/-! ## What was delivered -/

theorem filled_groupByServer (template : String) (targets : List Target) :
    (filled template (groupByServer targets)).map (·.1) = recipients template targets := by
  have names : Prod.fst ∘ (fun server => (server, targetsOf targets server)) = id := rfl
  rw [groupByServer_eq, filled, List.filter_map, List.map_map, names, List.map_id]
  simp only [recipients, parcel, Function.comp_def]

theorem calls_map {servers : List String} (distinct : servers.Nodup)
    (members : String → List Target) (server : String) :
    calls template (servers.map fun server => (server, members server)) server =
      if server ∈ servers ∧ (expandTemplate template (members server)).isEmpty = false then
        [.runCommand (expandTemplate template (members server))]
      else [] := by
  induction servers with
  | nil => simp
  | cons head servers induction =>
      rcases List.nodup_cons.mp distinct with ⟨absent, distinct⟩
      have first := calls_append template [(head, members head)]
        (servers.map fun server => (server, members server)) server
      rw [List.map_cons, ← List.singleton_append, first, induction distinct]
      by_cases same : head = server
      · subst same
        cases empty : (expandTemplate template (members head)).isEmpty <;>
          simp [calls, part?, empty, absent]
      · cases empty : (expandTemplate template (members head)).isEmpty <;>
          simp [calls, part?, empty, same, Ne.symm same]

theorem calls_groupByServer (template : String) (targets : List Target) (server : String) :
    calls template (groupByServer targets) server =
      if server ∈ recipients template targets then [.runCommand (parcel template targets server)]
      else [] := by
  have distinct : (serversOf targets).Nodup := nodup_eraseDups _
  rw [groupByServer_eq, calls_map distinct]
  simp only [recipients, List.mem_filter, Bool.not_eq_true', parcel]

theorem task?_of_find? {registry : Registry} {task : SessionTask} {live : LiveSession}
    (known : registry.find? task.server = some live) (serial : live.serial = task.serial) :
    registry.task? task = live.session.queue.task? task.id := by
  have found : registry.sessions.get? task.server = some live := known
  simp [Registry.task?, found, List.reduceOption_cons_of_some, serial]

theorem exists_of_mem_forall₂ {α β : Type} {relates : α → β → Prop} {first : List α}
    {second : List β} (related : List.Forall₂ relates first second) {right : β}
    (member : right ∈ second) : ∃ left ∈ first, relates left right := by
  induction related with
  | nil => cases member
  | cons here there induction =>
      rcases List.mem_cons.mp member with rfl | later
      · exact ⟨_, List.mem_cons_self, here⟩
      · rcases induction later with ⟨left, isLeft, holds⟩
        exact ⟨left, List.mem_cons_of_mem _ isLeft, holds⟩

/-- What the tasks are that a command has come to. -/
structure Delivered (start : Registry) (template : String) (targets : List Target)
    (errand : Errand) (tasks : List SessionTask) : Prop where
  /-- One for each server that there is something for, in the order in which these are named. -/
  servers : tasks.map SessionTask.server = recipients template targets
  /-- Each is the command for the targets of its server, as they stand in the list. -/
  made : ∀ task ∈ tasks, ∃ made, errand.registry.task? task = some made ∧
    made.kind = .command ∧ made.args = parcel template targets task.server
  fresh : ∀ task ∈ tasks, start.task? task = none
  /-- Each of these servers was left one call, and no other server was left any. -/
  left : ∀ server, errand.left server =
    if server ∈ recipients template targets then [.runCommand (parcel template targets server)]
    else []

theorem servers_of_dealt {tasks : List SessionTask}
    (dealt : List.Forall₂ (Deal start present template) groups tasks) :
    tasks.map SessionTask.server = groups.map (·.1) := by
  induction dealt with
  | nil => rfl
  | cons here there induction => rw [List.map_cons, List.map_cons, here.server, induction]

theorem Deals.delivered {tasks : List SessionTask}
    (deals : Deals start errand.registry template (groupByServer targets) (.done (.ok tasks)))
    (left : ∀ server, errand.left server = calls template (groupByServer targets) server) :
    Delivered start template targets errand tasks := by
  cases deals with
  | through dealt =>
      refine ⟨?_, fun task member => ?_, fun task member => ?_, fun server => ?_⟩
      · exact (servers_of_dealt dealt).trans (filled_groupByServer template targets)
      · rcases exists_of_mem_forall₂ dealt member with ⟨group, isGroup, deal⟩
        rcases deal.made with ⟨live, now, serial, has⟩
        rcases has.task with ⟨made, known, kind, args⟩
        have parcels : expandTemplate template group.2 = parcel template targets group.1 := by
          have isGroup := List.mem_of_mem_filter isGroup
          rw [groupByServer_eq] at isGroup
          rcases List.mem_map.mp isGroup with ⟨server, -, rfl⟩
          rfl
        rw [← deal.server] at now parcels
        exact ⟨made, (task?_of_find? now serial).trans known, kind, args.trans parcels⟩
      · rcases exists_of_mem_forall₂ dealt member with ⟨group, -, deal⟩
        rcases deal.fresh with ⟨first, before, serial, unknown⟩
        rw [← deal.server] at before
        rw [task?_of_find? before serial]
        exact List.getElem?_eq_none unknown
      · rw [left, calls_groupByServer]

/-- How a command for several servers is delivered while nobody disturbs these. -/
structure Delivers (limit : Nat) (start : Registry) (template : String) (targets : List Target)
    (errand : Errand) : Prop where
  grouped : groupByServer targets =
    (serversOf targets).map fun server => (server, targetsOf targets server)
  /-- Whatever it comes to is what it should come to. -/
  delivered : ∀ result, errand.run.progress = .done result →
    ∃ tasks, result = .ok tasks ∧ Delivered start template targets errand tasks
  /-- And it does come to something, if it has not yet. -/
  completes : ∃ moves : List Move,
    (∀ move ∈ moves, move.isPeaceful limit (serversOf targets) = true) ∧
      ∃ result, (errand.moveAll moves).run.progress = .done result

end

theorem delivers_moveAll {limit : Nat} {registry : Registry} {template command : String}
    {byName : Bool} {targets : List Target} {moves : List Move}
    (resolved : (if byName then CommandTable.resolve registry.commands command else .ok command) =
      .ok template)
    (ready : ∀ server ∈ serversOf targets, ∃ live, registry.find? server = some live ∧
      live.Ready limit)
    (peaceful : ∀ move ∈ moves, move.isPeaceful limit (serversOf targets) = true) :
    Delivers limit registry template targets
      ((Errand.start registry targets command byName).moveAll moves) := by
  have holds := (delivering_start resolved ready).moveAll peaceful
  have settled := settled_moveAll registry targets command byName moves
  have carries : (registry.beginCommand targets command byName).template = template := by
    rw [Registry.beginCommand, resolved]
  rw [carries] at settled
  refine ⟨groupByServer_eq targets, fun result done => ?_, holds.completes⟩
  have deals := holds.deals
  rw [done] at deals
  cases deals with
  | @through tasks dealt =>
      exact ⟨tasks, rfl, Deals.delivered (.through dealt) (settled.through tasks done).2⟩

/-! ## A sample -/

def sampleSession (name : String) (serial : Nat) : LiveSession :=
  { LiveSession.start { name, host := "localhost", port := "3141" } 0 with serial }

/-- A registry that knows two servers, and one command. -/
def pairedRegistry : Registry :=
  { (({} : Registry).put "alpha" (sampleSession "alpha" 0)).put "beta" (sampleSession "beta" 1) with
    commands := .ofList [("begin", "begin <full_name>")] }

def alternatingTargets : List Target := [⟨"beta", "/s1"⟩, ⟨"alpha", "/s2"⟩, ⟨"beta", "/s3"⟩]

theorem ready_sampleSession (name : String) (serial : Nat) :
    (sampleSession name serial).Ready 1000 where
  lived := .starts _ 0 serial
  active := by
    have contact : (sampleSession name serial).session.contact = .lost none := rfl
    exact ⟨by simp [contact], rfl⟩
  unbroken := by
    have phase : (sampleSession name serial).phase = .waiting := rfl
    simp [phase]
  hasCallers := rfl
  undisturbed := by
    have mailbox : (sampleSession name serial).mailbox = [] := rfl
    simp [mailbox]
  punctual := by
    have interval : (sampleSession name serial).session.options.refreshInterval = some 60000 := rfl
    intro period same
    cases interval.symm.trans same
    decide

/-- Both servers come to their call as soon as it is there. -/
def meetsBoth : List Move :=
  [.step, .happens "beta" (.receive 0), .step, .step, .happens "alpha" (.receive 0), .step, .step]

/-- The targets of two servers alternate, and each server is sent its own. -/
theorem delivers_meetsBoth :
    ((Errand.start pairedRegistry alternatingTargets "begin" true).moveAll meetsBoth).run.progress =
        .done (.ok [⟨"beta", 1, 1⟩, ⟨"alpha", 0, 1⟩]) ∧
      Delivers 1000 pairedRegistry "begin <full_name>" alternatingTargets
        ((Errand.start pairedRegistry alternatingTargets "begin" true).moveAll meetsBoth) := by
  refine ⟨by rfl, delivers_moveAll (by rfl) ?_ (by decide)⟩
  intro server member
  have named : server = "beta" ∨ server = "alpha" := by
    have servers : serversOf alternatingTargets = ["beta", "alpha"] := by decide
    simpa [servers] using member
  rcases named with rfl | rfl
  · exact ⟨sampleSession "beta" 1, rfl, ready_sampleSession "beta" 1⟩
  · exact ⟨sampleSession "alpha" 0, rfl, ready_sampleSession "alpha" 0⟩

end Errand

end FlowClient
