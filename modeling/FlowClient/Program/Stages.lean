import FlowClient.Program

/-! How a run goes on, from the first stage to the last. -/

namespace FlowClient

namespace Program

/-! ## Doing what the user wants -/

def isSettled (snapshot : Snapshot) : Bool :=
  snapshot.queueState != .reset && snapshot.activity != .loading

def calling (program : Program) (server : String) (call : Call)
    (called : Program → Ticket → Program) : Program :=
  match program.client.registry.call server call with
  | .ok (registry, ticket) =>
      called (program.withClient { program.client with registry }) ticket
  | .error error => program.fail error

def sendCommand (program : Program) (server : String) (node : Option String)
    (tokens : List String) : Program :=
  let target := match node with
    | some path => ⟨server, path⟩
    | none => Target.ofServer server
  let registry := program.client.registry
  let named := match tokens with
    | [name] => if registry.commands.contains name then some name else none
    | _ => none
  match named with
  | some name =>
      { program with
        stage := .commanding server (registry.beginCommand [target] name true) }
  | none =>
      program.calling server (.runCommand (commandTokens tokens target)) fun program ticket =>
        { program with stage := .commanding server ⟨"", .awaiting server ticket [] []⟩ }

def fetchFile (program : Program) (server node : String) (kind : FileKind) : Program :=
  match program.client.registry.find? server with
  | none => program.fail (.serverNotFound server)
  | some live =>
      let (live, id) := live.enter (.forNode (.file kind) node)
      (program.withClient (program.client.put server live)).calling server (.run id)
        fun program _ => { program with stage := .awaiting [⟨server, live.serial, id⟩] }

def act (program : Program) (now : Nat) : Program :=
  match program.subcommand with
  | .run server node tokens => program.sendCommand server node tokens
  | .file server node kind => program.fetchFile server node kind
  | .suites server => { program with stage := .listing server (now + program.patience) }
  | _ => program.leave {}

/-- What is printed of the text of a task. A command that says nothing is not
printed. -/
def printed (program : Program) (text : String) : List String :=
  match program.subcommand with
  | .run _ _ _ => if text.isEmpty then [] else [text]
  | _ => [text]

/-- What tasks come to, if that can be told yet. They are looked at in order, up to
the first that came to nothing. -/
def endingOf (program : Program) : List SessionTask → Option Ending
  | [] => some {}
  | next :: rest => do
      let task ← program.client.registry.task? next
      match task.progress with
      | .finished result =>
          let others ← endingOf program rest
          some { others with lines := program.printed result.asText ++ others.lines }
      | .pending => none
      | .submitted => none
      | ended =>
          let reason := ended.reason?.getD ""
          some (.failed s!"{task.kind.title} task {ended.title}: {reason}")

/-! ## Going on -/

/-- Where a session that was to load the definition stands, once that is known. -/
def loaded? (program : Program) (now : Nat) (server : String) (limit : Nat) :
    Option (Except String Unit) :=
  match program.client.registry.find? server with
  | none => some (.error (ClientError.serverNotFound server).message)
  | some live =>
      let snapshot := live.session.snapshot
      if live.isEnded then some (.error (ClientError.sessionClosed server).message)
      else if isSettled snapshot then
        if snapshot.contact = .normal then some (.ok ())
        else
          let reason := snapshot.contact.reason?.getD "no connection"
          some (.error s!"server '{server}' is not reachable: {reason}")
      else if limit ≤ now then
        some (.error s!"server '{server}' did not answer within {spanText program.patience}")
      else none

/-- The list of suites, once it has come or is not waited for any longer. -/
def listed? (program : Program) (now : Nat) (server : String) (limit : Nat) :
    Option (List String) :=
  match (program.client.registry.find? server).map (·.session.filter.loaded) with
  | none => some []
  | some suites =>
      if !suites.isEmpty || program.client.filterChanged then some suites
      else if limit ≤ now then some []
      else none

def stepCommand? (program : Program) (server : String) (command : CommandRun) :
    Option Program :=
  match command.progress with
  | .done (.ok []) =>
      some (program.leave (.failed s!"server '{server}' is disconnected; command not sent"))
  | .done (.ok tasks) => some { program with stage := .awaiting tasks }
  | .done (.error error) => some (program.fail error)
  | _ =>
      (program.client.registry.stepCommand? command).map fun (registry, command) =>
        { program.withClient { program.client with registry } with
          stage := .commanding server command }

def proceed? (now : Nat) (program : Program) : Option Program :=
  match program.stage with
  | .loading server limit =>
      (program.loaded? now server limit).map fun
        | .ok () => program.act now
        | .error reason => program.leave (.failed reason)
  | .commanding server command => program.stepCommand? server command
  | .awaiting tasks => (program.endingOf tasks).map program.leave
  | .listing server limit =>
      (program.listed? now server limit).map fun lines => program.leave { lines }
  | .watching => none
  | .leaving _ => none

/-- When something happens by itself, if it does: a timer ticks, or the run waits no
longer. -/
def deadline? (program : Program) : Option Nat :=
  let tick := program.client.deadline?
  match program.stage with
  | .loading _ limit => some (min limit (tick.getD limit))
  | .listing _ limit => some (min limit (tick.getD limit))
  | _ => tick

def need (now : Nat) (program : Program) : Need :=
  match program.client.exchange? now, program.stage with
  | some (server, exchange), _ => .exchange server exchange
  | none, .leaving ending =>
      if program.client.isOver then .nothing ending else .time program.deadline?
  | none, _ => .time program.deadline?

/-- Go on as far as possible, but through no more than a given number of stages. -/
def advanceFor (now : Nat) : Nat → Program → Program
  | 0, program => program
  | stages + 1, program =>
      let program := program.withClient (program.client.settle now)
      match program.proceed? now with
      | some next => advanceFor now stages next
      | none => program

def advance (now : Nat) (program : Program) : Program × Need :=
  let program := advanceFor now settlingSteps program
  (program, program.need now)

/-! ## What happens to a run -/

def answered (program : Program) (server : String) (now : Nat)
    (answer : Except TransportError String) : Program :=
  program.withClient (program.client.answered server now answer)

def isWatching (program : Program) : Bool :=
  match program.stage with
  | .watching => true
  | _ => false

/-- The user interrupts. Whoever only watches leaves in good order. -/
def interrupted (program : Program) : Program :=
  if program.isWatching then
    (program.withClient (program.client.note ⟨.info, "shutting down sessions", []⟩)).leave {}
  else program

def takeLog (program : Program) : Program × List LogLine :=
  (program.withClient { program.client with log := [] }, program.client.log)

end Program

end FlowClient
