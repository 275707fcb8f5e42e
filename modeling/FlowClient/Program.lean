import FlowClient.Client
import FlowClient.CommandLine
import FlowClient.Config.Document

/-! One run of the program, and how it begins. A run is a value that goes on by
itself as far as it can and then says what it needs: a line exchanged with a
server, or time to pass. -/

namespace FlowClient

/-! ## Runs -/

/-- What a run prints in the end, and why it failed if it did. -/
structure Ending where
  lines : List String := []
  failure : Option String := none
deriving DecidableEq, Repr

def Ending.failed (reason : String) : Ending := { failure := some reason }

def Ending.exitCode (ending : Ending) : UInt32 := if ending.failure.isSome then 1 else 0

def Ending.complaint (ending : Ending) : Option String :=
  ending.failure.map fun reason => s!"suitelink error: {reason}\n"

/-- What a run is about. -/
inductive Stage where
  /-- A session loads the definition, and has to be through with it by some time. -/
  | loading (server : String) (limit : Nat)
  /-- A command is on its way to the session. -/
  | commanding (server : String) (command : CommandRun)
  | awaiting (tasks : List SessionTask)
  /-- The list of suites has not come yet, and is waited for until some time. -/
  | listing (server : String) (limit : Nat)
  | watching
  | leaving (ending : Ending)

structure Program where
  subcommand : Subcommand
  /-- How long a server may take before it is given up. -/
  patience : Nat := 0
  client : Client := {}
  stage : Stage := .leaving {}

inductive Need where
  /-- A line has to go to the server of a session, and its answer has to come back. -/
  | exchange (server : String) (exchange : Exchange)
  /-- Time has to pass: up to some time, or until the user interrupts. -/
  | time (limit : Option Nat)
  | nothing (ending : Ending)

namespace Program

def withClient (program : Program) (client : Client) : Program := { program with client }

/-- Shut down all sessions, and then end. A departure that fails is what the run
ends with. -/
def leave (program : Program) (ending : Ending) : Program :=
  let (registry, departed) := program.client.registry.shutdownAll
  let client := { program.client with registry }
  match departed with
  | .ok () => { program with client, stage := .leaving ending }
  | .error error =>
      { program with
        client := client.note ⟨.warn, "session ended with error", [("error", error.message)]⟩
        stage := .leaving (.failed error.explanation) }

def fail (program : Program) (error : ClientError) : Program :=
  program.leave (.failed error.explanation)

/-! ## Looking at the configuration -/

def serverLine (server : ServerSettings) : String :=
  let suites :=
    if server.filter.enabled then
      " suites=\x7b" ++
        String.intercalate ", " (server.filter.suites.names.map Text.quoted) ++ "\x7d"
    else ""
  s!"  {server.name} {server.host}@{server.port}" ++
    (if server.ssl then " ssl" else "") ++ suites

def checkLines (config : Config) : List String :=
  "servers:" :: config.servers.entries.map (fun entry => serverLine entry.2) ++
    if config.commands.isEmpty then []
    else "commands:" ::
      config.commands.entries.map fun (name, template) => s!"  {name} = {template}"

/-! ## Beginning -/

/-- How long a server may take to load the definition. -/
def patienceOf (client : ClientSettings) : Nat :=
  max (min (client.timeout * 2) (UInt64.size - 1)) 1 * 1000

def addServers (settings : ClientSettings) (now : Nat) :
    List ServerSettings → Client → Except ClientError Client
  | [], client => .ok client
  | server :: rest, client => do
      addServers settings now rest (← client.addServer server settings now)

def observe (client : Client) (name : String) : Client :=
  match client.registry.call name .subscribe with
  | .ok (registry, _) => { client with registry }
  | .error _ => client

/-- Begin with the sessions with some servers. -/
def beginWith (program : Program) (config : Config) (now : Nat)
    (servers : List ServerSettings) (stage : Stage) : Program :=
  match addServers config.client now servers program.client with
  | .ok client => { program with client, stage }
  | .error error => program.fail error

def beginWithOne (program : Program) (config : Config) (now : Nat) (server : String)
    (stage : Stage) : Program :=
  match config.servers.get? server with
  | some settings => program.beginWith config now [settings] stage
  | none => program.fail (.serverNotFound server)

def watch (program : Program) : Program :=
  match program.stage with
  | .watching =>
      let client := program.client
      let names := client.registry.names
      program.withClient ((names.foldl observe client).note
        ⟨.info, "watching; press Ctrl-C to stop", [("servers", Text.quotedList names)]⟩)
  | _ => program

def begin (subcommand : Subcommand) (config : Config) (now : Nat) : Program :=
  let patience := patienceOf config.client
  let program : Program :=
    { subcommand, patience, client := { registry := { commands := config.commands } } }
  let load (server : String) : Program :=
    program.beginWithOne config now server (.loading server (now + patience))
  match subcommand with
  | .check => program.leave { lines := checkLines config }
  | .run server _ _ => load server
  | .suites server => load server
  | .file server _ _ => load server
  | .watch (some server) => (program.beginWithOne config now server .watching).watch
  | .watch none =>
      (program.beginWith config now (config.servers.entries.map (·.2)) .watching).watch

/-- Start a run, given what reading the configuration brought. -/
def start (arguments : Arguments) (contents : Except FileProblem ByteArray) (now : Nat) :
    Program :=
  match Config.ofFile contents with
  | .ok config => begin arguments.subcommand config now
  | .error error =>
      { subcommand := arguments.subcommand
        stage := .leaving (.failed
          (Text.withCauses s!"loading config {arguments.config}"
            (error.message :: error.causes))) }

end Program

end FlowClient
