import FlowClient.Command
import FlowClient.Live

/-! The sessions of a client by name, and commands that go to several of them. -/

namespace FlowClient

/-- A task of one of the sessions. Sessions that had the same name one after the other
differ in their serial number. -/
structure SessionTask where
  server : String
  serial : Nat
  id : TaskId
deriving DecidableEq, Repr

structure Registry where
  sessions : Table LiveSession := .empty
  leaving : Table LiveSession := .empty
  started : Nat := 0
  commands : CommandTable := .empty

namespace Registry

def find? (registry : Registry) (name : String) : Option LiveSession := registry.sessions.get? name

def names (registry : Registry) : List String := registry.sessions.keys

def require (registry : Registry) (name : String) : Except ClientError LiveSession :=
  match registry.find? name with
  | some live => .ok live
  | none => .error (.serverNotFound name)

/-- A task, if its session is still there or on its way out. -/
def task? (registry : Registry) (task : SessionTask) : Option Task := do
  let sessions := [registry.sessions.get? task.server, registry.leaving.get? task.server]
  let live ← sessions.reduceOption.find? (·.serial == task.serial)
  live.session.queue.task? task.id

def put (registry : Registry) (name : String) (live : LiveSession) : Registry :=
  { registry with sessions := registry.sessions.insert name live }

def addServer (registry : Registry) (options : SessionOptions) (now : Nat) :
    Except ClientError Registry :=
  if registry.sessions.contains options.name then
    .error (.configuration s!"server '{options.name}' is already registered")
  else
    let live := { LiveSession.start options now with serial := registry.started }
    .ok { registry.put options.name live with started := registry.started + 1 }

/-- Leave a call with a session. One that has ended takes none. -/
def call (registry : Registry) (name : String) (call : Call) :
    Except ClientError (Registry × Ticket) := do
  let live ← registry.require name
  match live.call? call with
  | some (live, ticket) => .ok (registry.put name live, ticket)
  | none => .error (.sessionClosed name)

/-- A session that is asked to shut down, if it is not over already. -/
def leave (live : LiveSession) : LiveSession :=
  match live.call? .shutdown with
  | some (live, _) => live
  | none => live

/-- What shutting a session down comes to: it fails if the session broke down. -/
def departure (name : String) (live : LiveSession) : Except ClientError Unit :=
  if live.isBroken then .error (.other s!"session '{name}' task failed") else .ok ()

/-- Shut a session down and forget it, whatever its departure comes to. -/
def removeServer (registry : Registry) (name : String) : Registry × Except ClientError Unit :=
  match registry.require name with
  | .error error => (registry, .error error)
  | .ok live =>
      ({ registry with
          sessions := registry.sessions.erase name
          leaving := registry.leaving.insert name (leave live) },
        departure name live)

def shutdownAll (registry : Registry) : Registry × Except ClientError Unit :=
  let sessions := registry.sessions.entries
  ({ registry with
      sessions := .empty
      leaving := registry.leaving.insertAll
        (sessions.map fun (name, live) => (name, leave live)) },
    sessions.forM fun (name, live) => departure name live)

/-- Let every session poll now. Those that are over are passed by. -/
def updateAll (registry : Registry) : Registry :=
  { registry with
    sessions := registry.sessions.mapValues fun _ live =>
      match live.call? .refresh with
      | some (live, _) => live
      | none => live }

end Registry

/-! ## Commands for several servers -/

/-- How far a command for several servers has come. Its groups are served one
after the other, and the next one only when the one before it has answered. -/
inductive GroupCommand where
  | running (groups : List (String × List Target)) (tasks : List SessionTask)
  /-- A server was given its part and has not answered yet. -/
  | awaiting (server : String) (ticket : Ticket) (groups : List (String × List Target))
      (tasks : List SessionTask)
  | done (result : Except ClientError (List SessionTask))

/-- A command on its way: its template and how far it has come. -/
structure CommandRun where
  template : String
  progress : GroupCommand

namespace Registry

def beginCommand (registry : Registry) (targets : List Target) (command : String)
    (byName : Bool) : CommandRun :=
  match (if byName then CommandTable.resolve registry.commands command else .ok command) with
  | .ok template => ⟨template, .running (groupByServer targets) []⟩
  | .error error => ⟨command, .done (.error error)⟩

/-- Take a command one step further. A server whose part comes to nothing is
passed by, and so is one that is disconnected and makes no task. While a server
has no room for its part, or has not answered, there is no step. -/
def stepCommand? (registry : Registry) (run : CommandRun) : Option (Registry × CommandRun) :=
  let become (registry : Registry) (progress : GroupCommand) :=
    some (registry, { run with progress })
  match run.progress with
  | .done _ => none
  | .running [] tasks => become registry (.done (.ok tasks))
  | .running ((server, members) :: groups) tasks =>
      match registry.require server with
      | .error error => become registry (.done (.error error))
      | .ok live =>
          let args := expandTemplate run.template members
          if args.isEmpty then become registry (.running groups tasks)
          else if !live.isEnded && LiveSession.capacity ≤ live.mailbox.length then none
          else match registry.call server (.runCommand args) with
            | .error error => become registry (.done (.error error))
            | .ok (registry, ticket) => become registry (.awaiting server ticket groups tasks)
  | .awaiting server ticket groups tasks =>
      match registry.find? server with
      | none => become registry (.done (.error (.sessionClosed server)))
      | some live =>
          match live.answer? ticket with
          | some (.command (some id)) =>
              become registry (.running groups (tasks ++ [⟨server, live.serial, id⟩]))
          | some _ => become registry (.running groups tasks)
          | none =>
              if live.isEnded then become registry (.done (.error (.sessionClosed server)))
              else none

/-- What a registry says of itself. -/
def description (registry : Registry) : String :=
  "ServerRegistry \x7b servers: " ++ Text.quotedList registry.names ++
    ", commands: CommandRegistry \x7b commands: \x7b" ++
    String.intercalate ", " (registry.commands.entries.map fun (name, template) =>
      Text.quoted name ++ ": " ++ Text.quoted template) ++
    "\x7d \x7d \x7d"

end Registry

end FlowClient
