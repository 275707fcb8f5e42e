import FlowClient.Config
import FlowClient.Registry

/-! A client: sessions by name, each with a connection to its server. A client does
nothing outside itself. It says which line has to go to which server, and takes in
what came back. -/

namespace FlowClient

/-- A connection, and the request that its session wants sent over it. -/
structure Link where
  connection : Connection
  request : Option Request := none

/-- Take note of what a worker does to its connection. -/
def Link.perform (link : Link) : ConnectionAction → Link
  | .send request => { link with request := some request }
  | .setCredential credential =>
      { link with connection := link.connection.setCredential credential }
  | .release => link

structure Client where
  registry : Registry := {}
  links : Table Link := .empty
  log : List LogLine := []
  /-- Whether a session was told of other suites since it was last asked. -/
  filterChanged : Bool := false

namespace Client

def note (client : Client) (line : LogLine) : Client :=
  { client with log := client.log ++ [line] }

def find? (client : Client) (name : String) : Option LiveSession :=
  client.registry.find? name <|> client.registry.leaving.get? name

def put (client : Client) (name : String) (live : LiveSession) : Client :=
  let registry := client.registry
  { client with registry :=
      if registry.sessions.contains name then registry.put name live
      else { registry with leaving := registry.leaving.insert name live } }

def names (client : Client) : List String :=
  client.registry.leaving.keys ++ client.registry.names

def addServer (client : Client) (server : ServerSettings) (settings : ClientSettings)
    (now : Nat) : Except ClientError Client := do
  let options := server.sessionOptions settings
  let registry ← client.registry.addServer options now
  let connection : Connection :=
    { settings := server.connectionSettings settings, credential := server.credential }
  .ok ({ client with
    registry
    links := client.links.insert server.name { connection } }.note
      ⟨.info, "adding server", [("server", server.name), ("address", options.longName)]⟩)

/-! ## The log -/

def actionLine (server : String) : ConnectionAction → LogLine
  | .send request => ⟨.debug, "sending request", [("server", server), ("request", request.name)]⟩
  | .setCredential _ => ⟨.debug, "credential replaced", [("server", server)]⟩
  | .release => ⟨.debug, "connection released", [("server", server)]⟩

/-- What the observers of a session log. All observers of a client keep a log. -/
def noticeLines (server : String) (notices : List Notice) : List LogLine :=
  notices.flatMap fun notice => notice.audience.map fun _ => notice.logLine server

/-! ## At work -/

/-- Let a session do what it can by itself, and take note of what it wants done. -/
def settleOne (now : Nat) (client : Client) (name : String) : Client :=
  match client.find? name, client.links.get? name with
  | some live, some link =>
      let live := live.settle now
      let actions := live.worker.actions
      let notices := live.session.notices
      let link := actions.foldl Link.perform link
      let live := { live with
        worker := live.worker.withoutActions
        session := live.session.withoutNotices }
      { client.put name live with
        links := client.links.insert name link
        log := client.log ++ noticeLines name notices ++ actions.map (actionLine name)
        filterChanged := client.filterChanged || notices.any (·.event == .filterChanged) }
  | _, _ => client

def settle (now : Nat) (client : Client) : Client :=
  client.names.foldl (settleOne now) client

/-- The next request that has to be sent: for which session, and how. -/
def exchange? (now : Nat) (client : Client) : Option (String × Exchange) :=
  client.links.entries.findSome? fun (name, link) =>
    link.request.map fun request => (name, link.connection.exchange now request)

def answered (client : Client) (name : String) (now : Nat)
    (answer : Except TransportError String) : Client :=
  match client.find? name, client.links.get? name with
  | some live, some { connection, request := some request } =>
      let (connection, outcome) := connection.answered now answer
      let client := { client.put name (live.finish outcome) with
        links := client.links.insert name { connection } }
      match outcome with
      | .ok _ => client
      | .error failure => client.note ⟨.warn, "request failed", [
          ("address", connection.settings.address), ("request", Text.quoted request.name),
          ("error", failure.text)]⟩
  | _, _ => client

def deadline? (client : Client) : Option Nat :=
  (client.names.filterMap fun name => (client.find? name).bind LiveSession.deadline?).min?

def isOver (client : Client) : Bool :=
  client.names.all fun name => (client.find? name).all LiveSession.isEnded

end Client

end FlowClient
