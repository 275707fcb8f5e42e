import FlowClient.ClientError
import FlowClient.Command
import FlowClient.Connection
import FlowClient.Session
import FlowClient.Text.Blank
import FlowClient.Text.Unsigned

/-! The client's configuration: as a user writes it, and as it is used once it has
been checked. -/

namespace FlowClient

/-! ## As it is written -/

/-- What holds for every server, in seconds. -/
structure ClientSettings where
  /-- Time between two polls; zero for no polling. -/
  refreshInterval : Nat := 60
  retryPeriod : Nat := 1
  timeout : Nat := 30
deriving DecidableEq, Repr

structure ServerEntry where
  host : String
  port : String
  user : Option String := none
  password : Option String := none
  token : Option String := none
  ssl : Bool := false
  /-- Time between two polls of this server, in place of the client's. -/
  refreshInterval : Option Nat := none
  filter : Option SuiteFilter := none
deriving DecidableEq

structure ConfigDraft where
  client : ClientSettings := {}
  commands : CommandTable := .empty
  servers : Table ServerEntry := .empty
deriving DecidableEq

/-! ## As it is used -/

structure ServerSettings where
  name : String
  host : String
  port : String
  credential : Credential
  ssl : Bool
  refreshInterval : Option Nat
  filter : SuiteFilter
deriving DecidableEq

structure Config where
  client : ClientSettings
  commands : CommandTable
  servers : Table ServerSettings
deriving DecidableEq

namespace ServerSettings

def sessionOptions (server : ServerSettings) (client : ClientSettings) : SessionOptions :=
  let seconds := server.refreshInterval.getD client.refreshInterval
  { name := server.name
    host := server.host
    port := server.port
    refreshInterval := if 0 < seconds then some (seconds * 1000) else none
    filter := server.filter }

def connectionSettings (server : ServerSettings) (client : ClientSettings) :
    ConnectionSettings where
  host := server.host
  port := server.port
  ssl := server.ssl
  timeout := client.timeout * 1000
  retryPeriod := client.retryPeriod * 1000

end ServerSettings

/-! ## Checking -/

/-- The number of a port, of at most 16 bits. -/
def portNumber? (text : String) : Option Nat :=
  (Text.unsigned? text).filter (· < 65536)

/-- The credential of a server: a user with a password, or a token, and never
both. -/
def ServerEntry.credential (entry : ServerEntry) (name : String) :
    Except ClientError Credential :=
  match entry.user, entry.password, entry.token with
  | some user, some password, none => .ok (.password user password)
  | none, none, some token => .ok (.token token)
  | none, some _, none =>
      .error (.configuration s!"server '{name}' sets a password without a user")
  | some _, none, none =>
      .error (.configuration s!"server '{name}' sets a user without a password")
  | none, none, none =>
      .error (.configuration s!"server '{name}' needs either user + password or a token")
  | _, _, some _ =>
      .error (.configuration s!"server '{name}' sets both a password and a token")

def ServerEntry.check (entry : ServerEntry) (name : String) :
    Except ClientError ServerSettings :=
  if Text.isAllBlank entry.host then
    .error (.configuration s!"server '{name}' has an empty host")
  else if (portNumber? entry.port).isNone then
    .error (.configuration s!"server '{name}' has an invalid port '{entry.port}'")
  else (entry.credential name).map fun credential =>
    { name
      host := entry.host
      port := entry.port
      credential
      ssl := entry.ssl
      refreshInterval := entry.refreshInterval
      filter := entry.filter.getD {} }

/-- Check a list of servers in order, up to the first that cannot be used. -/
def checkServers :
    List (String × ServerEntry) → Except ClientError (List (String × ServerSettings))
  | [] => .ok []
  | (name, entry) :: rest => do
      let server ← entry.check name
      let others ← checkServers rest
      .ok ((name, server) :: others)

/-- The first command, by name, whose template is blank. -/
def blankCommand? (commands : CommandTable) : Option String :=
  (commands.entries.find? fun entry => Text.isAllBlank entry.2).map (·.1)

/-- The configuration that a draft stands for, or the first thing wrong with it:
no server at all, then the client's settings, the commands and the servers. -/
def ConfigDraft.check (draft : ConfigDraft) : Except ClientError Config :=
  if draft.servers.isEmpty then
    .error (.configuration "config must contain at least one [server.<name>] section")
  else if draft.client.timeout = 0 then
    .error (.configuration "[client].timeout must be >= 1 (got 0)")
  else match blankCommand? draft.commands with
    | some name => .error (.configuration s!"command '{name}' has an empty template")
    | none => do
        let servers ← checkServers draft.servers.entries
        .ok {
          client := draft.client
          commands := draft.commands
          servers := Table.ofList servers }

end FlowClient
