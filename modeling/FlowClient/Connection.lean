import FlowClient.Text.Quoted
import FlowClient.Wire.Decoding
import FlowClient.Wire.Encoding

/-! The connection to a server: for every request one line is sent and one line
comes back. The connection keeps the cursor that the server last handed out and
paces itself after a failure. -/

namespace FlowClient

/-! ## Settings -/

/-- Where a server is and how it is talked to. Times are in milliseconds. -/
structure ConnectionSettings where
  host : String
  port : String
  ssl : Bool := false
  /-- How long one request may take, setting up the connection included. -/
  timeout : Nat := 30000
  /-- How long after a failure the next attempt is made at the earliest. -/
  retryPeriod : Nat := 1000
  /-- Whether an error in a reply makes the request fail. -/
  throwOnError : Bool := true
deriving DecidableEq, Repr

def ConnectionSettings.address (settings : ConnectionSettings) : String :=
  settings.host ++ ":" ++ settings.port

/-! ## Transport -/

inductive TransportError where
  | connect (reason : String)
  | handshake (reason : String)
  | write (reason : String)
  | flush (reason : String)
  | read (reason : String)
  | closed
  | timeout
deriving DecidableEq, Repr

/-- A span of time, to the millisecond: in seconds if it is that long. -/
def spanText (milliseconds : Nat) : String :=
  if milliseconds = 0 then "0ns"
  else if milliseconds < 1000 then s!"{milliseconds}ms"
  else
    let digits := (Nat.toDigits 10 (milliseconds % 1000 + 1000)).drop 1
    let shown := (digits.reverse.dropWhile (· == '0')).reverse
    let fraction := if shown.isEmpty then "" else "." ++ String.ofList shown
    s!"{milliseconds / 1000}{fraction}s"

example : (spanText 5000, spanText 1050, spanText 20) = ("5s", "1.05s", "20ms") := by decide

/-- What connecting comes to on a machine that has no network. -/
def TransportError.noNetwork : TransportError :=
  connect "Network is unreachable (os error 101)"

def TransportError.failure (settings : ConnectionSettings) : TransportError → Failure
  | connect reason => ⟨.unreachable, settings.address ++ ": " ++ reason⟩
  | handshake reason => ⟨.tls, settings.address ++ ": " ++ reason⟩
  | write reason => ⟨.unreachable, "write request: " ++ reason⟩
  | flush reason => ⟨.unreachable, "flush request: " ++ reason⟩
  | read reason => ⟨.protocol, "read reply: " ++ reason⟩
  | closed => ⟨.protocol, "connection closed before reply"⟩
  | timeout => ⟨.timeout,
      s!"no reply from {settings.address} within {spanText settings.timeout}"⟩

/-- A line for a server, and when it may go out at the earliest. -/
structure Exchange where
  settings : ConnectionSettings
  line : String
  earliest : Nat
deriving DecidableEq, Repr

def outcomeOf (settings : ConnectionSettings) : Except TransportError String → Outcome
  | .error problem => .error (problem.failure settings)
  | .ok line =>
      match Reply.ofLine? line with
      | some reply => .ok reply
      | none => .error ⟨.protocol, "decode reply: the line is not a reply"⟩

/-! ## Connections -/

structure Connection where
  settings : ConnectionSettings
  credential : Credential
  cursor : Cursor := {}
  lastFailure : Option Nat := none
deriving DecidableEq, Repr

namespace Connection

/-- When the next attempt may be made. -/
def earliest (connection : Connection) (now : Nat) : Nat :=
  match connection.lastFailure with
  | some failed => max now (failed + connection.settings.retryPeriod)
  | none => now

/-- The envelope of a request. A reset registers anew and knows of no changes. -/
def envelope (connection : Connection) (request : Request) : Envelope where
  credential := connection.credential
  cursor := match request with
    | .reset _ _ => {}
    | _ => connection.cursor
  request := request

def exchange (connection : Connection) (now : Nat) (request : Request) : Exchange where
  settings := connection.settings
  line := (connection.envelope request).toLine
  earliest := connection.earliest now

/-- Take in what came of a request at a given time, and say what it means. The
cursor of a reply counts whatever else the reply says. -/
def receive (connection : Connection) (now : Nat) (outcome : Outcome) : Connection × Outcome :=
  match outcome with
  | .error failure => ({ connection with lastFailure := some now }, .error failure)
  | .ok reply =>
      let connection := { connection with cursor := reply.cursor.getD connection.cursor }
      match reply.error, connection.settings.throwOnError with
      | some error, true =>
          let failure := Failure.ofServerError error
          (if failure.isOfConnection then { connection with lastFailure := some now }
            else connection, .error failure)
      | _, _ => ({ connection with lastFailure := none }, .ok reply)

def answered (connection : Connection) (now : Nat) (answer : Except TransportError String) :
    Connection × Outcome :=
  connection.receive now (outcomeOf connection.settings answer)

def setCredential (connection : Connection) (credential : Credential) : Connection :=
  { connection with credential }

def description (connection : Connection) : String :=
  let cursor := connection.cursor
  "ConnectionHandle \x7b address: " ++ Text.quoted connection.settings.address ++
    s!", ssl: {connection.settings.ssl}, credential: {connection.credential.description}" ++
    ", cursor: SyncCursor \x7b " ++ s!"client_handle: {cursor.clientHandle}, " ++
    s!"state_change_no: {cursor.stateChange}, modify_change_no: {cursor.modifyChange}" ++
    " \x7d, .. \x7d"

end Connection

end FlowClient
