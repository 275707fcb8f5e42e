import FlowClient.Text.Pieces
import FlowClient.Wire

/-! A server that follows a script, for trying out a session without a network. It
notes what it is asked, answers each type of request from a list of prepared
outcomes and then as a healthy server would, and can hold requests back. -/

namespace FlowClient

/-! ## A healthy server -/

/-- A definition of two suites: the first with a family and a task in it and a
second task, the second with one task. -/
def sampleDefinition : Definition where
  suites := [
    .node { name := "s1", state := .active } [
      .node { name := "f1", kind := .family } [.node { name := "t1", kind := .task } []],
      .node { name := "t2", kind := .task } []],
    .node { name := "s2" } [.node { name := "t3", kind := .task } []]]

/-- What a healthy server with the given definition and nothing new answers. -/
def standardReply (definition : Definition) : Request → Reply
  | .reset _ _ => { definition := some definition }
  | .news => { news := some .noNews }
  | .sync => {}
  | .suiteList => { lines := definition.suiteNames }
  | .command args => { text := some ("ok: " ++ Text.join " " args) }
  | .file path kind => { text := some s!"{kind.name} of {path}" }
  | .history path => { text := some s!"history of {path}" }
  | .messages path => { lines := [s!"msg 1 for {path}", s!"msg 2 for {path}"] }
  | .stats => { stats := some { version := "5.0.0" } }
  | .scriptPreprocess path => { text := some s!"script {path}" }
  | .scriptEdit path => { text := some s!"script {path}" }
  | .scriptSubmit path _ _ => { text := some s!"submitted {path}" }
  | .suiteAutoRegister _ => {}

/-! ## Servers -/

/-- Where a request stands that the server has received and not answered. -/
inductive Hold where
  /-- It waits for a permit of the gate that is there. -/
  | atGate
  /-- The gate it waits for was replaced, and nothing can let it through. -/
  | stranded
  | passed
deriving DecidableEq, Repr

structure ScriptedServer where
  definition : Definition := sampleDefinition
  /-- Prepared outcomes for each type of request, used up one by one. -/
  script : Table (List Outcome) := .empty
  down : Option Failure := none
  /-- How many requests the closed gate still lets through. -/
  gate : Option Nat := none
  held : Option (Request × Hold) := none
  requests : List Request := []
  credentials : List Credential := []
  /-- How many requests were held at a time, at most. -/
  mostInFlight : Nat := 0
  released : Bool := false

namespace ScriptedServer

def inFlight (server : ScriptedServer) : Nat := if server.held.isSome then 1 else 0

/-- Let the held request through if the gate has a permit for it. -/
def letThrough (server : ScriptedServer) : ScriptedServer :=
  match server.held, server.gate with
  | some (request, .atGate), none => { server with held := some (request, .passed) }
  | some (request, .atGate), some (permits + 1) =>
      { server with held := some (request, .passed), gate := some permits }
  | _, _ => server

def receive (server : ScriptedServer) (request : Request) : ScriptedServer :=
  letThrough { server with
    requests := server.requests ++ [request]
    held := some (request, .atGate)
    mostInFlight := max server.mostInFlight 1 }

/-- The outcome of a request, and the server with its script one further. -/
def respond (server : ScriptedServer) (request : Request) : ScriptedServer × Outcome :=
  match server.down with
  | some failure => (server, .error failure)
  | none =>
      match server.script.get? request.name with
      | some (outcome :: rest) =>
          ({ server with script := server.script.insert request.name rest }, outcome)
      | _ => (server, .ok (standardReply server.definition request))

def answer? (server : ScriptedServer) : Option (ScriptedServer × Outcome) :=
  match server.held with
  | some (request, .passed) =>
      let (server, outcome) := server.respond request
      some ({ server with held := none }, outcome)
  | _ => none

/-! ## The gate -/

/-- Hold back what arrives from now on. A request already held stays behind. -/
def closeGate (server : ScriptedServer) : ScriptedServer :=
  { server with
    gate := some 0
    held := server.held.map fun
      | (request, .atGate) => (request, .stranded)
      | other => other }

/-- How many permits a gate has room for: one less than 2 to the 61. -/
def gateCapacity : Nat := (1 <<< 61) - 1

/-- Let a number of requests through the gate that is there. It has to have room for
the permits that are left over. -/
def release? (server : ScriptedServer) (count : Nat) : Option ScriptedServer :=
  let server := letThrough { server with gate := server.gate.map (· + count) }
  if server.gate.all (· ≤ gateCapacity) then some server else none

def openGate? (server : ScriptedServer) : Option ScriptedServer :=
  (server.release? (gateCapacity / 2)).map fun server => { server with gate := none }

/-! ## The rest of its life -/

def setCredential (server : ScriptedServer) (credential : Credential) : ScriptedServer :=
  { server with credentials := server.credentials ++ [credential] }

def giveUp (server : ScriptedServer) : ScriptedServer :=
  { server with released := true, held := none }

end ScriptedServer

end FlowClient
