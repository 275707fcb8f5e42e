import FlowClient.Path
import FlowClient.Status
import FlowClient.Table
import FlowClient.Tree

/-! The workflow definition as the client knows it: the server's own part and the
suites with the nodes below them. A reset replaces it whole; afterwards the
server sends updates, each for one node or for the server. -/

namespace FlowClient

/-! ## What a definition holds -/

/-- What a definition says about one node, its children apart. Attributes are
labels, events, meters and the like, each under its type and name. -/
structure NodeFacts where
  name : String
  kind : NodeKind := .suite
  state : NodeState := .unknown
  suspended : Bool := false
  attributes : Table String := .empty
deriving DecidableEq

abbrev Node := Tree NodeFacts

structure ServerFacts where
  state : RunState := .running
  suspended : Bool := false
  /-- Host and port this definition came from, filled in by the client. -/
  endpoint : Option (String × String) := none
  userVariables : Table String := .empty
deriving DecidableEq

structure Definition where
  server : ServerFacts := {}
  suites : List Node := []

instance : Inhabited Definition := ⟨{}⟩

namespace Definition

def isEmpty (definition : Definition) : Bool := definition.suites.isEmpty

def suiteNames (definition : Definition) : List String :=
  definition.suites.map (·.label.name)

def state (definition : Definition) : NodeState :=
  .mostSignificant (definition.suites.map (·.label.state))

def find? (definition : Definition) (path : String) : Option Node :=
  findPath? NodeFacts.name (Path.segments path) definition.suites

def change? (definition : Definition) (path : String) (change : NodeFacts → NodeFacts) :
    Option Definition :=
  (relabelPath? NodeFacts.name change (Path.segments path) definition.suites).map
    fun suites => { definition with suites }

def setVariable (definition : Definition) (name value : String) : Definition :=
  let server := definition.server
  { definition with server := { server with userVariables := server.userVariables.insert name value } }

end Definition

/-! ## Updates -/

/-- A change to one node, or to the server if its path names no node. What is
absent stays as it is. -/
structure NodeUpdate where
  path : String
  aspects : List Aspect := []
  state : Option NodeState := none
  suspended : Option Bool := none
  /-- New attributes of a node, in place of all it had, or variables of the
  server, added to those it has. -/
  attributes : Option (Table String) := none
  serverState : Option RunState := none
deriving DecidableEq

namespace NodeUpdate

def isServer (update : NodeUpdate) : Bool := Path.isServer update.path

def isStructural (update : NodeUpdate) : Bool := update.aspects.any Aspect.isStructural

def applyTo (update : NodeUpdate) (facts : NodeFacts) : NodeFacts :=
  { facts with
    state := update.state.getD facts.state
    suspended := update.suspended.getD facts.suspended
    attributes := update.attributes.getD facts.attributes }

def applyToServer (update : NodeUpdate) (server : ServerFacts) : ServerFacts :=
  { server with
    state := update.serverState.getD server.state
    suspended := update.suspended.getD server.suspended
    userVariables := match update.attributes with
      | none => server.userVariables
      | some additions => server.userVariables.insertAll additions.entries }

@[simp] theorem applyTo_name (update : NodeUpdate) (facts : NodeFacts) :
    (update.applyTo facts).name = facts.name := rfl

end NodeUpdate

/-- The definition after an update, or nothing if it addresses a node that the
definition does not have. -/
def Definition.updated? (definition : Definition) (update : NodeUpdate) : Option Definition :=
  if update.isServer then
    some { definition with server := update.applyToServer definition.server }
  else definition.change? update.path update.applyTo

def Definition.updated (definition : Definition) (update : NodeUpdate) : Definition :=
  (definition.updated? update).getD definition

end FlowClient
