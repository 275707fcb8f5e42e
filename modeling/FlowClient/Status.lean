/-! The words with which a server describes itself and its nodes. Every word has
one spelling on the wire; `all` lists the values so that a spelling can be
looked up. -/

namespace FlowClient

/-! ## Servers -/

inductive RunState where
  | halted
  | shutdown
  | running
deriving DecidableEq, Repr

namespace RunState

def all : List RunState := [halted, shutdown, running]

def name : RunState → String
  | halted => "halted"
  | shutdown => "shutdown"
  | running => "running"

/-- A server that has said nothing is taken to run. -/
instance : Inhabited RunState := ⟨running⟩

end RunState

/-! ## Nodes -/

inductive NodeState where
  | unknown
  | complete
  | queued
  | submitted
  | active
  | aborted
deriving DecidableEq, Repr

namespace NodeState

def all : List NodeState := [unknown, complete, queued, submitted, active, aborted]

def name : NodeState → String
  | unknown => "unknown"
  | complete => "complete"
  | queued => "queued"
  | submitted => "submitted"
  | active => "active"
  | aborted => "aborted"

instance : Inhabited NodeState := ⟨unknown⟩

/-- How much a state counts when several are summed up in one. -/
def rank : NodeState → Nat
  | unknown => 0
  | complete => 1
  | queued => 2
  | submitted => 3
  | active => 4
  | aborted => 5

/-- The state that counts most, or `unknown` if there is none. -/
def mostSignificant (states : List NodeState) : NodeState :=
  states.foldl (fun best state => if best.rank ≤ state.rank then state else best) unknown

example : mostSignificant [queued, aborted, active] = aborted := rfl

end NodeState

inductive NodeKind where
  | suite
  | family
  | task
  | aliasNode
deriving DecidableEq, Repr

namespace NodeKind

def all : List NodeKind := [suite, family, task, aliasNode]

def name : NodeKind → String
  | suite => "suite"
  | family => "family"
  | task => "task"
  | aliasNode => "alias"

instance : Inhabited NodeKind := ⟨suite⟩

end NodeKind

/-! ## Aspects -/

/-- The facet of a node, or of the server, that a change touches. -/
inductive Aspect where
  | state
  | suspended
  | defStatus
  | label
  | event
  | meter
  | variable
  | limit
  | repeat
  | late
  | flag
  | addRemoveAttr
  | addRemoveNode
  | order
  | serverState
  | serverVariable
deriving DecidableEq, Repr

namespace Aspect

def all : List Aspect :=
  [state, suspended, defStatus, label, event, meter, .variable, limit, .repeat, late, flag,
    addRemoveAttr, addRemoveNode, order, serverState, serverVariable]

def name : Aspect → String
  | state => "state"
  | suspended => "suspended"
  | defStatus => "def_status"
  | label => "label"
  | event => "event"
  | meter => "meter"
  | .variable => "variable"
  | limit => "limit"
  | .repeat => "repeat"
  | late => "late"
  | flag => "flag"
  | addRemoveAttr => "add_remove_attr"
  | addRemoveNode => "add_remove_node"
  | order => "order"
  | serverState => "server_state"
  | serverVariable => "server_variable"

def title : Aspect → String
  | state => "State"
  | suspended => "Suspended"
  | defStatus => "DefStatus"
  | label => "Label"
  | event => "Event"
  | meter => "Meter"
  | .variable => "Variable"
  | limit => "Limit"
  | .repeat => "Repeat"
  | late => "Late"
  | flag => "Flag"
  | addRemoveAttr => "AddRemoveAttr"
  | addRemoveNode => "AddRemoveNode"
  | order => "Order"
  | serverState => "ServerState"
  | serverVariable => "ServerVariable"

/-- Aspects that change the shape of the tree rather than what a node holds. -/
def isStructural : Aspect → Bool
  | addRemoveNode => true
  | order => true
  | _ => false

def isAttribute : Aspect → Bool
  | label => true
  | event => true
  | meter => true
  | .variable => true
  | limit => true
  | .repeat => true
  | late => true
  | flag => true
  | addRemoveAttr => true
  | _ => false

end Aspect

end FlowClient
