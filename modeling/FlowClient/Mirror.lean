import FlowClient.Definition
import FlowClient.SuiteFilter

/-! The mirror: the tree that observers see. It is filled by a scan of the
definition and then follows it node by node. Every change has a beginning, at
which it is announced, and an end, at which it is made. -/

namespace FlowClient

/-! ## Nodes -/

/-- What the mirror holds of a node: the facts of its definition and the path
under which it hangs. -/
structure MirrorFacts extends NodeFacts where
  path : String
deriving DecidableEq

abbrev MirrorNode := Tree MirrorFacts

mutual
/-- The mirror image of a node that hangs below `parent`. -/
def scanNode (parent : String) : Node → MirrorNode
  | .node facts children =>
      let path := Path.child parent facts.name
      .node { facts with path } (scanNodes path children)

def scanNodes (parent : String) : List Node → List MirrorNode
  | [] => []
  | node :: rest => scanNode parent node :: scanNodes parent rest
end

/-! ## Announcements -/

/-- How many suites and how many nodes a scan will bring. -/
structure ScanExtent where
  suites : Nat := 0
  nodes : Nat := 0
deriving DecidableEq, Repr

/-- What the update of a node does to its attributes. -/
structure NodeChange where
  /-- The update does not concern the mirror and is passed over. -/
  ignore : Bool := false
  attributesBefore : Nat := 0
  attributesAfter : Nat := 0
deriving DecidableEq, Repr

inductive MirrorError where
  | unknownNode (path : String)
  | scanCountMismatch (expected actual : Nat)
deriving DecidableEq, Repr

def MirrorError.message : MirrorError → String
  | unknownNode path => s!"update for unknown node '{path}'"
  | scanCountMismatch expected actual =>
      s!"scan announced {expected} suites but produced {actual}"

/-! ## Mirrors -/

/-- The mirrored suites, and those of a scan that has begun and not yet ended. -/
structure Mirror where
  suites : List MirrorNode := []
  staged : Option (List MirrorNode) := none

instance : Inhabited Mirror := ⟨{}⟩

namespace Mirror

def isEmpty (mirror : Mirror) : Bool := mirror.suites.isEmpty

def suiteCount (mirror : Mirror) : Nat := mirror.suites.length

def nodeCount (mirror : Mirror) : Nat := forestSize mirror.suites

def suiteNames (mirror : Mirror) : List String := mirror.suites.map (·.label.name)

def find? (mirror : Mirror) (path : String) : Option MirrorNode :=
  findPath? (·.name) (Path.segments path) mirror.suites

def clear (_ : Mirror) : Mirror := {}

def scanned (definition : Definition) (filter : SuiteFilter) : List MirrorNode :=
  scanNodes "/" (definition.suites.filter (filter.accepts ·.label.name))

def extentOf (suites : List MirrorNode) : ScanExtent where
  suites := suites.length
  nodes := forestSize suites

/-- Stage a scan of the definition. The mirrored suites stay until it ends. -/
def beginScan (mirror : Mirror) (definition : Definition) (filter : SuiteFilter) :
    Mirror × ScanExtent :=
  let suites := scanned definition filter
  ({ mirror with staged := some suites }, extentOf suites)

def endScan (mirror : Mirror) : Mirror :=
  match mirror.staged with
  | none => mirror
  | some suites => { suites }

/-- Compare the mirror with what a scan announced. -/
def checkScan (mirror : Mirror) (extent : ScanExtent) : Except MirrorError Unit :=
  if extent.suites = mirror.suiteCount then .ok ()
  else .error (.scanCountMismatch extent.suites mirror.suiteCount)

/-- Announce the update of a node. It is ignored when the mirror is empty or
does not have the node's suite; a node missing from a mirrored suite is an
error. -/
def beginUpdate (mirror : Mirror) (path : String) (change : NodeChange) :
    Except MirrorError NodeChange :=
  if mirror.isEmpty then .ok { change with ignore := true }
  else match Path.segments path with
    | [] => .error (.unknownNode path)
    | suite :: _ =>
        if (findNamed? (·.name) suite mirror.suites).isNone then
          .ok { change with ignore := true }
        else match mirror.find? path with
          | none => .error (.unknownNode path)
          | some node =>
              .ok { change with
                ignore := false
                attributesBefore := node.label.attributes.size }

def endUpdate (mirror : Mirror) (update : NodeUpdate) (change : NodeChange) :
    Except MirrorError (Mirror × NodeChange) :=
  if change.ignore then .ok (mirror, change)
  else
    let segments := Path.segments update.path
    let suites := relabelPath? (fun facts : MirrorFacts => facts.name)
      (fun facts => { facts with toNodeFacts := update.applyTo facts.toNodeFacts })
      segments mirror.suites
    match suites with
    | none => .error (.unknownNode update.path)
    | some suites =>
        let mirror := { mirror with suites }
        let attributesAfter := match mirror.find? update.path with
          | none => change.attributesAfter
          | some node => node.label.attributes.size
        .ok (mirror, { change with attributesAfter })

end Mirror

end FlowClient
