import FlowClient.Mirror
import FlowClient.Text.Quoted

/-! What a session tells its observers. Observers hear of every event in the order
in which they subscribed, each with the mirror as it is at that moment. -/

namespace FlowClient

/-! ## What events are about -/

/-- How a session stands with its server. A session that has not heard from its
server yet counts as having lost it. -/
inductive Contact where
  | disconnected
  /-- The last attempt failed, for the given reason, or there was none yet. -/
  | lost (reason : Option String)
  /-- The server answered the last poll. -/
  | normal
deriving DecidableEq, Repr

namespace Contact

instance : Inhabited Contact := ⟨lost none⟩

def name : Contact → String
  | disconnected => "disconnected"
  | lost _ => "lost"
  | normal => "normal"

def reason? : Contact → Option String
  | lost reason => reason
  | _ => none

end Contact

inductive Activity where
  | idle
  /-- A reset is on its way. -/
  | loading
  | rescanning
deriving DecidableEq, Repr

namespace Activity

instance : Inhabited Activity := ⟨idle⟩

def title : Activity → String
  | idle => "NoActivity"
  | loading => "LoadActivity"
  | rescanning => "RescanActivity"

end Activity

/-! ## Events -/

inductive Event where
  | scanBegin (extent : ScanExtent)
  | scanEnd
  | clearBegin
  | clearEnd
  | nodeChangeBegin (path : String) (aspects : List Aspect) (change : NodeChange)
  | nodeChangeEnd (path : String) (aspects : List Aspect) (change : NodeChange)
  | contactChanged (contact : Contact)
  | activityChanged (activity : Activity)
  | definitionChanged (aspects : List Aspect)
  | filterChanged
  | deleted
deriving DecidableEq

abbrev ObserverId := Nat

structure Notice where
  event : Event
  /-- The mirrored suites at that moment. -/
  shown : List MirrorNode
  /-- The observers that heard of it. -/
  audience : List ObserverId

/-! ## The log -/

/-- How much a line of the log matters. -/
inductive LogLevel where
  | error
  | warn
  | info
  | debug
  | trace
deriving DecidableEq, Repr

namespace LogLevel

def all : List LogLevel := [error, warn, info, debug, trace]

def title : LogLevel → String
  | error => "ERROR"
  | warn => "WARN"
  | info => "INFO"
  | debug => "DEBUG"
  | trace => "TRACE"

def verbosity : LogLevel → Nat
  | error => 1
  | warn => 2
  | info => 3
  | debug => 4
  | trace => 5

end LogLevel

structure LogLine where
  level : LogLevel
  message : String
  fields : List (String × String) := []
deriving DecidableEq, Repr

def LogLine.text (line : LogLine) : String :=
  String.intercalate " " (line.level.title :: line.message ::
    line.fields.map fun (name, value) => name ++ "=" ++ value)

/-- Whether a line is shown at a level. -/
def LogLine.isShown (line : LogLine) (level : LogLevel) : Bool :=
  line.level.verbosity ≤ level.verbosity

/-- What an observer that keeps a log writes for a notice. -/
def Notice.logLine (notice : Notice) (server : String) : LogLine :=
  let server := Text.quoted server
  match notice.event with
  | .contactChanged contact =>
      let fields := [("server", server), ("state", contact.name)]
      match contact.reason? with
      | some reason => ⟨.warn, "connection state changed", fields ++ [("error", reason)]⟩
      | none => ⟨.info, "connection state changed", fields⟩
  | .scanEnd => ⟨.info, "mirror rebuilt",
      [("server", server), ("suites", toString notice.shown.length),
        ("nodes", toString (forestSize notice.shown))]⟩
  | .deleted => ⟨.info, "session closed", [("server", server)]⟩
  | .nodeChangeEnd path aspects _ => ⟨.debug, "node changed",
      [("server", server), ("path", path),
        ("aspects", "[" ++ String.intercalate ", " (aspects.map Aspect.title) ++ "]")]⟩
  | _ => ⟨.debug, "session event", []⟩

end FlowClient
