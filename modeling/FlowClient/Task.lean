import FlowClient.Text.Pieces
import FlowClient.Wire

/-! Tasks. A task is one request to one server on its way: made by a caller or by
the session, accepted by the queue, sent, and finished, aborted or rejected.
What it has come to in the end never changes. -/

namespace FlowClient

/-! ## Kinds -/

inductive TaskKind where
  | command
  | news
  | sync
  | reset
  | file (kind : FileKind)
  | history
  | messages
  | stats
  | scriptPreprocess
  | scriptEdit
  | scriptSubmit
  | suiteList
  | autoRegister
deriving DecidableEq, Repr

/-- What a session does with the reply to a task. -/
inductive OnSuccess where
  /-- Ask for the changes or load everything anew, as the news has it. -/
  | followNews
  /-- Fold the changes into the definition and the mirror. -/
  | foldChanges
  /-- Take over the definition and fill the mirror from it. -/
  | loadDefinition
  | keepText
  | keepLines
  | keepStats
  /-- Keep the text and ask for news: the server has just changed. -/
  | keepTextAndAskNews
  /-- Tell the filter which suites there are. -/
  | takeSuiteList
  | acknowledge
deriving DecidableEq, Repr

/-- What a session does when a task fails. -/
inductive OnFailure where
  | loseConnection
  | giveUpReset
  /-- The task alone is concerned, unless the connection is. -/
  | abortTask
deriving DecidableEq, Repr

namespace TaskKind

def all : List TaskKind :=
  [command, news, sync, reset, file .script, file .job, file .jobout, file .manual, history,
    messages, stats, scriptPreprocess, scriptEdit, scriptSubmit, suiteList, autoRegister]

def title : TaskKind → String
  | command => "Command"
  | news => "News"
  | sync => "Sync"
  | reset => "Reset"
  | file .script => "Script"
  | file .job => "Job"
  | file .jobout => "Output"
  | file .manual => "Manual"
  | history => "History"
  | messages => "Message"
  | stats => "Stats"
  | scriptPreprocess => "ScriptPreproc"
  | scriptEdit => "ScriptEdit"
  | scriptSubmit => "ScriptSubmit"
  | suiteList => "SuiteList"
  | autoRegister => "SuiteAutoRegister"

def ofTitle? (title : String) : Option TaskKind := all.find? (fun kind => kind.title == title)

/-- Whether callers may hand in a task of this kind themselves. -/
def isRoutable : TaskKind → Bool
  | file _ => true
  | history => true
  | messages => true
  | stats => true
  | scriptPreprocess => true
  | scriptEdit => true
  | scriptSubmit => true
  | _ => false

def fileKind? : TaskKind → Option FileKind
  | file kind => some kind
  | _ => none

def isReset (kind : TaskKind) : Bool := kind == reset

def onSuccess : TaskKind → OnSuccess
  | command => .keepTextAndAskNews
  | news => .followNews
  | sync => .foldChanges
  | reset => .loadDefinition
  | file _ => .keepText
  | history => .keepText
  | messages => .keepLines
  | stats => .keepStats
  | scriptPreprocess => .keepText
  | scriptEdit => .keepText
  | scriptSubmit => .keepTextAndAskNews
  | suiteList => .takeSuiteList
  | autoRegister => .acknowledge

def onFailure : TaskKind → OnFailure
  | news => .loseConnection
  | sync => .loseConnection
  | stats => .loseConnection
  | reset => .giveUpReset
  | _ => .abortTask

example : (all.filter isRoutable).length = 10 := by decide

end TaskKind

/-! ## Progress -/

/-- What a finished task keeps of the reply. -/
inductive TaskResult where
  | nothing
  | text (content : String)
  | lines (content : List String)
deriving DecidableEq, Repr

namespace TaskResult

def asText : TaskResult → String
  | .nothing => ""
  | .text content => content
  | .lines content => Text.join "\n" content

/-- What is kept of a reply, according to how it is used. -/
def ofReply (use : OnSuccess) (reply : Reply) : TaskResult :=
  match use with
  | .keepText => text (reply.text.getD "")
  | .keepTextAndAskNews => text (reply.text.getD "")
  | .keepLines => lines reply.lines
  | .takeSuiteList => lines reply.lines
  | .keepStats => text ((reply.stats.map Stats.report).getD "")
  | .followNews => nothing
  | .foldChanges => nothing
  | .loadDefinition => nothing
  | .acknowledge => nothing

end TaskResult

inductive Progress where
  | pending
  | submitted
  | finished (result : TaskResult)
  | aborted (reason : String)
  | rejected (reason : String)
deriving DecidableEq, Repr

namespace Progress

def isTerminal : Progress → Bool
  | pending => false
  | submitted => false
  | _ => true

def title : Progress → String
  | pending => "Pending"
  | submitted => "Submitted"
  | finished _ => "Finished"
  | aborted _ => "Aborted"
  | rejected _ => "Rejected"

def result : Progress → TaskResult
  | finished result => result
  | _ => .nothing

def reason? : Progress → Option String
  | aborted reason => some reason
  | rejected reason => some reason
  | _ => none

/-- The progress after a step towards `next`. What is terminal stays. -/
def advance (progress next : Progress) : Progress :=
  if progress.isTerminal then progress else next

@[simp] theorem advance_terminal {progress : Progress} (terminal : progress.isTerminal = true)
    (next : Progress) : progress.advance next = next ↔ progress = next := by
  simp [advance, terminal]

theorem advance_isTerminal {progress next : Progress} (terminal : next.isTerminal = true) :
    (progress.advance next).isTerminal = true := by
  unfold advance
  split
  · assumption
  · exact terminal

end Progress

/-! ## Parameters -/

inductive Param where
  | path
  | clientPar
  | asAlias
  | autoAddNew
deriving DecidableEq, Repr

namespace Param

def all : List Param := [asAlias, autoAddNew, clientPar, path]

def name : Param → String
  | path => "path"
  | clientPar => "clientPar"
  | asAlias => "alias"
  | autoAddNew => "autoAddNew"

def ofName? (name : String) : Option Param := all.find? (fun param => param.name == name)

end Param

structure Params where
  path : Option String := none
  clientPar : Option String := none
  asAlias : Option String := none
  autoAddNew : Option String := none
deriving DecidableEq, Repr

namespace Params

def get? (params : Params) : Param → Option String
  | .path => params.path
  | .clientPar => params.clientPar
  | .asAlias => params.asAlias
  | .autoAddNew => params.autoAddNew

def set (params : Params) (param : Param) (value : String) : Params :=
  match param with
  | .path => { params with path := some value }
  | .clientPar => { params with clientPar := some value }
  | .asAlias => { params with asAlias := some value }
  | .autoAddNew => { params with autoAddNew := some value }

/-- How a flag is written as a parameter. -/
def ofFlag (flag : Bool) : String := if flag then "1" else "0"

/-- Whether a parameter is a flag that is set. -/
def isSet (params : Params) (param : Param) : Bool := params.get? param == some "1"

end Params

/-! ## Tasks -/

structure Task where
  kind : TaskKind
  /-- The tokens of a command, the lines of a script or the suites of a reset. -/
  args : List String := []
  params : Params := {}
  progress : Progress := .pending
deriving DecidableEq, Repr

namespace Task

def isTerminal (task : Task) : Bool := task.progress.isTerminal

def command (args : List String) : Task := { kind := .command, args }

def forNode (kind : TaskKind) (path : String) : Task := { kind, params := { path := some path } }

/-- The task that submits a script to run in place of a node's own. -/
def submission (path : String) (lines : List String) (asAlias : Bool) : Task where
  kind := .scriptSubmit
  args := lines
  params := { path := some path, asAlias := some (Params.ofFlag asAlias) }

def reset (suites : List String) (autoAddNew : Bool) : Task where
  kind := .reset
  args := suites
  params := { autoAddNew := some (Params.ofFlag autoAddNew) }

/-- The task that tells the server whether to register new suites. -/
def autoRegister (autoAddNew : Bool) : Task where
  kind := .autoRegister
  params := { autoAddNew := some (Params.ofFlag autoAddNew) }

def advance (task : Task) (next : Progress) : Task :=
  { task with progress := task.progress.advance next }

def setParam (task : Task) (param : Param) (value : String) : Task :=
  { task with params := task.params.set param value }

def required (task : Task) (param : Param) : Except Failure String :=
  match task.params.get? param with
  | some value => .ok value
  | none => .error (.invalidArgument
      s!"{task.kind.title} task is missing parameter '{param.name}'")

def request (task : Task) : Except Failure Request :=
  match task.kind with
  | .command => .ok (.command task.args)
  | .news => .ok .news
  | .sync => .ok .sync
  | .reset => .ok (.reset task.args (task.params.isSet .autoAddNew))
  | .file _ => do
      let name ← task.required .clientPar
      match FileKind.ofName? name with
      | none => .error (.invalidArgument s!"unknown file kind '{name}'")
      | some kind =>
          let path ← task.required .path
          .ok (.file path kind)
  | .history => (task.required .path).map .history
  | .messages => (task.required .path).map .messages
  | .stats => .ok .stats
  | .scriptPreprocess => (task.required .path).map .scriptPreprocess
  | .scriptEdit => (task.required .path).map .scriptEdit
  | .scriptSubmit => do
      let path ← task.required .path
      .ok (.scriptSubmit path task.args (task.params.isSet .asAlias))
  | .suiteList => .ok .suiteList
  | .autoRegister => .ok (.suiteAutoRegister (task.params.isSet .autoAddNew))

end Task

/-! ## Ledgers -/

/-- The number of a task in its ledger. -/
abbrev TaskId := Nat

/-- All tasks that were ever made for a queue, numbered from zero. -/
structure Ledger where
  tasks : List Task := []

instance : Inhabited Ledger := ⟨{}⟩

namespace Ledger

def size (ledger : Ledger) : Nat := ledger.tasks.length

def get? (ledger : Ledger) (id : TaskId) : Option Task := ledger.tasks[id]?

def isTerminal (ledger : Ledger) (id : TaskId) : Bool := (ledger.get? id).any Task.isTerminal

def add (ledger : Ledger) (task : Task) : Ledger := ⟨ledger.tasks ++ [task]⟩

def change (ledger : Ledger) (id : TaskId) (change : Task → Task) : Ledger :=
  ⟨ledger.tasks.modify id change⟩

def advance (ledger : Ledger) (id : TaskId) (next : Progress) : Ledger :=
  ledger.change id (·.advance next)

def advanceAll (ledger : Ledger) (ids : List TaskId) (next : Progress) : Ledger :=
  ids.foldl (fun ledger id => ledger.advance id next) ledger

@[simp] theorem get?_add_new (ledger : Ledger) (task : Task) :
    (ledger.add task).get? ledger.size = some task := by
  simp [get?, add, size]

theorem get?_add_old (ledger : Ledger) (task : Task) {id : TaskId} (known : id < ledger.size) :
    (ledger.add task).get? id = ledger.get? id := by
  simp [get?, add, List.getElem?_append_left known]

@[simp] theorem get?_change_same (ledger : Ledger) (id : TaskId) (change : Task → Task) :
    (ledger.change id change).get? id = (ledger.get? id).map change := by
  simp [get?, Ledger.change]

theorem get?_change_other (ledger : Ledger) {id other : TaskId} (change : Task → Task)
    (different : other ≠ id) : (ledger.change id change).get? other = ledger.get? other := by
  simp [get?, Ledger.change, Ne.symm different]

@[simp] theorem size_change (ledger : Ledger) (id : TaskId) (change : Task → Task) :
    (ledger.change id change).size = ledger.size := by
  simp [size, Ledger.change]

end Ledger

end FlowClient
