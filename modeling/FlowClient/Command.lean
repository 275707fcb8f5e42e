import FlowClient.ClientError
import FlowClient.Path
import FlowClient.Table
import FlowClient.Text.Blank
import FlowClient.Text.Replace

/-! Commands for nodes. A command is written as a template whose placeholders
stand for the nodes it is for; templates that are used often have names. -/

namespace FlowClient

/-! ## Targets -/

/-- What a command is for: a node of a server, or the server itself. -/
structure Target where
  server : String
  path : String
deriving DecidableEq, Repr

namespace Target

def ofServer (server : String) : Target := ⟨server, "/"⟩

def isServer (target : Target) : Bool := target.path == "/"

def nodeName (target : Target) : String :=
  if target.isServer then "/" else Path.nodeName target.path

end Target

/-- Add a target to the group of its server, or to a new group at the end. -/
def addToGroups (target : Target) :
    List (String × List Target) → List (String × List Target)
  | [] => [(target.server, [target])]
  | (server, members) :: rest =>
      if server = target.server then (server, members ++ [target]) :: rest
      else (server, members) :: addToGroups target rest

def groupByServer (targets : List Target) : List (String × List Target) :=
  targets.foldl (fun groups target => addToGroups target groups) []

example :
    let (b, a, c) := (Target.mk "b" "/s1", Target.mk "a" "/s2", Target.mk "b" "/s3")
    groupByServer [b, a, c] = [("b", [b, c]), ("a", [a])] := by
  decide

/-! ## Templates -/

def fullNamePlaceholder : String := "<full_name>"
def nodeNamePlaceholder : String := "<node_name>"

/-- The tokens of a template with the names of all targets, one blank between
each two, in place of the placeholders. -/
def expandTemplate (template : String) (targets : List Target) : List String :=
  let paths := Text.join " " (targets.map Target.path)
  let names := Text.join " " (targets.map Target.nodeName)
  Text.words <|
    Text.replaceAll nodeNamePlaceholder names <|
      Text.replaceAll fullNamePlaceholder paths template

/-- The tokens of a command for one target. Only a token that is a placeholder
and nothing else is replaced. -/
def commandTokens (tokens : List String) (target : Target) : List String :=
  tokens.map fun token =>
    if token = fullNamePlaceholder then target.path
    else if token = nodeNamePlaceholder then target.nodeName
    else token

/-! ## Named templates -/

abbrev CommandTable := Table String

def CommandTable.resolve (commands : CommandTable) (name : String) :
    Except ClientError String :=
  match commands.get? name with
  | some template => .ok template
  | none => .error (.commandNotFound name)

end FlowClient
