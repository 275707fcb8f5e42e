import FlowClient.Definition
import FlowClient.Failure
import FlowClient.Text.Quoted

/-! What a client and a server say to each other. For each request the client
sends one envelope and the server answers with one reply. -/

namespace FlowClient

/-! ## Requests -/

inductive FileKind where
  | script
  | job
  | jobout
  | manual
deriving DecidableEq, Repr

namespace FileKind

def all : List FileKind := [script, job, jobout, manual]

def name : FileKind → String
  | script => "script"
  | job => "job"
  | jobout => "jobout"
  | manual => "manual"

def ofName? (name : String) : Option FileKind := all.find? (fun kind => kind.name == name)

end FileKind

inductive Request where
  | news
  | sync
  /-- Register, anew if need be, and send the whole definition. -/
  | reset (suites : List String) (autoAddNew : Bool)
  /-- A user command, as a list of tokens. -/
  | command (args : List String)
  | file (path : String) (kind : FileKind)
  | history (path : String)
  | messages (path : String)
  | stats
  | scriptPreprocess (path : String)
  | scriptEdit (path : String)
  | scriptSubmit (path : String) (lines : List String) (asAlias : Bool)
  | suiteList
  | suiteAutoRegister (autoAddNew : Bool)
deriving DecidableEq, Repr

namespace Request

def name : Request → String
  | news => "news"
  | sync => "sync"
  | reset _ _ => "reset"
  | command _ => "command"
  | file _ _ => "file"
  | history _ => "history"
  | messages _ => "messages"
  | stats => "stats"
  | scriptPreprocess _ => "script_preprocess"
  | scriptEdit _ => "script_edit"
  | scriptSubmit _ _ _ => "script_submit"
  | suiteList => "suite_list"
  | suiteAutoRegister _ => "suite_auto_register"

end Request

/-! ## Envelopes -/

/-- Who the client is: a user with a password, or the bearer of a token. -/
inductive Credential where
  | password (user secret : String)
  | token (secret : String)
deriving DecidableEq, Repr

def Credential.user? : Credential → Option String
  | password user _ => some user
  | token _ => none

def Credential.description : Credential → String
  | password user _ =>
      "Password \x7b user: " ++ Text.quoted user ++ ", password: \"<redacted>\" \x7d"
  | token _ => "Token \x7b token: \"<redacted>\" \x7d"

/-- The point up to which a client knows the server's changes. The server hands
out the handle at a reset and moves the numbers on with its replies. -/
structure Cursor where
  clientHandle : UInt64 := 0
  stateChange : UInt64 := 0
  modifyChange : UInt64 := 0
deriving DecidableEq, Repr

structure Envelope where
  credential : Credential
  cursor : Cursor
  request : Request
deriving DecidableEq, Repr

/-! ## Replies -/

inductive News where
  | noNews
  | news
  | doFullSync
deriving DecidableEq, Repr

namespace News

def all : List News := [noNews, news, doFullSync]

def name : News → String
  | noNews => "no_news"
  | news => "news"
  | doFullSync => "do_full_sync"

end News

structure Stats where
  version : String := ""
  uptimeSeconds : UInt64 := 0
  requests : UInt64 := 0
  jobs : UInt64 := 0
deriving DecidableEq, Repr

def Stats.report (stats : Stats) : String :=
  s!"version: {stats.version}\nuptime: {stats.uptimeSeconds}s\nrequests: {stats.requests}\njobs: {stats.jobs}\n"

structure Reply where
  news : Option News := none
  fullSync : Bool := false
  text : Option String := none
  lines : List String := []
  definition : Option Definition := none
  changes : List NodeUpdate := []
  stats : Option Stats := none
  cursor : Option Cursor := none
  error : Option ServerError := none

instance : Inhabited Reply := ⟨{}⟩

abbrev Outcome := Except Failure Reply

end FlowClient
