import FlowClient.Config
import FlowClient.Toml.Parser

/-! Configurations in TOML documents. Every entry that is not known is an error. -/

namespace FlowClient

open Toml

def ClientSettings.reader : Reader ClientSettings :=
  .record ["refresh_interval", "retry_period", "timeout"] fun fields => do
    let refreshInterval ← Reader.defaulted fields "refresh_interval" 60 .word
    let retryPeriod ← Reader.defaulted fields "retry_period" 1 .word
    let timeout ← Reader.defaulted fields "timeout" 30 .word
    some { refreshInterval, retryPeriod, timeout }

def SuiteFilter.documentReader : Toml.Reader SuiteFilter :=
  .record ["enabled", "auto_add_new", "suites"] fun fields => do
    let enabled ← Reader.defaulted fields "enabled" false .flag
    let autoAddNew ← Reader.defaulted fields "auto_add_new" false .flag
    let suites ← Reader.defaulted fields "suites" [] (.list .text)
    some { enabled, autoAddNew, suites := .ofNames suites }

def ServerEntry.reader : Reader ServerEntry :=
  .record ["host", "port", "user", "password", "token", "ssl", "refresh_interval",
      "suite_filter"] fun fields => do
    let host ← Reader.required fields "host" .text
    let port ← Reader.required fields "port" .text
    let user ← Reader.optional fields "user" .text
    let password ← Reader.optional fields "password" .text
    let token ← Reader.optional fields "token" .text
    let ssl ← Reader.defaulted fields "ssl" false .flag
    let refreshInterval ← Reader.optional fields "refresh_interval" .word
    let filter ← Reader.optional fields "suite_filter" SuiteFilter.documentReader
    some { host, port, user, password, token, ssl, refreshInterval, filter }

def ConfigDraft.reader : Reader ConfigDraft :=
  .record ["client", "commands", "server"] fun fields => do
    let client ← Reader.defaulted fields "client" {} ClientSettings.reader
    let commands ← Reader.defaulted fields "commands" .empty (.table .text)
    let servers ← Reader.defaulted fields "server" .empty (.table ServerEntry.reader)
    some { client, commands, servers }

/-! ## Files -/

inductive FileProblem where
  | missing
  | directory
  | encoding
  | other (reason : String)
deriving DecidableEq, Repr

def FileProblem.reason : FileProblem → String
  | missing => "No such file or directory (os error 2)"
  | directory => "Is a directory (os error 21)"
  | encoding => "stream did not contain valid UTF-8"
  | other reason => reason

/-- Where the configuration is if nothing else is said. -/
def defaultConfigPath : String := "Suitelink.toml"

def ConfigDraft.ofText (document : String) : Except ClientError ConfigDraft :=
  match (Toml.parse? document).bind reader with
  | some draft => .ok draft
  | none => .error (.grammar "the document is not a configuration")

def ConfigDraft.ofFile : Except FileProblem ByteArray → Except ClientError ConfigDraft
  | .error problem => .error (.file problem.reason)
  | .ok bytes =>
      match String.fromUTF8? bytes with
      | some document => ofText document
      | none => .error (.file FileProblem.encoding.reason)

def Config.ofFile (contents : Except FileProblem ByteArray) : Except ClientError Config :=
  (ConfigDraft.ofFile contents).bind ConfigDraft.check

end FlowClient
