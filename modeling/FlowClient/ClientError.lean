import FlowClient.Failure
import FlowClient.Mirror
import FlowClient.Text.Causes

/-! Everything that can go wrong for whoever uses the client. -/

namespace FlowClient

inductive ClientError where
  | configuration (message : String)
  | file (message : String)
  | grammar (message : String)
  | serverNotFound (name : String)
  | commandNotFound (name : String)
  | failure (cause : Failure)
  | mirror (problem : MirrorError)
  | sessionClosed (name : String)
  | other (message : String)
deriving DecidableEq, Repr

def ClientError.message : ClientError → String
  | configuration message => "Configuration error: " ++ message
  | file message => "IO error: " ++ message
  | grammar message => "TOML parsing error: " ++ message
  | serverNotFound name => "Server not found: " ++ name
  | commandNotFound name => "Command not registered: " ++ name
  | .failure cause => "Connection error: " ++ cause.text
  | mirror problem => "Internal error: " ++ problem.message
  | sessionClosed name => s!"Session '{name}' is closed"
  | other message => message

/-- What lies behind an error, where its message does not say it all. -/
def ClientError.causes : ClientError → List String
  | file message => [message]
  | grammar message => [message]
  | .failure cause => [cause.text]
  | mirror problem => [problem.message]
  | _ => []

/-- An error with all that lies behind it. -/
def ClientError.explanation (error : ClientError) : String :=
  Text.withCauses error.message error.causes

end FlowClient
