/-! Why a request failed: errors a server reports in its reply, and failures of
the connection itself. -/

namespace FlowClient

/-! ## Errors reported by a server -/

inductive ServerErrorKind where
  | authenticationFailed
  | notFound
  | alreadyExists
  | invalidArgument
  | internal
deriving DecidableEq, Repr

namespace ServerErrorKind

def all : List ServerErrorKind :=
  [authenticationFailed, notFound, alreadyExists, invalidArgument, internal]

def name : ServerErrorKind → String
  | authenticationFailed => "authentication_failed"
  | notFound => "not_found"
  | alreadyExists => "already_exists"
  | invalidArgument => "invalid_argument"
  | internal => "internal"

def title : ServerErrorKind → String
  | authenticationFailed => "AuthenticationFailed"
  | notFound => "NotFound"
  | alreadyExists => "AlreadyExists"
  | invalidArgument => "InvalidArgument"
  | internal => "Internal"

/-- The status that says the same in HTTP. -/
def httpStatus : ServerErrorKind → Nat
  | authenticationFailed => 401
  | notFound => 404
  | alreadyExists => 409
  | invalidArgument => 400
  | internal => 500

end ServerErrorKind

structure ServerError where
  kind : ServerErrorKind
  message : String
deriving DecidableEq, Repr

/-! ## Failures -/

inductive FailureCause where
  | authentication
  | unreachable
  | timeout
  | tls
  | rejected (kind : ServerErrorKind)
  | protocol
deriving DecidableEq, Repr

def FailureCause.description : FailureCause → String
  | authentication => "authentication failed"
  | unreachable => "host unreachable"
  | timeout => "timed out"
  | tls => "tls error"
  | rejected kind => s!"rejected ({kind.title})"
  | protocol => "protocol error"

structure Failure where
  cause : FailureCause
  message : String
deriving DecidableEq, Repr

namespace Failure

def text (failure : Failure) : String :=
  failure.cause.description ++ ": " ++ failure.message

/-- Whether the failure says something about the connection, and not only about
this request. -/
def isOfConnection (failure : Failure) : Bool :=
  match failure.cause with
  | .rejected _ => false
  | _ => true

/-- The failure behind an error that a server reports: a refused credential
concerns the connection, anything else the request. -/
def ofServerError (error : ServerError) : Failure :=
  match error.kind with
  | .authenticationFailed => ⟨.authentication, error.message⟩
  | kind => ⟨.rejected kind, error.message⟩

def invalidArgument (message : String) : Failure := ⟨.rejected .invalidArgument, message⟩

example : (ofServerError ⟨.notFound, "no /s1"⟩).text = "rejected (NotFound): no /s1" := by
  decide

end Failure

end FlowClient
