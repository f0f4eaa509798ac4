import CsiPowerscale.GoLib.Strings

namespace CsiPowerscale
open GoLib

inductive Code
  | canceled
  | deadlineExceeded
  | invalidArgument
  | notFound
  | alreadyExists
  | failedPrecondition
  | aborted
  | outOfRange
  | internal
  | unknown
  deriving DecidableEq

def Code.text : Code → Str
  | .canceled => "Canceled"
  | .deadlineExceeded => "DeadlineExceeded"
  | .invalidArgument => "InvalidArgument"
  | .notFound => "NotFound"
  | .alreadyExists => "AlreadyExists"
  | .failedPrecondition => "FailedPrecondition"
  | .aborted => "Aborted"
  | .outOfRange => "OutOfRange"
  | .internal => "Internal"
  | .unknown => "Unknown"

/-- A Go `error`: an API error of the array client, a plain text, one that wraps another error
(`%w`), a gRPC status, the expiry of a context, or a run-time panic, as of an index out of range. -/
inductive Err
  | json (statusCode : Nat) (message : Str)
  | plain (message : Str)
  | wrapped (message : Str) (inner : Err)
  | status (code : Code) (message : Str)
  | deadline
  | panic
  deriving DecidableEq

namespace Err

/-- `err.Error()`. -/
def text : Err → Str
  | json _ m => m
  | plain m => m
  | wrapped m _ => m
  | status c m => sprintf ["rpc error: code = ", c.text, " desc = ", m]
  | deadline => "context deadline exceeded"
  | panic => "runtime error: index out of range"

/-- The status code found by the type assertion `err.(*isiApi.JSONError)`. -/
def jsonStatus : Err → Option Nat
  | json n _ => some n
  | _ => none

/-- The status code found by `errors.As(err, &jsonErr)`, which also looks at wrapped errors. -/
def asJSON : Err → Option Nat
  | json n _ => some n
  | wrapped _ e => e.asJSON
  | _ => none

/-- `errors.Is(err, context.DeadlineExceeded)`. -/
def isDeadline : Err → Bool
  | deadline => true
  | wrapped _ e => e.isDeadline
  | _ => false

/-- `status.FromError` recognises the error. -/
def isStatus : Err → Bool
  | status _ _ => true
  | wrapped _ e => e.isStatus
  | _ => false

end Err

def getMessageWithReqID (reqID : Str) (parts : List Str) : Str :=
  sprintf [" ReqID=", reqID, " ", sprintf parts]

end CsiPowerscale
