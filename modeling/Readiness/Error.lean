import Readiness.Duration

/-!
# Errors — the causes of a failed operation

* `Error` lists the causes; each carries the identity of what failed;
* `Error.message` is the text shown to a reader;
* `Error.isRetryable` holds of the causes that may pass by themselves;
* `Error.context?` is the resource, endpoint, path or condition that the error is about.
-/

namespace Readiness

/-- The cause of a failed operation. -/
inductive Error where
  -- A condition did not hold before the deadline.
  | timeout (description : String) (elapsed : Duration) (lastObserved : Option String)
  -- Nothing in the listing matched the selector.
  | notFound (kind namespaceName selector : String)
  -- A tunnel could not be established, or died.
  | tunnel (endpoint reason : String)
  -- A resource could not be observed.
  | observation (resource reason : String)
  -- An argument is invalid.
  | validation (reason : String)
  -- A manifest could not be read or applied.
  | manifest (path reason : String)
  -- A setting is invalid.
  | config (context reason : String)
  -- The local system refused an input or output operation.
  | io (reason : String)
deriving DecidableEq, Repr, Inhabited

namespace Error

def unknownEndpoint : String := "unknown"

def message : Error → String
  | timeout description elapsed lastObserved =>
      "timed out after " ++ elapsed.render ++ " waiting for " ++ description ++
        " (last observed: " ++ lastObserved.getD "nothing" ++ ")"
  | notFound kind namespaceName selector =>
      "no " ++ kind ++ " found in namespace " ++ namespaceName ++ " matching " ++ selector
  | tunnel endpoint reason => "tunnel error for " ++ endpoint ++ ": " ++ reason
  | observation resource reason => "observation error for " ++ resource ++ ": " ++ reason
  | validation reason => "validation error: " ++ reason
  | manifest path reason => "manifest error [" ++ path ++ "]: " ++ reason
  | config context reason => "config error [" ++ context ++ "]: " ++ reason
  | io reason => "io error: " ++ reason

/-- Failures of a remote or local system may pass by themselves; all others need other input. -/
def isRetryable : Error → Bool
  | observation .. | tunnel .. | io .. => true
  | _ => false

def context? : Error → Option String
  | timeout description _ _ => some description
  | tunnel endpoint _ => some endpoint
  | observation resource _ => some resource
  | manifest path _ => some path
  | config context _ => some context
  | notFound .. | validation .. | io .. => none

def isTimeout : Error → Bool
  | timeout .. => true
  | _ => false

end Error

end Readiness
