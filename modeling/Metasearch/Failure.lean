import Metasearch.Filter.Obstacle
import Metasearch.Json.Mistake

set_option autoImplicit false

/-! # Failures

Everything that can keep a search from succeeding. Most failures cost only the hits they
stand for: the search goes on and returns what is left. A failure that lies in the caller's
own conditions is *fatal* and is reported instead.
-/

namespace Metasearch

/-- What is wrong with a configuration. -/
inductive ConfigFault where
  /-- A key that is absent or holds a value of another kind. -/
  | unreadable (key : String)
  | required (key : String)
  | negative (key : String)
  | notPositive (key : String)
  | headerName (name : String)
  | headerValue (name : String)

def ConfigFault.message : ConfigFault → String
  | .unreadable key => "Failed to get '" ++ key ++ "'"
  | .required key => key ++ " is required"
  | .negative key => key ++ " must not be negative"
  | .notPositive key => key ++ " must be positive"
  | .headerName name => "header name '" ++ name ++ "': invalid HTTP header name"
  | .headerValue name => "header '" ++ name ++ "': failed to parse header value"

/-- Why a request was not carried out. -/
inductive Refusal where
  /-- The payload of a search for one index is no object. -/
  | searchPayload
  /-- The payload of a search over several indexes is no object. -/
  | federatedPayload

def Refusal.message : Refusal → String
  | .searchPayload => "search payload must be a JSON object"
  | .federatedPayload => "federated payload must be a JSON object"

/-- A failure of a search, a configuration or a connection. -/
inductive Failure where
  | invalidConfig (fault : ConfigFault)
  /-- Conditions that are not written as they should be. -/
  | invalidFilter (mistake : Mistake)
  /-- Conditions that the named engine cannot express. -/
  | unsupported (engine : String) (obstacle : Obstacle)
  /-- The engine could not be reached, or its answer could not be read. -/
  | connection (reason : String)
  /-- The engine answered with a status that tells of no success. -/
  | rejected (status : Nat) (message : String)
  /-- A part of a payload other than the conditions is not as it should be. -/
  | malformed (mistake : Mistake)
  | timeout (milliseconds : Nat)
  | refused (refusal : Refusal)

/-- Whether a failure is reported rather than answered with no hits. -/
def Failure.isFatal : Failure → Bool
  | .invalidFilter _ => true
  | .unsupported _ _ => true
  | _ => false

def Failure.message : Failure → String
  | .invalidConfig fault => "Invalid configuration: " ++ fault.message
  | .invalidFilter mistake => "Invalid filter: " ++ mistake.message
  | .unsupported engine obstacle =>
    "Unsupported condition for " ++ engine ++ ": " ++ obstacle.message
  | .connection reason => "HTTP error: " ++ reason
  | .rejected status message => "Backend returned " ++ toString status ++ ": " ++ message
  | .malformed mistake => "JSON error: " ++ mistake.message
  | .timeout milliseconds => "Request timed out after " ++ toString milliseconds ++ " ms"
  | .refused refusal => "Operation failed: " ++ refusal.message

/-- Replaces a failure that is not fatal by a result. -/
def degrade {α : Type} (fallback : α) : Except Failure α → Except Failure α
  | .ok value => .ok value
  | .error failure => if failure.isFatal then .error failure else .ok fallback

end Metasearch
