import Metasearch.Failure
import Metasearch.Hit

set_option autoImplicit false

/-! # What a search does

A search either knows its result at once or sends a single request and reads the hits off the
answer. A `Plan` says which, before anything is sent: so everything that can be said of the
request and of the failures that come before it is said of a value.

Time is part of an answer (`Timed`): it tells how long one had to wait for it.
-/

namespace Metasearch

/-- A request to an engine: a JSON body sent to a path. -/
structure Call where
  path : String
  body : Json

/-- A result and the time it took, in milliseconds. -/
structure Timed (α : Type) where
  delay : Nat
  result : Except Failure α

/-- A result that must come in time, or else is a failure. -/
def Timed.within {α : Type} (deadline : Nat) (timed : Timed α) : Except Failure α :=
  if deadline < timed.delay then .error (.timeout deadline) else timed.result

/-- The answer of an engine to the call with a given number, counted from zero. -/
abbrev Transport := Nat → Call → Timed Json

inductive Plan where
  /-- The result is known. -/
  | done (result : Except Failure (List Hit))
  /-- The hits are read off the answer to a call. -/
  | ask (call : Call) (read : Json → List Hit)

namespace Plan

/-- No hits, and no request. -/
def nothing : Plan := .done (.ok [])

def fail (failure : Failure) : Plan := .done (.error failure)

/-- The calls that a plan makes. -/
def calls : Plan → List Call
  | .done _ => []
  | .ask call _ => [call]

/-- Carries out a plan whose call would have the number `sent`. A failure that is not fatal
costs the hits and nothing else. -/
def run (plan : Plan) (transport : Transport) (sent : Nat) : Timed (List Hit) :=
  match plan with
  | .done result => ⟨0, degrade [] result⟩
  | .ask call read =>
    let answer := transport sent call
    ⟨answer.delay, degrade [] (answer.result.map read)⟩

/-- Carries out several plans that start at once, so that their calls are numbered in order. -/
def runAll (plans : List Plan) (transport : Transport) (sent : Nat) : List (Timed (List Hit)) :=
  match plans with
  | [] => []
  | plan :: rest => plan.run transport sent :: runAll rest transport (sent + plan.calls.length)

end Plan

end Metasearch
