import Metasearch.Json.Basic

set_option autoImplicit false

/-! # Hits

A hit is a document as the engine returned it, with up to two scores beside it. The engine's
own ranking score is read from the document and stays in it; the blended score belongs to the
federation and is written as a last field of its own.
-/

namespace Metasearch

structure Hit where
  fields : Fields
  /-- The blended score, once the hit has been through a blend. -/
  score : Option Float
  /-- The engine's own judgement of relevance, where it gave one. -/
  ranking : Option Float
  deriving Inhabited

namespace Hit

/-- The field that shows the blended score. -/
def scoreField : String := "_score"

/-- The hit for a document. Only objects are documents. -/
def ofJson? (ranking : Fields → Option Float) : Json → Option Hit
  | .object fields => some ⟨fields, none, ranking fields⟩
  | _ => none

/-- Sets the blended score. A field of that name in the document gives way to it. -/
def setScore (hit : Hit) (score : Float) : Hit :=
  { hit with fields := Fields.erase hit.fields scoreField, score := some score }

/-- The hit as an object: the document, then the blended score if there is one. -/
def toJson (hit : Hit) : Json :=
  match hit.score with
  | none => .object hit.fields
  | some score => .object (hit.fields ++ [(scoreField, .ofFloat score)])

/-- The hits in the answer of an engine: the documents in its list `hits`. -/
def listOfAnswer (ranking : Fields → Option Float) (answer : Json) : List Hit :=
  match answer with
  | .object entries =>
    match Fields.get? entries "hits" with
    | some (.array items) => items.filterMap (ofJson? ranking)
    | _ => []
  | _ => []

end Hit

end Metasearch
