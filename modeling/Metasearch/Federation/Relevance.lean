import Metasearch.Hit
import Metasearch.Text.Blank
import Metasearch.Text.Case

set_option autoImplicit false

/-! # Relevance by common terms

After the engine has answered, hits can be ranked once more by how many words of the query
they contain. A word counts if it occurs, without regard to case, in a text anywhere in the
document. Hits with none of the words are dropped.
-/

namespace Metasearch.Federation

/-- A judgement of hits against a query. -/
abbrev RelevanceFilter := String → List Hit → List Hit

mutual

/-- All texts inside a value, each followed by a space. -/
def collectText : Json → List Char
  | .string text => text.toList ++ [' ']
  | .array items => collectItems items
  | .object entries => collectEntries entries
  | _ => []

def collectItems : List Json → List Char
  | [] => []
  | item :: rest => collectText item ++ collectItems rest

def collectEntries : List (String × Json) → List Char
  | [] => []
  | (_, value) :: rest => collectText value ++ collectEntries rest

end

/-- Whether `part` occurs in a text. -/
def occursIn (part : List Char) : List Char → Bool
  | [] => part.isEmpty
  | c :: rest => part.isPrefixOf (c :: rest) || occursIn part rest

/-- The number of terms that occur in a document. -/
def overlap (terms : List (List Char)) (hit : Hit) : Nat :=
  let text := Text.lowercase (collectEntries hit.fields)
  terms.countP fun term => occursIn term text

/-- The words of a query in lowercase. -/
def queryTerms (query : String) : List (List Char) :=
  Text.words (Text.lowercase query.toList)

/-- The hits that share a term with the query, by descending number of shared terms. A query
without terms leaves the hits as they are. -/
def termOverlap : RelevanceFilter := fun query hits =>
  let terms := queryTerms query
  if terms.isEmpty then hits
  else
    let judged := hits.map fun hit => (overlap terms hit, hit)
    let shared := judged.filter fun judgement => 0 < judgement.1
    (shared.mergeSort fun a b => b.1 ≤ a.1).map Prod.snd

end Metasearch.Federation
