import Metasearch.Json.Printer
import Metasearch.Text.Blank
import Metasearch.Text.Case

set_option autoImplicit false

/-! # The names callers use

Callers name the index, the query text and the wish for ranking scores in the words of
whichever engine they know. Each group of names is tried in a fixed order, so that a request
with several of them still has one meaning. An empty text means that none was given.
-/

namespace Metasearch.Alias

/-- The names of the index to search. -/
def indexKeys : List String := ["index", "indexName", "indexUid"]

/-- The names of the query text. -/
def queryKeys : List String := ["term", "query", "q"]

/-- The names of the wish for ranking scores. -/
def scoreKeys : List String := ["showRankingScore", "getRankingInfo"]

/-- A value taken as text: a string, or a number by its text. -/
def text? : Json → Option String
  | .string text => some text
  | .number value => some value.text
  | _ => none

/-- The text under the first of `keys` that holds one, or the empty text. -/
def firstText (keys : List String) (entries : Fields) : String :=
  (keys.findSome? fun key => (Fields.get? entries key).bind text?).getD ""

/-- The index a request names. -/
def indexOf (entries : Fields) : String := firstText indexKeys entries

/-- The query text of a request. -/
def queryOf (entries : Fields) : String := firstText queryKeys entries

/-- Whether a value switches something on: `true`, a number other than zero, or one of a few
words in any case. -/
def isOn : Json → Bool
  | .bool value => value
  | .number value => value.toFloat != 0
  | .string text =>
    let word := Text.lowercaseAscii (String.ofList (Text.trim text.toList))
    word = "1" || word = "true" || word = "yes"
  | _ => false

/-- Whether a request asks for ranking scores. The first name with a value decides, and
`null` counts as no value. -/
def wantsScores (entries : Fields) : Bool :=
  ((scoreKeys.findSome? (Fields.getSet? entries)).map isOn).getD false

end Metasearch.Alias
