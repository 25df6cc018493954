import Metasearch.Config.Basic
import Metasearch.Engine.Basic
import Metasearch.Engine.Plan
import Metasearch.Json.Reader

set_option autoImplicit false

/-! # Connections

A connection is the address of an engine and the headers that every request carries: they show
who is asking. Both come from the configuration. A name or value that cannot stand in a header
makes the connection impossible.
-/

namespace Metasearch

structure Connection where
  /-- The address, without slashes at its end. -/
  baseUrl : String
  headers : List (String × String)
  deriving Repr, DecidableEq

namespace Connection

/-! ## Headers -/

/-- The characters of a header name. -/
def isTokenChar (c : Char) : Bool := c.isAlphanum || c ∈ "!#$%&'*+-.^_`|~".toList

def isHeaderName (name : String) : Bool :=
  !name.isEmpty && name.utf8ByteSize < Nat.pow 2 16 && name.toList.all isTokenChar

/-- A header value has no control characters except tabs. -/
def isHeaderValue (value : String) : Bool :=
  value.toList.all fun c => c = '\t' || (0x20 ≤ c.toNat && c.toNat ≠ 0x7F)

/-- The first fault among some headers. -/
def checkHeaders : List (String × String) → Except Failure Unit
  | [] => .ok ()
  | (name, value) :: rest =>
    if !isHeaderName name then .error (.invalidConfig (.headerName name))
    else if !isHeaderValue value then .error (.invalidConfig (.headerValue name))
    else checkHeaders rest

/-- A text without the slashes at its end. -/
def trimSlashes (text : String) : String :=
  String.ofList ((text.toList.reverse.dropWhile (· = '/')).reverse)

def make (baseUrl : String) (headers : List (String × String)) : Except Failure Connection := do
  checkHeaders headers
  return ⟨trimSlashes baseUrl, headers⟩

/-! ## From a configuration -/

def meilisearchHostKey : String := "meilisearch.host"

def meilisearchApiKeyKey : String := "meilisearch.api_key"

def algoliaAppIdKey : String := "algolia.app_id"

def algoliaApiKeyKey : String := "algolia.api_key"

def algoliaHostKey : String := "algolia.host"

/-- The address of an application that configures none. -/
def defaultHost (appId : String) : String := "https://" ++ appId ++ "-dsn.algolia.net"

def text? (config : Config) (key : String) : Option String :=
  (config.value? key).bind Json.string?

def requireText (config : Config) (key : String) : Except Failure String :=
  match text? config key with
  | some text => .ok text
  | none => .error (.invalidConfig (.required key))

/-- An empty key is no key. -/
def ofMeilisearch (config : Config) : Except Failure Connection := do
  let host ← requireText config meilisearchHostKey
  match (text? config meilisearchApiKeyKey).filter fun key => key ≠ "" with
  | some key => make host [("Authorization", "Bearer " ++ key)]
  | none => make host []

def ofAlgolia (config : Config) : Except Failure Connection := do
  let appId ← requireText config algoliaAppIdKey
  let apiKey ← requireText config algoliaApiKeyKey
  make ((text? config algoliaHostKey).getD (defaultHost appId))
    [("X-Algolia-Application-Id", appId), ("X-Algolia-API-Key", apiKey)]

/-- The connection to an engine that a configuration describes. -/
def ofConfig (engine : Engine) (config : Config) : Except Failure Connection :=
  match engine with
  | .meilisearch => ofMeilisearch config
  | .algolia => ofAlgolia config

/-! ## Answers -/

/-- How many characters of a refusal are kept. -/
def refusalLength : Nat := 200

/-- The answer that a status and a text make. -/
def answer (status : Nat) (text : String) : Except Failure Json :=
  if 200 ≤ status ∧ status < 300 then
    match Json.read? text with
    | some value => .ok value
    | none => .error (.connection "error decoding response body")
  else .error (.rejected status (String.ofList (text.toList.take refusalLength)))

end Connection

end Metasearch
