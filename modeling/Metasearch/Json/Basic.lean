set_option autoImplicit false

/-! # JSON values

The documents, payloads and request bodies of this library are JSON values. Objects keep
their entries in the order of insertion, and that order is visible in every text they are
written to, so an object is a list of entries rather than a finite map.

Three operations change an object (`Fields`). `insert` overwrites in place or appends,
`insertNew` only appends, and `erase` fills the hole with the *last* entry, which costs no
shifting but reorders the rest. The lemmas at the end say what each does to look-up.
-/

namespace Metasearch

/-- A JSON number. Integers are kept apart from floating-point numbers, so that `1` and `1.0`
remain different texts. -/
inductive Number where
  /-- An integer within the signed or unsigned 64-bit range. -/
  | integer (value : Int)
  | real (value : Float)

/-- A JSON value. -/
inductive Json where
  | null
  | bool (value : Bool)
  | number (value : Number)
  | string (text : String)
  | array (items : List Json)
  | object (entries : List (String × Json))
  deriving Inhabited

/-- The entries of an object in order of insertion. -/
abbrev Fields := List (String × Json)

/-- One more than the largest number of 64 bits. -/
def wordBound : Nat := Nat.pow 2 64

namespace Number

/-- The number as a floating-point number, rounded if need be. -/
def toFloat : Number → Float
  | .integer value =>
    let magnitude := Float.ofScientific value.natAbs false 0
    if value < 0 then -magnitude else magnitude
  | .real value => value

/-- The number as a natural number, if it is one and is written as one. -/
def natural? : Number → Option Nat
  | .integer value => if value < 0 then none else some value.toNat
  | .real _ => none

end Number

namespace Json

/-- The value of a natural number. -/
def ofNat (value : Nat) : Json := .number (.integer value)

/-- The value of a floating-point number; infinities and not-a-number have none and become
`null`. -/
def ofFloat (value : Float) : Json :=
  if value.isNaN || value.isInf then .null else .number (.real value)

/-- A list of strings. -/
def ofStrings (texts : List String) : Json := .array (texts.map .string)

def isNull : Json → Bool
  | .null => true
  | _ => false

def string? : Json → Option String
  | .string text => some text
  | _ => none

def array? : Json → Option (List Json)
  | .array items => some items
  | _ => none

def object? : Json → Option Fields
  | .object entries => some entries
  | _ => none

/-- The value as a floating-point number, if it is a number of any kind. -/
def float? : Json → Option Float
  | .number value => some value.toFloat
  | _ => none

/-- The value as a natural number, if it is one and is written as one. -/
def natural? : Json → Option Nat
  | .number value => value.natural?
  | _ => none

end Json

namespace Fields

/-- The keys in order. -/
def keys (entries : Fields) : List String := entries.map Prod.fst

/-- The value at a key. -/
def get? (entries : Fields) (key : String) : Option Json :=
  match entries with
  | [] => none
  | (name, value) :: rest => if name = key then some value else get? rest key

/-- Whether a key is present, whatever its value. -/
def contains (entries : Fields) (key : String) : Bool := (get? entries key).isSome

/-- The value at a key, taking `null` for absent. -/
def getSet? (entries : Fields) (key : String) : Option Json :=
  (get? entries key).filter fun value => !value.isNull

/-- Sets a key: in place if it is present, else at the end. -/
def insert (entries : Fields) (key : String) (value : Json) : Fields :=
  match entries with
  | [] => [(key, value)]
  | (name, old) :: rest =>
    if name = key then (name, value) :: rest else (name, old) :: insert rest key value

/-- Sets a key that is not present yet; leaves a present one alone. -/
def insertNew (entries : Fields) (key : String) (value : Json) : Fields :=
  if contains entries key then entries else entries ++ [(key, value)]

/-- Removes a key. The last entry moves into the hole. -/
def erase (entries : Fields) (key : String) : Fields :=
  match entries with
  | [] => []
  | (name, value) :: rest =>
    if name = key then
      match rest.getLast? with
      | none => []
      | some last => last :: rest.dropLast
    else (name, value) :: erase rest key

/-- Removes each of `names` in turn. -/
def eraseAll (entries : Fields) (names : List String) : Fields :=
  names.foldl erase entries

/-- Sets every entry of `others` in turn. -/
def insertAll (entries others : Fields) : Fields :=
  others.foldl (fun entries entry => insert entries entry.1 entry.2) entries

/-- Adds the entries of `others` whose keys are not present. -/
def insertAllNew (entries others : Fields) : Fields :=
  others.foldl (fun entries entry => insertNew entries entry.1 entry.2) entries

/-- An object read from entries that may repeat a key: a repeated key keeps its first
position and its last value. -/
def ofEntries (entries : List (String × Json)) : Fields := insertAll [] entries

/-- No key occurs twice. -/
def Distinct (entries : Fields) : Prop := (keys entries).Nodup

/-! ## Look-up after a change -/

@[simp] theorem get?_nil (key : String) : get? [] key = none := rfl

theorem get?_cons (name key : String) (value : Json) (rest : Fields) :
    get? ((name, value) :: rest) key = if name = key then some value else get? rest key := rfl

theorem get?_insert (entries : Fields) (key other : String) (value : Json) :
    get? (insert entries key value) other =
      if key = other then some value else get? entries other := by
  induction entries with
  | nil => rfl
  | cons entry rest ih =>
    obtain ⟨name, old⟩ := entry
    by_cases hname : name = key
    · subst hname
      by_cases hother : name = other <;> simp [insert, get?, hother]
    · by_cases hother : name = other
      · subst hother
        simp [insert, get?, hname, Ne.symm hname]
      · simp [insert, get?, hname, hother, ih]

theorem get?_append (entries others : Fields) (key : String) :
    get? (entries ++ others) key = (get? entries key).or (get? others key) := by
  induction entries with
  | nil => simp
  | cons entry rest ih =>
    obtain ⟨name, value⟩ := entry
    by_cases hname : name = key <;> simp [get?, hname, ih]

theorem get?_insertNew (entries : Fields) (key other : String) (value : Json) :
    get? (insertNew entries key value) other =
      (get? entries other).or (if key = other then some value else none) := by
  unfold insertNew
  cases hkey : contains entries key with
  | true =>
    by_cases hother : key = other
    · subst hother
      obtain ⟨found, hfound⟩ := Option.isSome_iff_exists.1 hkey
      simp [hfound]
    · simp [hother]
  | false =>
    simp [get?_append, get?_cons]

end Fields

end Metasearch
