import Metasearch.Condition.Basic
import Metasearch.Proofs.Text.Characters
import Metasearch.Proofs.Text.Literals
import Mathlib.Data.List.Forall2

set_option autoImplicit false

/-! # Filter text as symbols

A filter text mixes the words of the filter language with quoted values, and a value may hold
anything, the words of the language included. Whoever reads such a text therefore passes over
the literals first: after an opening quote a backslash takes the next character literally, and
the first other quote closes the literal.

`symbols?` does just that. What it leaves is a list in which every literal is *one* symbol and
every other character stands for itself, so that a search for a connective among the symbols
cannot be misled by a value. The lemmas say which symbols the pieces of a written filter have
(`Spells`), whatever follows them.
-/

namespace Metasearch.Text

/-- A character outside every literal, or a literal as a whole. -/
inductive Symbol where
  | plain (c : Char)
  | literal (content : List Char)
  deriving Repr, DecidableEq

/-- Reads the symbols of a text. `pending` holds the characters of a literal that is still
open, last first. A literal that is never closed makes the text unreadable. -/
def symbolsFrom : Option (List Char) → List Char → Option (List Symbol)
  | none, [] => some []
  | some _, [] => none
  | none, c :: rest =>
    if c = '"' then symbolsFrom (some []) rest
    else (symbolsFrom none rest).map (.plain c :: ·)
  | some pending, '\\' :: c :: rest => symbolsFrom (some (c :: pending)) rest
  | some pending, c :: rest =>
    if c = '"' then (symbolsFrom none rest).map (.literal pending.reverse :: ·)
    else symbolsFrom (some (c :: pending)) rest

/-- The symbols of a text. -/
def symbols? (text : List Char) : Option (List Symbol) := symbolsFrom none text

/-- Characters outside every literal. -/
def plains (text : List Char) : List Symbol := text.map .plain

@[simp] theorem plains_nil : plains [] = [] := rfl

@[simp] theorem plains_cons (c : Char) (text : List Char) :
    plains (c :: text) = .plain c :: plains text := rfl

@[simp] theorem plains_append (text other : List Char) :
    plains (text ++ other) = plains text ++ plains other := List.map_append

theorem mem_plains {c : Char} {text : List Char} : .plain c ∈ plains text ↔ c ∈ text := by
  simp [plains]

/-- The characters of symbols none of which is a literal. -/
def characters? : List Symbol → Option (List Char)
  | [] => some []
  | .plain c :: rest => (characters? rest).map (c :: ·)
  | .literal _ :: _ => none

theorem characters?_plains (text : List Char) : characters? (plains text) = some text := by
  induction text with
  | nil => rfl
  | cons c text ih => rw [plains_cons, characters?, ih, Option.map_some]

/-- The word that a text is, outside every literal. -/
def word (text : String) : List Symbol := plains text.toList

@[simp] theorem word_append (text other : String) :
    word (text ++ other) = word text ++ word other := by
  rw [word, String.toList_append, plains_append]
  rfl

/-- The text of a word. -/
def readWord? (symbols : List Symbol) : Option String := (characters? symbols).map String.ofList

theorem readWord?_word (text : String) : readWord? (word text) = some text := by
  rw [readWord?, word, characters?_plains, Option.map_some, String.ofList_toList]

theorem word_injective {text other : String} (h : word text = word other) : text = other := by
  have hread := readWord?_word text
  rw [h, readWord?_word] at hread
  exact (Option.some.inj hread).symm

theorem mem_word {c : Char} {text : String} : .plain c ∈ word text ↔ c ∈ text.toList := mem_plains

/-! ## Signs -/

/-- The comparison with a given sign. -/
def readComparison? (symbols : List Symbol) : Option Comparison :=
  [.equal, .notEqual, .greater, .greaterEqual, .less, .lessEqual].find? fun comparison =>
    word comparison.symbol = symbols

theorem readComparison?_symbol (comparison : Comparison) :
    readComparison? (word comparison.symbol) = some comparison := by
  cases comparison <;> decide

/-! ## Reading on after a piece of text -/

/-- **The text `text` spells the symbols `symbols`**: whatever follows, these symbols are read
off the text and reading goes on behind it. -/
def Spells (text : List Char) (symbols : List Symbol) : Prop :=
  ∀ rest, symbols? (text ++ rest) = (symbols? rest).map (symbols ++ ·)

theorem Spells.symbols?_eq {text : List Char} {symbols : List Symbol} (h : Spells text symbols) :
    symbols? text = some symbols := by
  have hrest := h []
  rw [List.append_nil] at hrest
  rw [hrest]
  simp [symbols?, symbolsFrom]

theorem Spells.nil : Spells [] [] := by
  intro rest
  simp

theorem Spells.append {text other : List Char} {symbols others : List Symbol}
    (h : Spells text symbols) (h' : Spells other others) :
    Spells (text ++ other) (symbols ++ others) := by
  intro rest
  rw [List.append_assoc, h, h', Option.map_map]
  congr 1
  funext tail
  simp

/-- A text without a quote spells its own characters. -/
theorem Spells.plains {text : List Char} (h : '"' ∉ text) : Spells text (plains text) := by
  induction text with
  | nil => exact Spells.nil
  | cons c text ih =>
    intro rest
    have hc : c ≠ '"' := fun heq => h (by simp [heq])
    have htext : '"' ∉ text := fun hmem => h (List.mem_cons_of_mem c hmem)
    show symbolsFrom none (c :: (text ++ rest)) = _
    rw [symbolsFrom, if_neg hc]
    show (symbols? (text ++ rest)).map _ = _
    rw [ih htext rest, Option.map_map]
    rfl

theorem Spells.word {text : String} (h : '"' ∉ text.toList) : Spells text.toList (word text) :=
  Spells.plains h

/-- Inside a literal the reader goes on as the reader of a single literal does, and behind the
closing quote with the next symbol. -/
theorem symbolsFrom_pending (pending text : List Char) :
    symbolsFrom (some pending) text = (content? text).bind fun read =>
      (symbols? read.2).map (.literal (pending.reverse ++ read.1) :: ·) := by
  induction text using content_induction generalizing pending with
  | nil => rfl
  | slash => rfl
  | escaped c text ih =>
    rw [symbolsFrom, ih, content?_escaped]
    cases content? text with
    | none => rfl
    | some read => simp
  | closed text =>
    rw [content?_closed, symbolsFrom.eq_def]
    simp [symbols?]
  | plain c text hquote hslash ih =>
    rw [content?_plain hquote hslash, symbolsFrom, if_neg hquote, ih]
    · cases content? text with
      | none => rfl
      | some read => simp
    · -- the equation for a backslash is not the one that applies
      rintro c' text' rfl
      exact fun _ => hslash rfl

/-- **A quoted text is one symbol**, which holds the text, however it reads. -/
theorem Spells.quote (text : String) : Spells (quote text).toList [.literal text.toList] := by
  intro rest
  rw [quote_append]
  show symbolsFrom none ('"' :: _) = _
  rw [symbolsFrom, if_pos rfl, symbolsFrom_pending, content?_escapeQuotes]
  rfl

/-- Pieces joined by a separator spell their symbols, joined by those of the separator. -/
theorem Spells.intercalate_forall₂ {separator : List Char} {between : List Symbol}
    (hseparator : Spells separator between) {texts : List (List Char)}
    {symbols : List (List Symbol)} (h : List.Forall₂ Spells texts symbols) :
    Spells (separator.intercalate texts) (between.intercalate symbols) := by
  induction h with
  | nil => exact Spells.nil
  | @cons text piece texts symbols htext hrest ih =>
    cases hrest with
    | nil => simpa using htext
    | cons _ _ =>
      simp only [List.intercalate_cons_cons]
      exact (htext.append hseparator).append ih

theorem Spells.intercalate {α : Type} {separator : List Char} {between : List Symbol}
    (hseparator : Spells separator between) (text : α → List Char) (symbols : α → List Symbol)
    (items : List α) (h : ∀ item ∈ items, Spells (text item) (symbols item)) :
    Spells (separator.intercalate (items.map text))
      (between.intercalate (items.map symbols)) := by
  refine hseparator.intercalate_forall₂ ?_
  rw [List.forall₂_map_left_iff, List.forall₂_map_right_iff]
  exact List.forall₂_same.mpr h

end Metasearch.Text
