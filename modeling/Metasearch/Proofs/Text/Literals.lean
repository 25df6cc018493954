import Mathlib.Logic.Function.Basic
import Metasearch.Text.Quoted

set_option autoImplicit false

/-! # Reading one literal

Behind an opening quote a backslash takes the next character literally, and the first other quote
closes the literal. `literal?` reads by this rule: it gives the text of one literal and what is
left behind it, and nothing if the literal is never closed.

Such a reader does not look past the closing quote (`literal?_append`), and the backslashes of a
quoted text keep it from stopping earlier (`content?_escapeQuotes`). So a quoted text says itself
where it ends, whatever it holds and whatever follows (`quoted_texts_delimit_themselves`).
-/

namespace Metasearch.Text

/-- Reads on behind an opening quote: the characters up to the closing quote, and the rest. -/
def content? : List Char → Option (List Char × List Char)
  | [] => none
  | '\\' :: c :: rest => (content? rest).map fun read => (c :: read.1, read.2)
  | c :: rest =>
    if c = '"' then some ([], rest)
    else (content? rest).map fun read => (c :: read.1, read.2)

/-- Reads a literal at the beginning of a text: what it holds, and the rest. -/
def literal? : List Char → Option (List Char × List Char)
  | [] => none
  | c :: rest => if c = '"' then content? rest else none

/-! ## Character by character -/

theorem content?_escaped (c : Char) (rest : List Char) :
    content? ('\\' :: c :: rest) = (content? rest).map fun read => (c :: read.1, read.2) := by
  rw [content?]

theorem content?_closed (rest : List Char) : content? ('"' :: rest) = some ([], rest) := by
  rw [content?.eq_def]
  simp

theorem content?_plain {c : Char} (hquote : c ≠ '"') (hslash : c ≠ '\\') (rest : List Char) :
    content? (c :: rest) = (content? rest).map fun read => (c :: read.1, read.2) := by
  rw [content?, if_neg hquote]
  -- the equation for a backslash is not the one that applies
  rintro c' rest' rfl
  exact fun _ => hslash rfl

theorem literal?_open (rest : List Char) : literal? ('"' :: rest) = content? rest := by
  rw [literal?, if_pos rfl]

/-- Induction along the reader of a literal: on a pair that a backslash takes, and on single
characters otherwise. -/
theorem content_induction {motive : List Char → Prop} (nil : motive [])
    (slash : motive ['\\'])
    (escaped : ∀ c text, motive text → motive ('\\' :: c :: text))
    (closed : ∀ text, motive ('"' :: text))
    (plain : ∀ c text, c ≠ '"' → c ≠ '\\' → motive text → motive (c :: text))
    (text : List Char) : motive text := by
  induction text using content?.induct with
  | case1 => exact nil
  | case2 c text ih => exact escaped c text ih
  | case3 text => exact closed text
  | case4 c text hpair hquote ih =>
    by_cases hslash : c = '\\'
    · subst hslash
      cases text with
      | nil => exact slash
      | cons d text => exact (hpair d text rfl rfl).elim
    · exact plain c text hquote hslash ih

/-! ## What is read of a quoted text -/

/-- The backslashes carry the reader over every quote and backslash of the text. -/
theorem content?_escapeQuotes (text rest : List Char) :
    content? (escapeQuotes text ++ '"' :: rest) = some (text, rest) := by
  induction text with
  | nil => exact content?_closed rest
  | cons c text ih =>
    by_cases hc : c = '"' ∨ c = '\\'
    · rw [escapeQuotes, if_pos hc, List.cons_append, List.cons_append, content?_escaped, ih]
      rfl
    · obtain ⟨hquote, hslash⟩ := not_or.mp hc
      rw [escapeQuotes, if_neg hc, List.cons_append, content?_plain hquote hslash, ih]
      rfl

theorem quote_append (text : String) (rest : List Char) :
    (quote text).toList ++ rest = '"' :: (escapeQuotes text.toList ++ '"' :: rest) := by
  rw [quote, String.toList_ofList, List.cons_append, List.append_assoc, List.singleton_append]

/-- A quoted text is read back, and what follows is left. -/
theorem literal?_quote (text : String) (rest : List Char) :
    literal? ((quote text).toList ++ rest) = some (text.toList, rest) := by
  rw [quote_append, literal?_open, content?_escapeQuotes]

/-! ## What follows a literal -/

/-- Where a literal is closed is decided by the characters up to there. -/
theorem content?_append {text content rest : List Char} (h : content? text = some (content, rest))
    (more : List Char) : content? (text ++ more) = some (content, rest ++ more) := by
  induction text using content_induction generalizing content with
  | nil => cases h
  | slash => cases h
  | escaped c text ih =>
    rw [content?_escaped] at h
    obtain ⟨⟨inner, rest⟩, hinner, heq⟩ := Option.map_eq_some_iff.mp h
    cases heq
    rw [List.cons_append, List.cons_append, content?_escaped, ih hinner]
    rfl
  | closed text =>
    rw [content?_closed] at h
    cases h
    exact content?_closed (rest ++ more)
  | plain c text hquote hslash ih =>
    rw [content?_plain hquote hslash] at h
    obtain ⟨⟨inner, rest⟩, hinner, heq⟩ := Option.map_eq_some_iff.mp h
    cases heq
    rw [List.cons_append, content?_plain hquote hslash, ih hinner]
    rfl

theorem literal?_append {text content rest : List Char} (h : literal? text = some (content, rest))
    (more : List Char) : literal? (text ++ more) = some (content, rest ++ more) := by
  cases text with
  | nil => cases h
  | cons c text =>
    by_cases hc : c = '"'
    · subst hc
      rw [literal?_open] at h
      rw [List.cons_append, literal?_open, content?_append h]
    · rw [literal?, if_neg hc] at h
      cases h

/-- **A quoted text that is cut short is not closed**, wherever it is cut. -/
theorem literal?_take_quote (text : String) (length : Nat) :
    literal? ((quote text).toList.take length)
      = if length < (quote text).toList.length then none else some (text.toList, []) := by
  have hwhole : literal? (quote text).toList = some (text.toList, []) := by
    simpa using literal?_quote text []
  by_cases hlength : length < (quote text).toList.length
  · rw [if_pos hlength]
    cases hread : literal? ((quote text).toList.take length) with
    | none => rfl
    | some read =>
      -- the whole text would be read to the same place, and leave what was cut off
      have hmore := literal?_append hread ((quote text).toList.drop length)
      rw [List.take_append_drop, hwhole] at hmore
      have hrest : [] = read.2 ++ (quote text).toList.drop length :=
        congrArg Prod.snd (Option.some.inj hmore)
      have hdrop : (quote text).toList.drop length = [] :=
        (List.append_eq_nil_iff.mp hrest.symm).2
      have hle : (quote text).toList.length ≤ length := List.drop_eq_nil_iff.mp hdrop
      omega
  · rw [if_neg hlength, List.take_of_length_le (Nat.le_of_not_lt hlength), hwhole]

/-! ## Where a quoted text ends -/

/-- Two texts that begin with a quoted text begin with the same one, if they are the same. -/
theorem quote_append_inj {text other : String} {rest rest' : List Char}
    (h : (quote text).toList ++ rest = (quote other).toList ++ rest') :
    text = other ∧ rest = rest' := by
  have hread := literal?_quote text rest
  rw [h, literal?_quote] at hread
  obtain ⟨htext, hrest⟩ := Prod.mk.inj (Option.some.inj hread)
  exact ⟨String.toList_inj.mp htext.symm, hrest.symm⟩

theorem quote_injective : Function.Injective quote := by
  intro text other h
  have hlists : (quote text).toList ++ [] = (quote other).toList ++ [] := by rw [h]
  exact (quote_append_inj hlists).1

/-- **A quoted text says itself where it ends.** It is read back whatever follows, and what follows
is left; so neither can be taken for another. No beginning of it is closed already, whatever quotes
and backslashes the text holds. -/
theorem quoted_texts_delimit_themselves :
    (∀ (text : String) (rest : List Char),
      literal? ((quote text).toList ++ rest) = some (text.toList, rest))
    ∧ (∀ (text other : String) (rest rest' : List Char),
      (quote text).toList ++ rest = (quote other).toList ++ rest' ↔ text = other ∧ rest = rest')
    ∧ Function.Injective quote
    ∧ ∀ (text : String) (length : Nat), literal? ((quote text).toList.take length)
        = if length < (quote text).toList.length then none else some (text.toList, []) := by
  refine ⟨literal?_quote, fun text other rest rest' => ⟨quote_append_inj, ?_⟩, quote_injective,
    literal?_take_quote⟩
  rintro ⟨rfl, rfl⟩
  rfl

/-- A backslash at the end of a text does not take the closing quote, and a later quote is no part
of the literal. -/
example : literal? ((quote "sea\\").toList ++ " AND \"".toList)
    = some ("sea\\".toList, " AND \"".toList) := by decide

end Metasearch.Text
