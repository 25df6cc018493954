import Metasearch.Json.Printer
import Metasearch.Proofs.Decimal.Numerals
import Metasearch.Proofs.Text.Characters

set_option autoImplicit false

/-! # The characters of numbers

Numbers reach a filter text bare, so it matters which characters they are written with. There
are three sources: a JSON number is written by `Number.text`, a coordinate by
`Decimal.Layout.plain`, and the operand of an ordering may be a string that reads as a number.

All of these texts read as numbers, and what reads as a number keeps to one small set of
characters, `figures`: digits, signs, the decimal point, the mark of an exponent and the letters of
the special words. No connective, no bracket and no blank can be made of these.
-/

namespace Metasearch.Decimal

/-- The characters that a number may be written with. -/
def figures : List Char :=
  ['0', '1', '2', '3', '4', '5', '6', '7', '8', '9', '+', '-', '.',
    'a', 'e', 'f', 'i', 'l', 'n', 't', 'u', 'y', 'A', 'E', 'F', 'I', 'N', 'T', 'Y']

/-- A text made of `figures` only. -/
def InFigures (text : List Char) : Prop := ∀ c ∈ text, c ∈ figures

instance (text : List Char) : Decidable (InFigures text) :=
  inferInstanceAs (Decidable (∀ c ∈ text, c ∈ figures))

/-- The marks of the filter languages are no figures. -/
theorem figures_no_mark :
    ∀ c ∈ ['"', '(', ')', '[', ']', ',', ':', ' ', 'D', 'R', 'r', 's'], c ∉ figures := by
  decide

theorem InFigures.not_mem {text : List Char} (h : InFigures text) {c : Char}
    (hc : c ∈ ['"', '(', ')', '[', ']', ',', ':', ' ', 'D', 'R', 'r', 's']) : c ∉ text :=
  fun hmem => figures_no_mark c hc (h c hmem)

theorem inFigures_nil : InFigures [] := by
  intro c hc
  cases hc

theorem inFigures_cons {c : Char} {text : List Char} :
    InFigures (c :: text) ↔ c ∈ figures ∧ InFigures text := List.forall_mem_cons

theorem inFigures_append {text other : List Char} :
    InFigures (text ++ other) ↔ InFigures text ∧ InFigures other := List.forall_mem_append

theorem isDigit_mem_figures {c : Char} (h : c.isDigit = true) : c ∈ figures := by
  have hdigits : tenDigits ⊆ figures := by decide
  exact hdigits (mem_tenDigits h)

theorem inFigures_of_isDigit {text : List Char} (h : ∀ c ∈ text, c.isDigit = true) :
    InFigures text := fun c hc => isDigit_mem_figures (h c hc)

/-! ## Texts that read as numbers -/

/-- A text reads as a number exactly when reading it gives one. -/
theorem floatOfChars?_isSome (text : List Char) :
    (floatOfChars? text).isSome = readsAsFloat text := by
  unfold floatOfChars? readsAsFloat
  cases Numeral.ofChars? text with
  | none => simp
  | some numeral => simp

theorem inFigures_of_isSign {sign : List Char} (h : IsSign sign) : InFigures sign := by
  cases h with
  | absent => exact inFigures_nil
  | minus | plus => exact inFigures_cons.mpr ⟨by decide, inFigures_nil⟩

theorem inFigures_of_isFraction {fraction digits : List Char} (h : IsFraction fraction digits) :
    InFigures fraction := by
  cases h with
  | absent => exact inFigures_nil
  | point hdigits => exact inFigures_cons.mpr ⟨by decide, inFigures_of_isDigit hdigits⟩

theorem inFigures_of_isExponent {exponent : List Char} (h : IsExponent exponent) :
    InFigures exponent := by
  cases h with
  | absent => exact inFigures_nil
  | marked hmark hsign hdigits =>
    refine inFigures_cons.mpr ⟨?_, inFigures_append.mpr
      ⟨inFigures_of_isSign hsign, inFigures_of_isDigit hdigits⟩⟩
    rcases hmark with rfl | rfl <;> decide

theorem inFigures_of_isNumeral {text : List Char} (h : IsNumeral text) : InFigures text := by
  obtain ⟨hsign, hwhole, hfraction, hexponent, -⟩ := h
  simp only [inFigures_append]
  exact ⟨inFigures_of_isSign hsign, inFigures_of_isDigit hwhole,
    inFigures_of_isFraction hfraction, inFigures_of_isExponent hexponent⟩

/-- A letter of a special word is a figure, whatever its case. -/
theorem mem_figures_of_toLower {c : Char} (h : c.toLower ∈ ['i', 'n', 'f', 't', 'y', 'a']) :
    c ∈ figures := by
  by_cases hupper : c.isUpper = true
  · -- one of the 26 capitals, and each of them can be looked at
    have hbounds : 65 ≤ c.toNat ∧ c.toNat ≤ 90 := by
      obtain ⟨hlow, hhigh⟩ := of_decide_eq_true hupper
      exact ⟨UInt32.le_iff_toNat_le.mp hlow, UInt32.le_iff_toNat_le.mp hhigh⟩
    have hletters : ∀ n < 26, (Char.ofNat (65 + n)).toLower ∈ ['i', 'n', 'f', 't', 'y', 'a'] →
        Char.ofNat (65 + n) ∈ figures := by decide
    have hc : Char.ofNat (65 + (c.toNat - 65)) = c := by
      rw [show 65 + (c.toNat - 65) = c.toNat by omega, Char.ofNat_toNat]
    have hletter := hletters (c.toNat - 65) (by omega)
    rw [hc] at hletter
    exact hletter h
  · have hsame : c.toLower = c := by
      unfold Char.toLower
      apply dif_neg
      intro hbounds
      exact hupper (decide_eq_true hbounds)
    rw [hsame] at h
    have hlower : ∀ d ∈ ['i', 'n', 'f', 't', 'y', 'a'], d ∈ figures := by decide
    exact hlower c h

theorem inFigures_of_isWord {word : List Char} (h : IsWord word) : InFigures word := by
  have hletters : ∀ letters ∈ ["inf".toList, "infinity".toList, "nan".toList],
      letters ⊆ ['i', 'n', 'f', 't', 'y', 'a'] := by decide
  intro c hc
  exact mem_figures_of_toLower (hletters _ h (List.mem_map_of_mem hc))

/-- **A text that reads as a number is written in figures.** -/
theorem inFigures_of_readsAsFloat {text : List Char} (h : readsAsFloat text = true) :
    InFigures text := by
  rcases (readsAsFloat_iff text).mp h with hnumeral | ⟨hsign, hword⟩
  · exact inFigures_of_isNumeral hnumeral
  · exact inFigures_append.mpr ⟨inFigures_of_isSign hsign, inFigures_of_isWord hword⟩

/-! ## Written numbers -/

theorem inFigures_plain (x : Float) : InFigures (Layout.plain.text x).toList :=
  inFigures_of_readsAsFloat (@readsAsFloat_layoutText Layout.plain [] .absent x)

/-- A JSON number is written as a number, or as the word that stands for none. -/
theorem numberText_reads (n : Number) :
    readsAsFloat n.text.toList = true ∨ n.text = "null" := by
  cases n with
  | integer value => exact Or.inl ((readsAsFloat_iff _).mpr (Or.inl (isNumeral_toString_int value)))
  | real value =>
    by_cases hfinite : (value.isNaN || value.isInf) = true
    · exact Or.inr (by rw [Number.text, if_pos hfinite])
    · have hzero : AllDigits ['0'] := by decide
      have hfraction : IsFraction Layout.json.whole.toList ['0'] := .point hzero
      rw [Number.text, if_neg hfinite]
      exact Or.inl (readsAsFloat_layoutText hfraction value)

/-- **A JSON number is written in figures.** -/
theorem inFigures_numberText (n : Number) : InFigures n.text.toList := by
  rcases numberText_reads n with hreads | hnull
  · exact inFigures_of_readsAsFloat hreads
  · rw [hnull]
    decide

theorem numberText_ne_nil (n : Number) : n.text.toList ≠ [] := by
  rcases numberText_reads n with hreads | hnull
  · exact ne_nil_of_readsAsFloat hreads
  · rw [hnull]
    decide

end Metasearch.Decimal
