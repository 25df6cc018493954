import Metasearch.Json.Printer
import Metasearch.Proofs.Decimal.Numerals
import Metasearch.Proofs.Float.Finite

set_option autoImplicit false

/-! # Sound JSON values

A JSON number is an integer of 64 bits or a finite float; infinities and not-a-number have no
written form. A value is sound if all numbers in it are. What is read from a sound value as a
float is finite (`Number.isFinite_toFloat`), and its numbers are written as decimal numerals
(`Number.isNumeral_text`).
-/

namespace Metasearch

/-- An integer of 64 bits, with a sign or without, or a finite float. -/
def Number.Sound : Number → Prop
  | .integer value => -2 ^ 63 ≤ value ∧ value < 2 ^ 64
  | .real value => value.isFinite = true

theorem Number.isFinite_toFloat {number : Number} (h : number.Sound) :
    number.toFloat.isFinite = true := by
  cases number with
  | real value => exact h
  | integer value =>
    have hword : value.natAbs ≤ 2 ^ 64 := by
      obtain ⟨hleast, hgreatest⟩ := h
      omega
    have hmagnitude : (Float.ofScientific value.natAbs false 0).isFinite = true :=
      Rounding.isFinite_toFloat hword
    rw [toFloat]
    split
    · exact Rounding.isFinite_neg hmagnitude
    · exact hmagnitude

/-- **A sound number is written as a numeral.** -/
theorem Number.isNumeral_text {number : Number} (h : number.Sound) :
    Decimal.IsNumeral number.text.toList := by
  cases number with
  | integer value => exact Decimal.isNumeral_toString_int value
  | real value =>
    obtain ⟨negative, significand, exponent, hvalue⟩ := Rounding.exists_finite h
    have hzero : Decimal.AllDigits ['0'] := by decide
    have hfraction : Decimal.IsFraction Decimal.Layout.json.whole.toList ['0'] := .point hzero
    rw [text, Rounding.isNaN_or_isInf_of_isFinite h, if_neg Bool.false_ne_true]
    exact Decimal.isNumeral_layoutText hfraction hvalue

namespace Json

/-- All numbers in a value are sound. -/
inductive Sound : Json → Prop
  | null : Sound .null
  | bool (value : Bool) : Sound (.bool value)
  | number {value : Number} (h : value.Sound) : Sound (.number value)
  | string (text : String) : Sound (.string text)
  | array {items : List Json} (h : ∀ item ∈ items, Sound item) : Sound (.array items)
  | object {entries : List (String × Json)} (h : ∀ entry ∈ entries, Sound entry.2) :
    Sound (.object entries)

theorem sound_number {value : Number} : Sound (.number value) ↔ value.Sound :=
  ⟨fun h => by cases h with | number h => exact h, .number⟩

theorem sound_array {items : List Json} : Sound (.array items) ↔ ∀ item ∈ items, Sound item :=
  ⟨fun h => by cases h with | array h => exact h, .array⟩

theorem sound_object {entries : List (String × Json)} :
    Sound (.object entries) ↔ ∀ entry ∈ entries, Sound entry.2 :=
  ⟨fun h => by cases h with | object h => exact h, .object⟩

/-- **Induction over a value**: a list or an object may be taken to hold values of which the
statement is true already. -/
theorem induction {P : Json → Prop}
    (scalar : ∀ value, (∀ items, value ≠ .array items) → (∀ entries, value ≠ .object entries) →
      P value)
    (array : ∀ items, (∀ item ∈ items, P item) → P (.array items))
    (object : ∀ entries, (∀ entry ∈ entries, P (Prod.snd entry)) → P (.object entries))
    (value : Json) : P value := by
  -- of a list of items or entries the statement is that of each of them
  refine @Json.rec P (fun items => ∀ item ∈ items, P item)
    (fun entries => ∀ entry ∈ entries, P entry.2) (fun entry => P entry.2)
    ?_ ?_ ?_ ?_ ?_ ?_ ?_ ?_ ?_ ?_ ?_ value
  · exact scalar _ (by simp) (by simp)
  · exact fun _ => scalar _ (by simp) (by simp)
  · exact fun _ => scalar _ (by simp) (by simp)
  · exact fun _ => scalar _ (by simp) (by simp)
  · exact array
  · exact object
  · intro item hitem
    cases hitem
  · exact fun item items hitem hitems => List.forall_mem_cons.mpr ⟨hitem, hitems⟩
  · intro entry hentry
    cases hentry
  · exact fun entry entries hentry hentries => List.forall_mem_cons.mpr ⟨hentry, hentries⟩
  · exact fun _ _ hvalue => hvalue

end Json

end Metasearch
