import Metasearch.Text.Blank

set_option autoImplicit false

/-! # Characters

Whether a text can be taken for something else depends on a few characters, such as quotes and
blanks. Statements about them are small enough to be decided, if one goes over the characters
in question and not over all that there are.
-/

namespace Metasearch.Text

/-- A statement about the characters of a list is decided by going over the list. A general
instance for statements about characters would try every one of them. -/
instance decidableForallMem {p : Char → Prop} [DecidablePred p] (text : List Char) :
    Decidable (∀ c ∈ text, p c) :=
  List.decidableBAll p text

/-- A name without blanks and without some other characters has no space either. -/
theorem not_mem_of_clean {others : List Char} {name : String}
    (h : ∀ c ∈ name.toList, isBlank c = false ∧ c ∉ others) {c : Char}
    (hc : c = ' ' ∨ c ∈ others) : c ∉ name.toList := by
  intro hmem
  obtain ⟨hblank, hother⟩ := h c hmem
  rcases hc with rfl | hc
  · exact absurd hblank (by decide)
  · exact hother hc

end Metasearch.Text
