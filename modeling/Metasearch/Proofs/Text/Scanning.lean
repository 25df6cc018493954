import Mathlib.Data.List.TakeWhile
import Metasearch.Text.Blank

set_option autoImplicit false

/-! # Texts scanned from both ends

A text is often taken apart at a mark: at its first occurrence, at its last one, or at every one.
Said of a text that is put together around the mark, each of these scans gives back the parts.
The condition is always that the part which is scanned does not contain the mark itself; the rest
may contain it any number of times.

Cutting blanks off is a scan from both ends, too. It stops where a text begins and ends with a
character that is not blank (`Trimmed`).
-/

namespace Metasearch.Text

/-! ## One mark -/

/-- The first mark divides a text. -/
theorem takeWhile_ne_append {c : Char} {front : List Char} (h : c ∉ front) (rest : List Char) :
    (front ++ c :: rest).takeWhile (· ≠ c) = front
      ∧ (front ++ c :: rest).dropWhile (· ≠ c) = c :: rest := by
  have hall : ∀ a ∈ front, decide (a ≠ c) = true := fun a ha =>
    decide_eq_true fun heq => h (heq ▸ ha)
  rw [List.takeWhile_append_of_pos hall, List.dropWhile_append_of_pos hall,
    List.takeWhile_cons_of_neg (by simp), List.dropWhile_cons_of_neg (by simp), List.append_nil]
  exact ⟨rfl, rfl⟩

/-- The last mark divides a text: it is the first one of the text read backwards. -/
theorem takeWhile_ne_reverse {c : Char} {behind : List Char} (h : c ∉ behind)
    (before : List Char) :
    (before ++ c :: behind).reverse.takeWhile (· ≠ c) = behind.reverse
      ∧ (before ++ c :: behind).reverse.dropWhile (· ≠ c) = c :: before.reverse := by
  have hreverse : (before ++ c :: behind).reverse = behind.reverse ++ c :: before.reverse := by
    simp
  rw [hreverse]
  exact takeWhile_ne_append (by simpa using h) before.reverse

/-! ## Every mark -/

/-- Splitting a text is what the library calls splitting a list. -/
theorem splitOn_eq (separator : Char) (text : List Char) :
    splitOn separator text = text.splitOn separator := by
  induction text with
  | nil => rfl
  | cons c rest ih =>
    rw [List.splitOn_eq_splitOnP] at ih
    rw [List.splitOn_eq_splitOnP, List.splitOnP_cons_eq_if_modifyHead, ← ih, splitOn]
    simp only [beq_iff_eq]
    split
    · rfl
    · cases hpieces : splitOn separator rest with
      | nil => exact absurd (ih ▸ hpieces) (List.splitOnP_ne_nil _ _)
      | cons piece pieces => rfl

/-- **Pieces without the separator come back** when they are joined by it and split at it. -/
theorem splitOn_intercalate {separator : Char} {pieces : List (List Char)} (hne : pieces ≠ [])
    (h : ∀ piece ∈ pieces, separator ∉ piece) :
    splitOn separator ([separator].intercalate pieces) = pieces := by
  rw [splitOn_eq, List.splitOn_intercalate separator h hne]

/-! ## Blanks -/

/-- A text that begins and ends with a character that is not blank. -/
structure Trimmed (text : List Char) : Prop where
  nonempty : text ≠ []
  first : ∀ c ∈ text.head?, isBlank c = false
  last : ∀ c ∈ text.getLast?, isBlank c = false

theorem trimmed_iff (text : List Char) :
    text ≠ [] ∧ (text.head?.all fun c => !isBlank c) = true
        ∧ (text.getLast?.all fun c => !isBlank c) = true
      ↔ Trimmed text := by
  simp only [Option.all_eq_true, Bool.not_eq_true']
  exact ⟨fun h => ⟨h.1, h.2.1, h.2.2⟩, fun h => ⟨h.nonempty, h.first, h.last⟩⟩

instance (text : List Char) : Decidable (Trimmed text) := decidable_of_iff _ (trimmed_iff text)

/-- Nothing is cut off at the start of a text that begins with a character that is not blank. -/
theorem trimStart_append {blanks text : List Char} (hblanks : ∀ c ∈ blanks, isBlank c = true)
    (h : ∀ c ∈ text.head?, isBlank c = false) : trimStart (blanks ++ text) = text := by
  rw [trimStart, List.dropWhile_append_of_pos hblanks]
  cases text with
  | nil => rfl
  | cons c rest =>
    have hc : isBlank c = false := h c rfl
    exact List.dropWhile_cons_of_neg (by simp [hc])

theorem trimEnd_append {blanks text : List Char} (hblanks : ∀ c ∈ blanks, isBlank c = true)
    (h : ∀ c ∈ text.getLast?, isBlank c = false) : trimEnd (text ++ blanks) = text := by
  have hstart : trimStart (blanks.reverse ++ text.reverse) = text.reverse :=
    trimStart_append (by simpa using hblanks) (by simpa using h)
  rw [trimEnd, List.reverse_append]
  exact (congrArg List.reverse hstart).trans (List.reverse_reverse text)

/-- **Blanks on both sides of a text are cut off**, and nothing else is. -/
theorem trim_append {before text behind : List Char} (h : Trimmed text)
    (hbefore : ∀ c ∈ before, isBlank c = true) (hbehind : ∀ c ∈ behind, isBlank c = true) :
    trim (before ++ (text ++ behind)) = text := by
  have hfirst : ∀ c ∈ (text ++ behind).head?, isBlank c = false := by
    obtain ⟨first, rest, hcons⟩ := List.exists_cons_of_ne_nil h.nonempty
    have hfirst := h.first
    rw [hcons] at hfirst ⊢
    exact hfirst
  rw [trim, trimStart_append hbefore hfirst, trimEnd_append hbehind h.last]

end Metasearch.Text
