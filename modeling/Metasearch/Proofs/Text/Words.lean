import Metasearch.Text.Blank
import Metasearch.Text.Case

set_option autoImplicit false

/-! # Words in lowercase

Lowering a text is not a matter of its characters alone: the form of a sigma depends on the
letters on both sides of it, and these may be far away, as some characters are passed over. No
blank is passed over, though, and no blank is a letter. So a blank cuts a text into two that are
lowered each for itself (`lowercase_append_blank`), and as it cuts the words in the same way
(`words_append_blank`), the words of a text in lowercase are its words, in lowercase
(`words_lowercase`).

What is needed of the tables of letter case is that they keep clear of the blanks: neither
a character that is changed nor one that it is changed to is a blank.
-/

namespace Metasearch.Text

/-! ## Blanks in the tables of letter case -/

/-- The codes of the blanks, as closed ranges. -/
def blankRanges : List (Nat × Nat) :=
  [(0x9, 0xD), (0x20, 0x20), (0x85, 0x85), (0xA0, 0xA0), (0x1680, 0x1680), (0x2000, 0x200A),
    (0x2028, 0x2029), (0x202F, 0x202F), (0x205F, 0x205F), (0x3000, 0x3000)]

/-- A blank lies in one of the ranges. -/
theorem isBlank_iff {c : Char} :
    isBlank c = true ↔ ∃ range ∈ blankRanges, range.1 ≤ c.toNat ∧ c.toNat ≤ range.2 := by
  simp only [isBlank, blankRanges, Bool.or_eq_true, Bool.and_eq_true, decide_eq_true_eq, beq_iff_eq,
    List.mem_cons, List.not_mem_nil, or_false, exists_eq_or_imp, exists_eq_left]
  omega

/-- Two closed ranges without a common number. -/
def Apart (range other : Nat × Nat) : Prop := range.2 < other.1 ∨ other.2 < range.1

instance (range other : Nat × Nat) : Decidable (Apart range other) :=
  inferInstanceAs (Decidable (_ ∨ _))

theorem cased_apart : ∀ range ∈ casedRanges, ∀ blank ∈ blankRanges, Apart range blank := by
  decide +kernel

theorem caseIgnorable_apart :
    ∀ range ∈ caseIgnorableRanges, ∀ blank ∈ blankRanges, Apart range blank := by
  decide +kernel

theorem not_inRanges_of_apart {ranges : List (Nat × Nat)}
    (h : ∀ range ∈ ranges, ∀ blank ∈ blankRanges, Apart range blank) {c : Char}
    (hc : isBlank c = true) : inRanges ranges c.toNat = false := by
  obtain ⟨blank, hblank, hlow, hhigh⟩ := isBlank_iff.mp hc
  rw [inRanges, List.any_eq_false]
  intro range hrange hin
  have hapart := h range hrange blank hblank
  simp only [Bool.and_eq_true, decide_eq_true_eq] at hin
  simp only [Apart] at hapart
  omega

theorem isCased_of_isBlank {c : Char} (hc : isBlank c = true) : isCased c = false :=
  not_inRanges_of_apart cased_apart hc

theorem isCaseIgnorable_of_isBlank {c : Char} (hc : isBlank c = true) :
    isCaseIgnorable c = false :=
  not_inRanges_of_apart caseIgnorable_apart hc

/-- Neither what a run changes nor what it gives is a blank. -/
theorem runs_apart : ∀ run ∈ lowercaseRuns, ∀ blank ∈ blankRanges,
    Apart (run.first, run.last) blank
      ∧ Apart ((run.first + run.shift).toNat, (run.last + run.shift).toNat) blank := by
  decide +kernel

/-! ## Characters -/

theorem isBlank_ofNat {code : Nat}
    (h : ∀ blank ∈ blankRanges, ¬ (blank.1 ≤ code ∧ code ≤ blank.2)) :
    isBlank (Char.ofNat code) = false := by
  rw [← Bool.not_eq_true, isBlank_iff]
  rintro ⟨blank, hblank, hlow, hhigh⟩
  by_cases hvalid : code.isValidChar
  · have hcode : (Char.ofNat code).toNat = code := by
      rw [Char.ofNat, dif_pos hvalid]
      rfl
    rw [hcode] at hlow hhigh
    exact h blank hblank ⟨hlow, hhigh⟩
  · -- a code that no character has stands for the character zero
    have hzero : (Char.ofNat code).toNat = 0 := by simp [Char.ofNat, hvalid]
    have hpositive : ∀ blank ∈ blankRanges, 0 < blank.1 := by decide
    have hfirst := hpositive blank hblank
    omega

theorem lowerByTable_of_isBlank {c : Char} (hc : isBlank c = true) : lowerByTable c = c := by
  obtain ⟨blank, hblank, hlow, hhigh⟩ := isBlank_iff.mp hc
  have hnone : lowercaseRuns.find? (fun run => run.first ≤ c.toNat && c.toNat ≤ run.last
      && (c.toNat - run.first) % run.step == 0) = none := by
    rw [List.find?_eq_none]
    intro run hrun hin
    have hapart := (runs_apart run hrun blank hblank).1
    simp only [Bool.and_eq_true, decide_eq_true_eq] at hin
    simp only [Apart] at hapart
    omega
  rw [lowerByTable, hnone]

theorem isBlank_lowerByTable {c : Char} (hc : isBlank c = false) :
    isBlank (lowerByTable c) = false := by
  unfold lowerByTable
  split
  · next run hfind =>
    have hin := List.find?_some hfind
    simp only [Bool.and_eq_true, decide_eq_true_eq] at hin
    refine isBlank_ofNat fun blank hblank hblanked => ?_
    have hapart := (runs_apart run (List.mem_of_find?_eq_some hfind) blank hblank).2
    simp only [Apart] at hapart
    omega
  · exact hc

/-- Of the characters of ASCII the letters from A to Z are changed. -/
theorem toLower_eq (c : Char) :
    c.toLower = if 65 ≤ c.toNat ∧ c.toNat ≤ 90 then Char.ofNat (c.toNat + 32) else c := by
  by_cases hupper : 65 ≤ c.toNat ∧ c.toNat ≤ 90
  · -- one of the 26 capitals, and each of them can be looked at
    have hletters : ∀ n < 26, (Char.ofNat (65 + n)).toLower = Char.ofNat (65 + n + 32) := by decide
    have hletter := hletters (c.toNat - 65) (by omega)
    rw [show 65 + (c.toNat - 65) = c.toNat by omega, Char.ofNat_toNat] at hletter
    rw [if_pos hupper, hletter]
  · rw [if_neg hupper]
    exact dif_neg hupper

theorem toLower_of_isBlank {c : Char} (hc : isBlank c = true) : c.toLower = c := by
  obtain ⟨blank, hblank, hlow, hhigh⟩ := isBlank_iff.mp hc
  have hapart : ∀ blank ∈ blankRanges, Apart (65, 90) blank := by decide
  have hblanked := hapart blank hblank
  simp only [Apart] at hblanked
  rw [toLower_eq, if_neg (by omega)]

theorem isBlank_toLower {c : Char} (hc : isBlank c = false) : isBlank c.toLower = false := by
  rw [toLower_eq]
  split
  · have hapart : ∀ blank ∈ blankRanges, Apart (97, 122) blank := by decide
    refine isBlank_ofNat fun blank hblank hin => ?_
    have hblanked := hapart blank hblank
    simp only [Apart] at hblanked
    omega
  · exact hc

/-- A blank is its own lowercase form. -/
theorem lowerChar_of_isBlank {c : Char} (hc : isBlank c = true) : lowerChar c = [c] := by
  have hdotted : c.toNat ≠ 0x130 := by
    intro heq
    simp [isBlank, heq] at hc
  rw [lowerChar, if_neg hdotted, toLower_of_isBlank hc, lowerByTable_of_isBlank hc, ite_self]

/-- No other character has a blank in its lowercase form. -/
theorem not_isBlank_of_mem_lowerChar {c d : Char} (hc : isBlank c = false) (hd : d ∈ lowerChar c) :
    isBlank d = false := by
  unfold lowerChar at hd
  split at hd
  · rw [List.mem_singleton.mp hd]
    exact isBlank_toLower hc
  · split at hd
    · have hboth : ∀ d ∈ ['i', '\u0307'], isBlank d = false := by decide
      exact hboth d hd
    · rw [List.mem_singleton.mp hd]
      exact isBlank_lowerByTable hc

/-! ## Texts -/

/-- What stands behind a blank is passed over by no search for a letter. -/
theorem startsCased_append_blank {b : Char} (hb : isBlank b = true) (text rest : List Char) :
    startsCased (text ++ b :: rest) = startsCased text := by
  induction text with
  | nil =>
    have hstop : (b :: rest).dropWhile isCaseIgnorable = b :: rest :=
      List.dropWhile_cons_of_neg (by simp [isCaseIgnorable_of_isBlank hb])
    rw [startsCased, List.nil_append, hstop]
    exact isCased_of_isBlank hb
  | cons c text ih =>
    by_cases hc : isCaseIgnorable c
    · simpa [startsCased, List.dropWhile_cons, hc] using ih
    · simp [startsCased, hc]

theorem lowerSigma_append_blank {b : Char} (hb : isBlank b = true) (before after rest : List Char) :
    lowerSigma before (after ++ b :: rest) = lowerSigma before after := by
  rw [lowerSigma, startsCased_append_blank hb, lowerSigma]

/-- A text is lowered without regard to what stands before the last blank in front of it. -/
theorem lowercaseAfter_append_blank {b : Char} (hb : isBlank b = true)
    (before earlier text : List Char) :
    lowercaseAfter (before ++ b :: earlier) text = lowercaseAfter before text := by
  induction text generalizing before with
  | nil => rfl
  | cons c text ih =>
    have hrest := ih (c :: before)
    rw [List.cons_append] at hrest
    rw [lowercaseAfter, lowercaseAfter, hrest, lowerSigma, startsCased_append_blank hb, lowerSigma]

theorem lowercaseAfter_blank {b : Char} (hb : isBlank b = true) (before text rest : List Char) :
    lowercaseAfter before (text ++ b :: rest)
      = lowercaseAfter before text ++ b :: lowercase rest := by
  induction text generalizing before with
  | nil =>
    have hsigma : b ≠ 'Σ' := by
      rintro rfl
      exact absurd hb (by decide)
    have hrest : lowercaseAfter (b :: before) rest = lowercase rest :=
      lowercaseAfter_append_blank hb [] before rest
    rw [List.nil_append, lowercaseAfter.eq_2, if_neg hsigma, lowerChar_of_isBlank hb, hrest]
    rfl
  | cons c text ih =>
    rw [List.cons_append, lowercaseAfter, lowercaseAfter, ih, lowerSigma_append_blank hb,
      List.append_assoc]

/-- **A blank cuts a text into two that are lowered each for itself.** -/
theorem lowercase_append_blank {b : Char} (hb : isBlank b = true) (text rest : List Char) :
    lowercase (text ++ b :: rest) = lowercase text ++ b :: lowercase rest :=
  lowercaseAfter_blank hb [] text rest

/-- Lowering puts no blank into a text. -/
theorem not_isBlank_of_mem_lowercase {text : List Char} (h : ∀ c ∈ text, isBlank c = false) :
    ∀ d ∈ lowercase text, isBlank d = false := by
  have hafter : ∀ before, ∀ d ∈ lowercaseAfter before text, isBlank d = false := by
    induction text with
    | nil => simp [lowercaseAfter]
    | cons c text ih =>
      intro before d hd
      obtain ⟨hc, htext⟩ := List.forall_mem_cons.mp h
      rw [lowercaseAfter, List.mem_append] at hd
      rcases hd with hd | hd
      · split at hd
        · have hsigmas : ∀ d ∈ ['ς', 'σ'], isBlank d = false := by decide
          refine hsigmas d ?_
          rw [List.mem_singleton.mp hd, lowerSigma]
          split <;> simp
        · exact not_isBlank_of_mem_lowerChar hc hd
      · exact ih htext _ d hd
  exact hafter []

theorem lowerChar_ne_nil (c : Char) : lowerChar c ≠ [] := by
  unfold lowerChar
  split
  · simp
  · split <;> simp

theorem lowercase_eq_nil_iff {text : List Char} : lowercase text = [] ↔ text = [] := by
  cases text with
  | nil => simp [lowercase, lowercaseAfter]
  | cons c text =>
    by_cases hc : c = 'Σ' <;> simp [lowercase, lowercaseAfter, hc, lowerChar_ne_nil]

/-! ## Words -/

/-- What is read of a word before a blank ends there. -/
theorem wordsAfter_append_blank {b : Char} (hb : isBlank b = true) (word text rest : List Char) :
    wordsAfter word (text ++ b :: rest) = wordsAfter word text ++ words rest := by
  induction text generalizing word with
  | nil => by_cases hword : word.isEmpty <;> simp [wordsAfter, words, hb, hword]
  | cons c text ih =>
    by_cases hc : isBlank c
    · by_cases hword : word.isEmpty <;> simp [wordsAfter, hc, hword, ih]
    · simp [wordsAfter, hc, ih]

/-- **A blank cuts a text into two with words of their own.** -/
theorem words_append_blank {b : Char} (hb : isBlank b = true) (text rest : List Char) :
    words (text ++ b :: rest) = words text ++ words rest :=
  wordsAfter_append_blank hb [] text rest

theorem wordsAfter_of_not_blank {text : List Char} (h : ∀ c ∈ text, isBlank c = false)
    (word : List Char) :
    wordsAfter word text = if word = [] ∧ text = [] then [] else [word.reverse ++ text] := by
  induction text generalizing word with
  | nil => cases word <;> simp [wordsAfter]
  | cons c text ih =>
    obtain ⟨hc, htext⟩ := List.forall_mem_cons.mp h
    simp [wordsAfter, hc, ih htext]

/-- A text without blanks is one word, or empty. -/
theorem words_of_not_blank {text : List Char} (h : ∀ c ∈ text, isBlank c = false) :
    words text = if text = [] then [] else [text] := by
  rw [words, wordsAfter_of_not_blank h]
  simp

/-- A text is free of blanks, or there is a first one in it. -/
theorem not_blank_or_exists_first (text : List Char) :
    (∀ c ∈ text, isBlank c = false) ∨
      ∃ word b rest, text = word ++ b :: rest ∧ (∀ c ∈ word, isBlank c = false)
        ∧ isBlank b = true := by
  induction text with
  | nil => exact .inl (by simp)
  | cons c text ih =>
    cases hc : isBlank c with
    | true => exact .inr ⟨[], c, text, rfl, by simp, hc⟩
    | false =>
      rcases ih with hnone | ⟨word, b, rest, rfl, hword, hb⟩
      · exact .inl (List.forall_mem_cons.mpr ⟨hc, hnone⟩)
      · exact .inr ⟨c :: word, b, rest, rfl, List.forall_mem_cons.mpr ⟨hc, hword⟩, hb⟩

/-- **Induction over the words of a text**: a text is a word, or a word, a blank and a text. -/
theorem words_induction {P : List Char → Prop}
    (word : ∀ text, (∀ c ∈ text, isBlank c = false) → P text)
    (blank : ∀ text b rest, (∀ c ∈ text, isBlank c = false) → isBlank b = true → P rest →
      P (text ++ b :: rest)) (text : List Char) : P text := by
  induction hlength : text.length using Nat.strongRecOn generalizing text with
  | _ length ih =>
    rcases not_blank_or_exists_first text with hnone | ⟨first, b, rest, rfl, hfirst, hb⟩
    · exact word text hnone
    · refine blank first b rest hfirst hb (ih rest.length ?_ rest rfl)
      rw [← hlength, List.length_append, List.length_cons]
      omega

theorem words_lowercase_of_not_blank {text : List Char} (h : ∀ c ∈ text, isBlank c = false) :
    words (lowercase text) = (words text).map lowercase := by
  rw [words_of_not_blank h, words_of_not_blank (not_isBlank_of_mem_lowercase h)]
  by_cases hempty : text = [] <;> simp [hempty, lowercase_eq_nil_iff]

/-- **The words of a text in lowercase are its words, in lowercase.** -/
theorem words_lowercase (text : List Char) :
    words (lowercase text) = (words text).map lowercase := by
  induction text using words_induction with
  | word text h => exact words_lowercase_of_not_blank h
  | blank text b rest h hb ih =>
    calc words (lowercase (text ++ b :: rest))
        = words (lowercase text) ++ words (lowercase rest) := by
          rw [lowercase_append_blank hb, words_append_blank hb]
      _ = (words text).map lowercase ++ (words rest).map lowercase := by
          rw [words_lowercase_of_not_blank h, ih]
      _ = (words (text ++ b :: rest)).map lowercase := by
          rw [words_append_blank hb, List.map_append]

/-- A word is not empty and has no blank in it. -/
theorem of_mem_words {word text : List Char} (h : word ∈ words text) :
    word ≠ [] ∧ ∀ c ∈ word, isBlank c = false := by
  have hword : ∀ text : List Char, (∀ c ∈ text, isBlank c = false) → word ∈ words text →
      word ≠ [] ∧ ∀ c ∈ word, isBlank c = false := by
    intro text htext hmem
    rw [words_of_not_blank htext] at hmem
    split at hmem
    · cases hmem
    · next hne =>
      obtain rfl := List.mem_singleton.mp hmem
      exact ⟨hne, htext⟩
  induction text using words_induction with
  | word text htext => exact hword text htext h
  | blank text b rest htext hb ih =>
    rw [words_append_blank hb, List.mem_append] at h
    exact h.elim (hword text htext) ih

/-- A text has no words exactly if it is blank. -/
theorem words_eq_nil_iff {text : List Char} : words text = [] ↔ allBlank text = true := by
  have hword : ∀ text : List Char, (∀ c ∈ text, isBlank c = false) →
      (words text = [] ↔ allBlank text = true) := by
    intro text h
    rw [words_of_not_blank h]
    cases text with
    | nil => simp [allBlank]
    | cons c text => simp [allBlank, h c List.mem_cons_self]
  induction text using words_induction with
  | word text h => exact hword text h
  | blank text b rest h hb ih =>
    have hparts : words (text ++ b :: rest) = [] ↔ allBlank text = true ∧ allBlank rest = true := by
      rw [words_append_blank hb, List.append_eq_nil_iff, hword text h]
      exact and_congr_right fun _ => ih
    simp [hparts, allBlank, hb]

/-! ## Occurrences -/

section Occurrence

variable {α : Type} {separator : α} {part : List α}

theorem prefix_append_separator (h : separator ∉ part) (text rest : List α) :
    part <+: text ++ separator :: rest ↔ part <+: text := by
  induction text generalizing part with
  | nil =>
    cases part with
    | nil => simp
    | cons first part =>
      have hfirst : first ≠ separator := fun heq => h (by simp [heq])
      simp [List.cons_prefix_cons, hfirst]
  | cons symbol text ih =>
    cases part with
    | nil => simp
    | cons first part =>
      have hpart : separator ∉ part := fun hmem => h (List.mem_cons_of_mem first hmem)
      simp [List.cons_prefix_cons, ih hpart]

/-- **What has no separator in it occurs on one side of a separator**, if it occurs at all. -/
theorem infix_append_separator (h : separator ∉ part) (hne : part ≠ []) (text rest : List α) :
    part <:+: text ++ separator :: rest ↔ part <:+: text ∨ part <:+: rest := by
  induction text with
  | nil =>
    have hprefix := prefix_append_separator h [] rest
    rw [List.nil_append, List.prefix_nil] at hprefix
    simp [List.infix_cons_iff, hprefix, hne]
  | cons symbol text ih =>
    have hprefix := prefix_append_separator h (symbol :: text) rest
    rw [List.cons_append] at hprefix
    rw [List.cons_append, List.infix_cons_iff, List.infix_cons_iff, hprefix, ih, or_assoc]

end Occurrence

end Metasearch.Text
