import Metasearch.Decimal.Layout
import Metasearch.Decimal.Numeral

set_option autoImplicit false

/-! # Decimal numerals

A numeral is an optional sign, digits, an optional fraction and an optional exponent, with at
least one digit before or behind the point (`IsNumeral`). The grammar is given by itself and not
by the reader, and what the reader accepts is measured by it: the numerals, and beside them the
words for infinity and not-a-number (`readsAsFloat_iff`). No text is both
(`IsNumeral.not_isSpecialWord`), since a numeral has a digit and a word has none.

What is written as a number can be read as one: an integer and a finite float are written as
numerals (`isNumeral_toString_int`, `isNumeral_layoutText`), and any other float as a word
(`readsAsFloat_layoutText`).
-/

namespace Metasearch.Decimal

/-! ## The grammar -/

/-- What may stand before a number. -/
inductive IsSign : List Char → Prop
  | absent : IsSign []
  | minus : IsSign ['-']
  | plus : IsSign ['+']

/-- A text of digits, which may be empty. -/
def AllDigits (text : List Char) : Prop := ∀ c ∈ text, c.isDigit = true

instance (text : List Char) : Decidable (AllDigits text) :=
  decidable_of_iff (text.all Char.isDigit = true) List.all_eq_true

def tenDigits : List Char := ['0', '1', '2', '3', '4', '5', '6', '7', '8', '9']

/-- A digit is one of ten. -/
theorem mem_tenDigits {c : Char} (h : c.isDigit = true) : c ∈ tenDigits := by
  have hbounds : 48 ≤ c.toNat ∧ c.toNat ≤ 57 := by
    simpa [Char.isDigit, UInt32.le_iff_toNat_le] using h
  have hdigits : ∀ n < 10, Char.ofNat (48 + n) ∈ tenDigits := by decide
  have hdigit := hdigits (c.toNat - 48) (by omega)
  rwa [show 48 + (c.toNat - 48) = c.toNat by omega, Char.ofNat_toNat] at hdigit

/-- A fraction and its digits: a point with digits behind it, or nothing. -/
inductive IsFraction : List Char → List Char → Prop
  | absent : IsFraction [] []
  | point {digits : List Char} (h : AllDigits digits) : IsFraction ('.' :: digits) digits

/-- An exponent: a mark with a signed number of one digit or more, or nothing. -/
inductive IsExponent : List Char → Prop
  | absent : IsExponent []
  | marked {mark : Char} {sign digits : List Char} (hmark : mark = 'e' ∨ mark = 'E')
      (hsign : IsSign sign) (hdigits : AllDigits digits) (hne : digits ≠ []) :
    IsExponent (mark :: (sign ++ digits))

/-- A numeral without its sign. -/
inductive IsMagnitude : List Char → Prop
  | intro {whole fraction digits exponent : List Char} (hwhole : AllDigits whole)
      (hfraction : IsFraction fraction digits) (hexponent : IsExponent exponent)
      (hne : whole ++ digits ≠ []) :
    IsMagnitude (whole ++ (fraction ++ exponent))

/-- A decimal numeral. -/
inductive IsNumeral : List Char → Prop
  | intro {sign magnitude : List Char} (hsign : IsSign sign) (h : IsMagnitude magnitude) :
    IsNumeral (sign ++ magnitude)

/-- One of the words for the numbers that have no digits. -/
def IsWord (text : List Char) : Prop :=
  text.map Char.toLower ∈ ["inf".toList, "infinity".toList, "nan".toList]

instance (text : List Char) : Decidable (IsWord text) :=
  inferInstanceAs (Decidable (_ ∈ [_, _, _]))

/-- Such a word with a sign, or without. -/
inductive IsSpecialWord : List Char → Prop
  | intro {sign word : List Char} (hsign : IsSign sign) (h : IsWord word) :
    IsSpecialWord (sign ++ word)

/-! ## What the scans take off -/

theorem allDigits_append {text other : List Char} :
    AllDigits (text ++ other) ↔ AllDigits text ∧ AllDigits other := List.forall_mem_append

theorem exists_sign (text : List Char) :
    ∃ sign, IsSign sign ∧ text = sign ++ (splitSign text).2 := by
  unfold splitSign
  split
  · exact ⟨['-'], .minus, rfl⟩
  · exact ⟨['+'], .plus, rfl⟩
  · exact ⟨[], .absent, rfl⟩

theorem allDigits_splitDigits (text : List Char) : AllDigits (splitDigits text).1 := fun c hc =>
  List.all_eq_true.mp (List.all_takeWhile (p := Char.isDigit)) c hc

theorem splitDigits_append_eq (text : List Char) :
    (splitDigits text).1 ++ (splitDigits text).2 = text :=
  List.takeWhile_append_dropWhile

theorem exists_fraction (text : List Char) :
    ∃ fraction, IsFraction fraction (splitFraction text).1
      ∧ text = fraction ++ (splitFraction text).2 := by
  unfold splitFraction
  split
  · next rest =>
    exact ⟨'.' :: (splitDigits rest).1, .point (allDigits_splitDigits rest),
      congrArg ('.' :: ·) (splitDigits_append_eq rest).symm⟩
  · exact ⟨[], .absent, rfl⟩

/-! ## Where the scans stop

Each scan stops at the first character that it does not know. The parts of a numeral begin with
different characters, so each is taken off as a whole. -/

/-- No sign is taken off a text that begins with none. -/
theorem splitSign_append {sign rest : List Char} (hsign : IsSign sign)
    (hrest : ∀ c ∈ rest.head?, c ≠ '-' ∧ c ≠ '+') : (splitSign (sign ++ rest)).2 = rest := by
  cases hsign with
  | minus => rfl
  | plus => rfl
  | absent =>
    cases rest with
    | nil => rfl
    | cons c rest =>
      obtain ⟨hminus, hplus⟩ := hrest c rfl
      rw [List.nil_append, splitSign]
      · exact fun _ h => hminus (List.cons.inj h).1
      · exact fun _ h => hplus (List.cons.inj h).1

theorem splitDigits_append {digits rest : List Char} (hdigits : AllDigits digits)
    (hrest : ∀ c ∈ rest.head?, c.isDigit = false) :
    splitDigits (digits ++ rest) = (digits, rest) := by
  rw [splitDigits, List.takeWhile_append_of_pos hdigits, List.dropWhile_append_of_pos hdigits]
  cases rest with
  | nil => simp
  | cons c rest => simp [hrest c rfl]

theorem splitFraction_append {fraction digits rest : List Char}
    (hfraction : IsFraction fraction digits)
    (hrest : ∀ c ∈ rest.head?, c.isDigit = false ∧ c ≠ '.') :
    splitFraction (fraction ++ rest) = (digits, rest) := by
  cases hfraction with
  | point hdigits => exact splitDigits_append hdigits fun c hc => (hrest c hc).1
  | absent =>
    cases rest with
    | nil => rfl
    | cons c rest =>
      rw [List.nil_append, splitFraction]
      exact fun _ h => (hrest c rfl).2 (List.cons.inj h).1

/-- No digit is a sign or a point. -/
theorem ne_of_isDigit {c : Char} (hc : c.isDigit = true) : c ≠ '-' ∧ c ≠ '+' ∧ c ≠ '.' := by
  refine ⟨?_, ?_, ?_⟩ <;>
  · rintro rfl
    exact absurd hc (by decide)

theorem AllDigits.head_ne {digits : List Char} (h : AllDigits digits) :
    ∀ c ∈ digits.head?, c ≠ '-' ∧ c ≠ '+' := fun c hc =>
  ⟨(ne_of_isDigit (h c (List.mem_of_mem_head? hc))).1,
    (ne_of_isDigit (h c (List.mem_of_mem_head? hc))).2.1⟩

theorem IsExponent.head_eq {exponent : List Char} (h : IsExponent exponent) :
    ∀ c ∈ exponent.head?, c = 'e' ∨ c = 'E' := by
  intro c hc
  cases h with
  | absent => cases hc
  | marked hmark =>
    obtain rfl := Option.some.inj hc
    exact hmark

/-! ## What the reader accepts -/

/-- **The exponents are what the reader takes for one.** -/
theorem exponentOf?_isSome_iff (text : List Char) :
    (exponentOf? text).isSome = true ↔ IsExponent text := by
  constructor
  · intro h
    cases text with
    | nil => exact .absent
    | cons mark rest =>
      by_cases hmark : mark = 'e' ∨ mark = 'E'
      · simp only [exponentOf?, if_pos hmark] at h
        split at h
        · cases h
        · next hrest =>
          simp only [Bool.or_eq_true, List.isEmpty_iff, Bool.not_eq_true', not_or] at hrest
          obtain ⟨hne, hend⟩ := hrest
          obtain ⟨sign, hsign, htext⟩ := exists_sign rest
          have hdigits := splitDigits_append_eq (splitSign rest).2
          rw [show (splitDigits (splitSign rest).2).2 = [] by simpa using hend,
            List.append_nil] at hdigits
          rw [htext, ← hdigits]
          exact .marked hmark hsign (allDigits_splitDigits _) hne
      · simp [exponentOf?, hmark] at h
  · intro h
    cases h with
    | absent => rfl
    | @marked mark sign digits hmark hsign hdigits hne =>
      have hsplit : splitDigits digits = (digits, []) := by
        simpa using @splitDigits_append digits [] hdigits (by simp)
      simp only [exponentOf?, if_pos hmark, splitSign_append hsign hdigits.head_ne, hsplit]
      simp [hne]

theorem IsMagnitude.head_ne {magnitude : List Char} (h : IsMagnitude magnitude) :
    ∀ c ∈ magnitude.head?, c ≠ '-' ∧ c ≠ '+' := by
  obtain ⟨hwhole, hfraction, hexponent, hne⟩ := h
  next whole fraction digits exponent =>
  cases whole with
  | cons first whole =>
    intro c hc
    obtain rfl := Option.some.inj hc
    exact AllDigits.head_ne hwhole first rfl
  | nil =>
    cases hfraction with
    | absent => exact absurd rfl hne
    | point hdigits =>
      intro c hc
      obtain rfl := Option.some.inj hc
      decide

/-- **The numerals are what the reader takes for one.** -/
theorem ofChars?_isSome_iff (text : List Char) :
    (Numeral.ofChars? text).isSome = true ↔ IsNumeral text := by
  constructor
  · intro h
    simp only [Numeral.ofChars?] at h
    split at h
    · cases h
    · next hempty =>
      rw [Option.isSome_map, exponentOf?_isSome_iff] at h
      obtain ⟨sign, hsign, htext⟩ := exists_sign text
      obtain ⟨fraction, hfraction, hrest⟩ :=
        exists_fraction (splitDigits (splitSign text).2).2
      have hmagnitude : IsMagnitude ((splitDigits (splitSign text).2).1
          ++ (fraction ++ (splitFraction (splitDigits (splitSign text).2).2).2)) := by
        refine .intro (allDigits_splitDigits _) hfraction h fun hnil => hempty ?_
        obtain ⟨hwhole, hdigits⟩ := List.append_eq_nil_iff.mp hnil
        simp [hwhole, hdigits]
      rw [← hrest, splitDigits_append_eq] at hmagnitude
      rw [htext]
      exact .intro hsign hmagnitude
  · rintro ⟨hsign, hmagnitude⟩
    have hhead := hmagnitude.head_ne
    obtain ⟨hwhole, hfraction, hexponent, hne⟩ := hmagnitude
    next sign whole fraction digits exponent =>
    -- behind each part stands a character at which the scan of that part stops
    have hmark : ∀ c ∈ exponent.head?, c.isDigit = false ∧ c ≠ '.' := by
      intro c hc
      rcases hexponent.head_eq c hc with rfl | rfl <;> decide
    have hpoint : ∀ c ∈ (fraction ++ exponent).head?, c.isDigit = false := by
      intro c hc
      cases hfraction with
      | absent => exact (hmark c hc).1
      | point hdigits =>
        obtain rfl := Option.some.inj hc
        decide
    have hnonempty : (whole.isEmpty && digits.isEmpty) = false := by
      rw [Bool.eq_false_iff]
      simpa using hne
    simp only [Numeral.ofChars?, splitSign_append hsign hhead, splitDigits_append hwhole hpoint,
      splitFraction_append hfraction hmark, hnonempty, Bool.false_eq_true, ↓reduceIte,
      Option.isSome_map]
    exact (exponentOf?_isSome_iff exponent).mpr hexponent

instance (text : List Char) : Decidable (IsNumeral text) :=
  decidable_of_iff _ (ofChars?_isSome_iff text)

theorem special_isSome_iff (text : List Char) :
    (Special.ofChars? text).isSome = true ↔ IsWord text := by
  simp only [Special.ofChars?, IsWord, List.mem_cons, List.not_mem_nil, or_false]
  split
  · next h => simpa using h.imp_right Or.inl
  · next h =>
    split
    · next hnan => simpa using Or.inr (Or.inr hnan)
    · next hnan =>
      refine iff_of_false Bool.false_ne_true ?_
      rintro (hinf | hinfinity | hnan')
      · exact h (Or.inl hinf)
      · exact h (Or.inr hinfinity)
      · exact hnan hnan'

/-- No word for a number begins with a sign. -/
theorem IsWord.head_ne {word : List Char} (h : IsWord word) :
    ∀ c ∈ word.head?, c ≠ '-' ∧ c ≠ '+' := by
  intro c hc
  have hletter : c.toLower ∈ (word.map Char.toLower).head? := by
    rw [List.head?_map]
    exact Option.mem_map_of_mem _ hc
  constructor <;>
  · rintro rfl
    simp only [IsWord, List.mem_cons, List.not_mem_nil, or_false] at h
    rcases h with h | h | h <;>
    · rw [h] at hletter
      exact absurd hletter (by decide)

/-- **What reads as a number is a numeral or a word.** -/
theorem readsAsFloat_iff (text : List Char) :
    readsAsFloat text = true ↔ IsNumeral text ∨ IsSpecialWord text := by
  rw [readsAsFloat, Bool.or_eq_true, ofChars?_isSome_iff, special_isSome_iff]
  refine or_congr_right ⟨fun h => ?_, ?_⟩
  · obtain ⟨sign, hsign, htext⟩ := exists_sign text
    rw [htext]
    exact .intro hsign h
  · rintro ⟨hsign, h⟩
    rwa [splitSign_append hsign h.head_ne]

/-! ## Numerals have digits, and words have none -/

theorem IsNumeral.exists_digit {text : List Char} (h : IsNumeral text) :
    ∃ c ∈ text, c.isDigit = true := by
  obtain ⟨hsign, hwhole, hfraction, hexponent, hne⟩ := h
  next sign whole fraction digits exponent =>
  obtain ⟨c, hc⟩ := List.exists_mem_of_ne_nil _ hne
  rcases List.mem_append.mp hc with hc | hc
  · exact ⟨c, by simp [hc], hwhole c hc⟩
  · cases hfraction with
    | absent => cases hc
    | point hdigits => exact ⟨c, by simp [hc], hdigits c hc⟩

theorem toLower_eq_of_isDigit {c : Char} (h : c.isDigit = true) : c.toLower = c := by
  have hdigits : (tenDigits.all fun d => d.toLower == d) = true := by decide
  simpa using List.all_eq_true.mp hdigits c (mem_tenDigits h)

theorem IsSpecialWord.not_digit {text : List Char} (h : IsSpecialWord text) :
    ∀ c ∈ text, c.isDigit = false := by
  obtain ⟨hsign, h⟩ := h
  next sign word =>
  intro c hc
  rcases List.mem_append.mp hc with hc | hc
  · have hsigns : sign.all (fun d => !d.isDigit) = true := by cases hsign <;> rfl
    simpa using List.all_eq_true.mp hsigns c hc
  · rw [Bool.eq_false_iff]
    intro hdigit
    have hmem : c ∈ word.map Char.toLower :=
      toLower_eq_of_isDigit hdigit ▸ List.mem_map_of_mem hc
    have hletters : ∀ letters ∈ ["inf".toList, "infinity".toList, "nan".toList],
        letters.all (fun d => !d.isDigit) = true := by decide
    have hletter := List.all_eq_true.mp (hletters _ h) c hmem
    rw [hdigit] at hletter
    cases hletter

/-- **No word is a numeral.** -/
theorem IsNumeral.not_isSpecialWord {text : List Char} (h : IsNumeral text) :
    ¬ IsSpecialWord text := by
  intro hword
  obtain ⟨c, hc, hdigit⟩ := h.exists_digit
  rw [hword.not_digit c hc] at hdigit
  cases hdigit

/-! ## Written numbers -/

theorem allDigits_toDigits (n : Nat) : AllDigits (Nat.toDigits 10 n) := fun _ hc =>
  Nat.isDigit_of_mem_toDigits (by decide) (by decide) hc

theorem allDigits_zeros (count : Nat) : AllDigits (zeros count).toList := by
  intro c hc
  rw [zeros, String.toList_ofList] at hc
  rw [List.eq_of_mem_replicate hc]
  decide

theorem AllDigits.take {digits : List Char} (h : AllDigits digits) (count : Nat) :
    AllDigits (digits.take count) := fun c hc => h c (List.mem_of_mem_take hc)

theorem AllDigits.drop {digits : List Char} (h : AllDigits digits) (count : Nat) :
    AllDigits (digits.drop count) := fun c hc => h c (List.mem_of_mem_drop hc)

theorem isMagnitude_toString (n : Nat) : IsMagnitude (toString n).toList := by
  rw [Nat.toString_eq_ofList_toDigits, String.toList_ofList]
  have hne : Nat.toDigits 10 n ++ [] ≠ [] := by simp
  simpa using IsMagnitude.intro (allDigits_toDigits n) .absent .absent hne

theorem isNumeral_toString_int (n : Int) : IsNumeral (toString n).toList := by
  cases n with
  | ofNat n => exact .intro .absent (isMagnitude_toString n)
  | negSucc n =>
    show IsNumeral ("-" ++ Nat.repr (n + 1)).toList
    rw [String.toList_append]
    exact .intro .minus (isMagnitude_toString (n + 1))

section Layout

variable {digits : List Char} (hdigits : AllDigits digits) (hne : digits ≠ [])

include hdigits hne

theorem isMagnitude_positionalText {whole : String} {last : List Char}
    (hwhole : IsFraction whole.toList last) (point : Int) :
    IsMagnitude (positionalText whole digits point).toList := by
  unfold positionalText
  split
  · have hzeros : AllDigits ((zeros (-point).toNat).toList ++ digits) :=
      allDigits_append.mpr ⟨allDigits_zeros _, hdigits⟩
    have hzero : AllDigits ['0'] := by decide
    simpa using IsMagnitude.intro hzero (.point hzeros) .absent (by simp)
  · split
    · simpa using IsMagnitude.intro (hdigits.take point.toNat)
        (.point (hdigits.drop point.toNat)) .absent (by simpa using hne)
    · have hall : AllDigits (digits ++ (zeros (point.toNat - digits.length)).toList) :=
        allDigits_append.mpr ⟨hdigits, allDigits_zeros _⟩
      simpa using IsMagnitude.intro hall hwhole .absent (by simp [hne])

theorem isMagnitude_scientificText (point : Int) :
    IsMagnitude (scientificText digits point).toList := by
  have hfirst : digits.take 1 ≠ [] := by simpa using hne
  have hsign : ∀ exponent : Int, ∃ sign, IsSign sign
      ∧ (if exponent < 0 then "e-" else "e+").toList = 'e' :: sign := by
    intro exponent
    split
    · exact ⟨['-'], .minus, rfl⟩
    · exact ⟨['+'], .plus, rfl⟩
  obtain ⟨sign, hsign, hmark⟩ := hsign (point - 1)
  have hexponent : IsExponent
      ((if point - 1 < 0 then "e-" else "e+").toList ++ (toString (point - 1).natAbs).toList) := by
    rw [hmark, Nat.toString_eq_ofList_toDigits, String.toList_ofList]
    exact .marked (Or.inl rfl) hsign (allDigits_toDigits _) Nat.toDigits_ne_nil
  have hfraction : IsFraction
      (if (digits.drop 1).isEmpty then "" else "." ++ String.ofList (digits.drop 1)).toList
      (digits.drop 1) := by
    split
    · next hempty =>
      rw [List.isEmpty_iff.mp hempty]
      exact .absent
    · simpa using IsFraction.point (hdigits.drop 1)
  have hmagnitude := IsMagnitude.intro (hdigits.take 1) hfraction hexponent (by simp [hfirst])
  unfold scientificText
  simpa only [String.toList_append, String.toList_ofList, List.append_assoc] using hmagnitude

end Layout

section Text

variable {layout : Layout} {last : List Char} (hwhole : IsFraction layout.whole.toList last)

include hwhole

/-- **A finite float is written as a numeral**, if the layout ends whole numbers with a fraction
or with nothing. -/
theorem isNumeral_layoutText {x : Float} {negative : Bool} {significand : Nat} {exponent : Int}
    (hx : Binary64.ofFloat x = .finite negative significand exponent) :
    IsNumeral (layout.text x).toList := by
  have hmagnitude : IsMagnitude
      (if significand = 0 then "0" ++ layout.whole
        else layout.magnitudeText (shortest layout.tie significand exponent)).toList := by
    split
    · have hzero : AllDigits ['0'] := by decide
      rw [String.toList_append]
      simpa using IsMagnitude.intro hzero hwhole .absent (by simp)
    · unfold Layout.magnitudeText
      dsimp only
      split
      · exact isMagnitude_positionalText (allDigits_toDigits _) Nat.toDigits_ne_nil hwhole _
      · exact isMagnitude_scientificText (allDigits_toDigits _) Nat.toDigits_ne_nil _
  simp only [Layout.text, hx]
  split
  · rw [String.toList_append]
    exact .intro .minus hmagnitude
  · exact .intro .absent hmagnitude

/-- **What a float is written as reads as a float.** -/
theorem readsAsFloat_layoutText (x : Float) : readsAsFloat (layout.text x).toList = true := by
  rw [readsAsFloat_iff]
  cases hx : Binary64.ofFloat x with
  | finite negative significand exponent => exact Or.inl (isNumeral_layoutText hwhole hx)
  | notANumber =>
    have hword : IsWord "NaN".toList := by decide
    rw [Layout.text, hx]
    exact Or.inr (.intro .absent hword)
  | infinite negative =>
    have hword : IsWord "inf".toList := by decide
    rw [Layout.text, hx]
    cases negative with
    | false => exact Or.inr (.intro .absent hword)
    | true =>
      have hsigned : IsSpecialWord "-inf".toList := .intro .minus hword
      exact Or.inr hsigned

end Text

/-- A number is never written as nothing. -/
theorem ne_nil_of_readsAsFloat {text : List Char} (h : readsAsFloat text = true) : text ≠ [] := by
  rintro rfl
  exact absurd h (by decide)

end Metasearch.Decimal
