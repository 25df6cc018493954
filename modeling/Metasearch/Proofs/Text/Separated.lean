import Metasearch.Proofs.Text.Symbols

set_option autoImplicit false

/-! # Cutting text at a connective

The connectives of a filter language are words between two spaces. Cutting a text at one of
them takes the occurrences from the left, without overlap (`cut`); a reader may look for them
everywhere, or only where no parenthesis is open (`Reach`).

That the pieces put together come back is not a matter of course: a piece that ends or begins
with the connective itself, or contains it, would be cut elsewhere. The condition `Free` says
of a piece that none of its words behind a space is the connective. It speaks of the piece
alone, and `cut_intercalate` shows that it is enough.
-/

namespace Metasearch.Text

def space : Symbol := .plain ' '

/-- A word as a separator, between two spaces. -/
def spaced (word : List Symbol) : List Symbol := space :: (word ++ [space])

/-- Where a separator is looked for. -/
inductive Reach where
  | everywhere
  | outsideParentheses
  deriving Repr, DecidableEq

/-- Whether a separator counts when `depth` parentheses are open. -/
def Reach.admits (reach : Reach) (depth : Nat) : Bool :=
  match reach with
  | .everywhere => true
  | .outsideParentheses => depth == 0

/-- How many parentheses are open behind a symbol. -/
def depthAfter (depth : Nat) (symbol : Symbol) : Nat :=
  if symbol = .plain '(' then depth + 1
  else if symbol = .plain ')' then depth - 1
  else depth

/-- Puts a symbol in front of the first of some pieces. -/
def attach (symbol : Symbol) : List (List Symbol) → List (List Symbol)
  | [] => [[symbol]]
  | piece :: pieces => (symbol :: piece) :: pieces

/-- Cuts a text with `depth` parentheses open, of which `skip` symbols still belong to the
separator found last. -/
def cutFrom (reach : Reach) (separator : List Symbol) : Nat → Nat → List Symbol →
    List (List Symbol)
  | _, _, [] => [[]]
  | depth, skip + 1, _ :: rest => cutFrom reach separator depth skip rest
  | depth, 0, symbol :: rest =>
    if reach.admits depth ∧ separator <+: symbol :: rest then
      [] :: cutFrom reach separator depth (separator.length - 1) rest
    else attach symbol (cutFrom reach separator (depthAfter depth symbol) 0 rest)

/-- The pieces of a text between the occurrences of a separator. -/
def cut (reach : Reach) (separator text : List Symbol) : List (List Symbol) :=
  cutFrom reach separator 0 0 text

theorem mem_intercalate {symbol : Symbol} {separator : List Symbol} {pieces : List (List Symbol)}
    (h : symbol ∈ separator.intercalate pieces) :
    symbol ∈ separator ∨ ∃ piece ∈ pieces, symbol ∈ piece := by
  induction pieces with
  | nil => cases h
  | cons piece pieces ih =>
    cases pieces with
    | nil => exact Or.inr ⟨piece, List.mem_cons_self, by simpa using h⟩
    | cons next pieces =>
      rw [List.intercalate_cons_cons, List.mem_append, List.mem_append] at h
      rcases h with (h | h) | h
      · exact Or.inr ⟨piece, List.mem_cons_self, h⟩
      · exact Or.inl h
      · rcases ih h with h | ⟨other, hother, h⟩
        · exact Or.inl h
        · exact Or.inr ⟨other, List.mem_cons_of_mem piece hother, h⟩

/-! ## The first word -/

/-- The symbols up to the first space. -/
def firstWord (text : List Symbol) : List Symbol := text.takeWhile (· ≠ space)

theorem firstWord_append_space (text rest : List Symbol) :
    firstWord (text ++ space :: rest) = firstWord text := by
  induction text with
  | nil => simp [firstWord]
  | cons symbol text ih =>
    by_cases h : symbol = space
    · simp [firstWord, h]
    · simpa [firstWord, h] using ih

theorem firstWord_of_not_mem {text : List Symbol} (h : space ∉ text) : firstWord text = text := by
  induction text with
  | nil => rfl
  | cons symbol text ih =>
    obtain ⟨hsymbol, htext⟩ := not_or.mp (fun hor => h (List.mem_cons.mpr hor))
    have ih := ih htext
    simpa [firstWord, Ne.symm hsymbol] using ih

theorem firstWord_words {first : List Symbol} {words : List (List Symbol)}
    (h : ∀ w ∈ first :: words, space ∉ w) :
    firstWord ([space].intercalate (first :: words)) = first := by
  have hfirst := firstWord_of_not_mem (h first List.mem_cons_self)
  cases words with
  | nil => simpa using hfirst
  | cons next words =>
    rw [List.intercalate_cons_cons, List.append_assoc, List.singleton_append,
      firstWord_append_space, hfirst]

/-- A text that goes on with a word and a space has that word as its first. -/
theorem firstWord_eq_of_leads {word text rest : List Symbol} (hword : space ∉ word)
    (h : word ++ [space] <+: text ++ space :: rest) : firstWord text = word := by
  obtain ⟨tail, htail⟩ := h
  have heq : word ++ space :: tail = text ++ space :: rest := by simpa using htail
  calc firstWord text
      = firstWord (text ++ space :: rest) := (firstWord_append_space text rest).symm
    _ = firstWord (word ++ space :: tail) := by rw [heq]
    _ = word := by rw [firstWord_append_space, firstWord_of_not_mem hword]

/-! ## Pieces without the connective -/

/-- No word behind a space in `text` is `word`. -/
def Free (word : List Symbol) : List Symbol → Prop
  | [] => True
  | symbol :: rest => (symbol = space → firstWord rest ≠ word) ∧ Free word rest

theorem free_of_not_mem (word : List Symbol) {text : List Symbol} (h : space ∉ text) :
    Free word text := by
  induction text with
  | nil => trivial
  | cons symbol text ih =>
    obtain ⟨hsymbol, htext⟩ := not_or.mp (fun hor => h (List.mem_cons.mpr hor))
    exact ⟨fun heq => absurd heq.symm hsymbol, ih htext⟩

theorem free_append_space {word text rest : List Symbol} :
    Free word (text ++ space :: rest) ↔
      Free word text ∧ firstWord rest ≠ word ∧ Free word rest := by
  induction text with
  | nil => simp [Free]
  | cons symbol text ih =>
    simp only [List.cons_append, Free, ih, firstWord_append_space, and_assoc]

theorem free_cons {word text : List Symbol} {symbol : Symbol} (hsymbol : symbol ≠ space)
    (h : Free word text) : Free word (symbol :: text) :=
  ⟨fun heq => absurd heq hsymbol, h⟩

/-- A symbol at the end that the word does not contain makes no difference. -/
theorem free_snoc {word text : List Symbol} {symbol : Symbol} (hsymbol : symbol ≠ space)
    (hword : symbol ∉ word) (h : Free word text) : Free word (text ++ [symbol]) := by
  induction text with
  | nil => exact free_cons hsymbol trivial
  | cons first text ih =>
    refine ⟨fun hfirst (heq : firstWord (text ++ [symbol]) = word) => ?_, ih h.2⟩
    -- the new symbol is in the first word only if there is no space before it
    by_cases hmem : space ∈ text
    · obtain ⟨before, after, rfl⟩ := List.append_of_mem hmem
      have hsame : firstWord ((before ++ space :: after) ++ [symbol])
          = firstWord (before ++ space :: after) := by
        rw [List.append_assoc, List.cons_append, firstWord_append_space, firstWord_append_space]
      exact h.1 hfirst (hsame ▸ heq)
    · have hall : space ∉ text ++ [symbol] := by simp [hmem, Ne.symm hsymbol]
      have hlast : symbol ∈ text ++ [symbol] := by simp
      rw [firstWord_of_not_mem hall] at heq
      exact hword (heq ▸ hlast)

/-- A text of several words has the connective among them or is free of it. -/
theorem free_words {word : List Symbol} {words : List (List Symbol)}
    (hspace : ∀ w ∈ words, space ∉ w) (htail : ∀ w ∈ words.tail, w ≠ word) :
    Free word ([space].intercalate words) := by
  induction words with
  | nil => trivial
  | cons first words ih =>
    obtain ⟨hfirst, hrest⟩ := List.forall_mem_cons.mp hspace
    cases words with
    | nil => simpa using free_of_not_mem word hfirst
    | cons next words =>
      obtain ⟨hnext, hlater⟩ := List.forall_mem_cons.mp htail
      rw [List.intercalate_cons_cons, List.append_assoc, List.singleton_append,
        free_append_space]
      refine ⟨free_of_not_mem word hfirst, ?_, ih hrest hlater⟩
      rwa [firstWord_words hrest]

/-- Joining by another connective keeps pieces free, if none of them begins with the word. -/
theorem free_intercalate {word between : List Symbol} (hbetween : space ∉ between)
    (hne : between ≠ word) {pieces : List (List Symbol)} (hfree : ∀ p ∈ pieces, Free word p)
    (hfirst : ∀ p ∈ pieces, firstWord p ≠ word) :
    Free word ((spaced between).intercalate pieces) := by
  induction pieces with
  | nil => trivial
  | cons piece pieces ih =>
    obtain ⟨hpiece, hrest⟩ := List.forall_mem_cons.mp hfree
    obtain ⟨_, hfirsts⟩ := List.forall_mem_cons.mp hfirst
    cases pieces with
    | nil => simpa using hpiece
    | cons next pieces =>
      -- the first word of what is left is that of the next piece
      have hnext : firstWord ((spaced between).intercalate (next :: pieces)) ≠ word := by
        have hword := hfirsts next List.mem_cons_self
        cases pieces with
        | nil => simpa using hword
        | cons third pieces =>
          rwa [List.intercalate_cons_cons, List.append_assoc, spaced, List.cons_append,
            firstWord_append_space]
      rw [List.intercalate_cons_cons, spaced, List.append_assoc, List.cons_append,
        List.append_assoc, List.singleton_append, free_append_space, firstWord_append_space,
        firstWord_of_not_mem hbetween, free_append_space]
      exact ⟨hpiece, hne, free_of_not_mem word hbetween, hnext, ih hrest hfirsts⟩

/-! ## Pieces that are not cut -/

/-- No separator that counts begins inside `text`, even if a separator follows it. -/
def Whole (reach : Reach) (separator : List Symbol) : Nat → List Symbol → Prop
  | _, [] => True
  | depth, symbol :: rest =>
    (reach.admits depth = true → ∀ more, ¬ separator <+: symbol :: (rest ++ (separator ++ more)))
      ∧ Whole reach separator (depthAfter depth symbol) rest

/-- A piece is whole if the separator begins with a symbol that is not in it. -/
theorem whole_of_not_mem (reach : Reach) {first : Symbol} (others : List Symbol) (depth : Nat)
    {text : List Symbol} (h : first ∉ text) : Whole reach (first :: others) depth text := by
  induction text generalizing depth with
  | nil => trivial
  | cons symbol text ih =>
    obtain ⟨hsymbol, htext⟩ := not_or.mp (fun hor => h (List.mem_cons.mpr hor))
    refine ⟨fun _ more hleads => ?_, ih _ htext⟩
    exact hsymbol (List.cons_prefix_cons.mp hleads).1

theorem Free.whole (reach : Reach) (depth : Nat) {word text : List Symbol} (hword : space ∉ word)
    (h : Free word text) : Whole reach (spaced word) depth text := by
  induction text generalizing depth with
  | nil => trivial
  | cons symbol text ih =>
    refine ⟨fun _ more hprefix => ?_, ih _ h.2⟩
    -- the separator that follows begins with a space, so it cannot complete the word
    obtain ⟨hspace, hrest⟩ := List.cons_prefix_cons.mp hprefix
    exact h.1 hspace.symm (firstWord_eq_of_leads hword hrest)

/-- How many parentheses are open behind a text. -/
def depthOf (depth : Nat) (text : List Symbol) : Nat := text.foldl depthAfter depth

theorem depthOf_eq {text : List Symbol} (depth : Nat) (hopen : .plain '(' ∉ text)
    (hclose : .plain ')' ∉ text) : depthOf depth text = depth := by
  induction text generalizing depth with
  | nil => rfl
  | cons symbol text ih =>
    obtain ⟨hs, ht⟩ := not_or.mp (fun hor => hopen (List.mem_cons.mpr hor))
    obtain ⟨hs', ht'⟩ := not_or.mp (fun hor => hclose (List.mem_cons.mpr hor))
    have hstep : depthAfter depth symbol = depth := by
      rw [depthAfter, if_neg (Ne.symm hs), if_neg (Ne.symm hs')]
    show depthOf (depthAfter depth symbol) text = depth
    rw [hstep, ih depth ht ht']

/-- Parentheses around a text that has none are closed behind it. -/
theorem depthOf_enclosed {text : List Symbol} (hopen : .plain '(' ∉ text)
    (hclose : .plain ')' ∉ text) : depthOf 0 (.plain '(' :: (text ++ [.plain ')'])) = 0 := by
  have hinner : depthOf 1 text = 1 := depthOf_eq 1 hopen hclose
  show depthOf 1 (text ++ [.plain ')']) = 0
  rw [depthOf, List.foldl_append]
  show depthAfter (depthOf 1 text) (.plain ')') = 0
  rw [hinner]
  decide

/-- Between parentheses nothing is cut by a reader who does not look there. -/
theorem whole_inside (separator : List Symbol) {depth : Nat} (hdepth : 0 < depth)
    {text : List Symbol} (hopen : .plain '(' ∉ text) (hclose : .plain ')' ∉ text) :
    Whole .outsideParentheses separator depth (text ++ [.plain ')']) := by
  have hadmits : Reach.outsideParentheses.admits depth = false := by
    simp [Reach.admits]; omega
  induction text with
  | nil => exact ⟨fun h => by simp [hadmits] at h, trivial⟩
  | cons symbol text ih =>
    obtain ⟨hs, ht⟩ := not_or.mp (fun hor => hopen (List.mem_cons.mpr hor))
    obtain ⟨hs', ht'⟩ := not_or.mp (fun hor => hclose (List.mem_cons.mpr hor))
    refine ⟨fun h => by simp [hadmits] at h, ?_⟩
    rw [depthAfter, if_neg (Ne.symm hs), if_neg (Ne.symm hs')]
    exact ih ht ht'

/-! ## Cutting what was joined -/

theorem cutFrom_skip (reach : Reach) (separator : List Symbol) (depth : Nat)
    (skipped rest : List Symbol) :
    cutFrom reach separator depth skipped.length (skipped ++ rest)
      = cutFrom reach separator depth 0 rest := by
  induction skipped with
  | nil => rfl
  | cons symbol skipped ih => exact ih

theorem Whole.cutFrom_eq {reach : Reach} {separator : List Symbol} {depth : Nat}
    {piece : List Symbol} (h : Whole reach separator depth piece) :
    cutFrom reach separator depth 0 piece = [piece] := by
  induction piece generalizing depth with
  | nil => rfl
  | cons symbol piece ih =>
    have hhere : ¬ (reach.admits depth = true ∧ separator <+: symbol :: piece) := by
      rintro ⟨hadmits, hprefix⟩
      refine h.1 hadmits [] ?_
      exact hprefix.trans (List.prefix_append (symbol :: piece) (separator ++ []))
    rw [cutFrom, if_neg hhere, ih h.2]
    rfl

theorem Whole.cutFrom_append {reach : Reach} {separator : List Symbol} {depth : Nat}
    {piece : List Symbol} (h : Whole reach separator depth piece) (hne : separator ≠ [])
    (hdepth : reach.admits (depthOf depth piece) = true) (rest : List Symbol) :
    cutFrom reach separator depth 0 (piece ++ (separator ++ rest))
      = piece :: cutFrom reach separator (depthOf depth piece) 0 rest := by
  induction piece generalizing depth with
  | nil =>
    obtain ⟨first, others, rfl⟩ := List.exists_cons_of_ne_nil hne
    have hhere : reach.admits depth = true ∧ first :: others <+: first :: (others ++ rest) :=
      ⟨hdepth, List.prefix_append (first :: others) rest⟩
    show cutFrom reach (first :: others) depth 0 (first :: (others ++ rest)) = _
    -- the separator is found here, and the rest of it is skipped
    rw [cutFrom, if_pos hhere]
    exact congrArg _ (cutFrom_skip reach (first :: others) depth others rest)
  | cons symbol piece ih =>
    have hhere : ¬ (reach.admits depth = true
        ∧ separator <+: symbol :: (piece ++ (separator ++ rest))) :=
      fun hboth => h.1 hboth.1 rest hboth.2
    rw [List.cons_append, cutFrom, if_neg hhere, ih h.2 hdepth]
    rfl

/-- **Pieces that are whole come back** when they are joined by a separator and cut at it. -/
theorem cut_intercalate {reach : Reach} {separator : List Symbol} (hne : separator ≠ [])
    {pieces : List (List Symbol)} (hpieces : pieces ≠ [])
    (hwhole : ∀ piece ∈ pieces, Whole reach separator 0 piece)
    (hdepth : ∀ piece ∈ pieces, depthOf 0 piece = 0) :
    cut reach separator (separator.intercalate pieces) = pieces := by
  have hadmits : reach.admits 0 = true := by cases reach <;> rfl
  induction pieces with
  | nil => exact absurd rfl hpieces
  | cons piece pieces ih =>
    have hpiece := hwhole piece List.mem_cons_self
    cases pieces with
    | nil => simpa [cut] using hpiece.cutFrom_eq
    | cons next pieces =>
      have hzero := hdepth piece List.mem_cons_self
      rw [List.intercalate_cons_cons, List.append_assoc, cut,
        hpiece.cutFrom_append hne (by rw [hzero]; exact hadmits), hzero]
      -- behind the separator the reader is where it would be at the beginning
      congr 1
      exact ih (by simp) (fun p hp => hwhole p (List.mem_cons_of_mem piece hp))
        (fun p hp => hdepth p (List.mem_cons_of_mem piece hp))

end Metasearch.Text
