import Metasearch.Proofs.Filter.Meilisearch.Compiled
import Metasearch.Proofs.Filter.Meilisearch.Reader

set_option autoImplicit false

/-! # Reading a filter text back

Every leaf is written so that the reader passes over it and finds its field, its operator and
its values again: field names are clean, values are quoted or made of figures, and positions
are made of figures too. Groups add nothing to this but parentheses and connectives. So the
text of a condition determines its outline, however deeply it is nested and whatever its
values hold, and with `normal_eq_of_outline_eq` the condition itself: this is
`compile_reads_back`.
-/

namespace Metasearch.Filter.Meilisearch

open List (Forall₂)
open Condition (Occurs)
open Text

/-! ## Clean names -/

/-- The characters that have a meaning outside literals. -/
def marks : List Char := ['"', '(', ')', '[', ']', ',', ' ']

/-- A field name that is not empty and has no blanks, quotes, brackets, parentheses or commas. -/
def CleanName (name : String) : Prop :=
  name ≠ "" ∧ ∀ c ∈ name.toList, isBlank c = false ∧ c ∉ ['"', '(', ')', '[', ']', ',']

instance (name : String) : Decidable (CleanName name) :=
  inferInstanceAs (Decidable (name ≠ "" ∧
    ∀ c ∈ name.toList, isBlank c = false ∧ c ∉ ['"', '(', ')', '[', ']', ',']))

/-- A text without marks. -/
def Quiet (symbols : List Symbol) : Prop := ∀ c ∈ marks, .plain c ∉ symbols

theorem CleanName.quiet {name : String} (h : CleanName name) : Quiet (word name) := by
  intro c hc hmem
  refine not_mem_of_clean h.2 ?_ (mem_word.mp hmem)
  simpa [marks, or_comm, or_left_comm, or_assoc] using hc

theorem Quiet.space_not_mem {symbols : List Symbol} (h : Quiet symbols) : space ∉ symbols :=
  h ' ' (by decide)

theorem quiet_figures {text : String} (h : Decimal.InFigures text.toList) : Quiet (word text) := by
  have hmarks : ∀ c ∈ marks, c ∈ ['"', '(', ')', '[', ']', ',', ':', ' ', 'D', 'R', 'r', 's'] := by
    decide
  exact fun c hc hmem => h.not_mem (hmarks c hc) (mem_word.mp hmem)

theorem quiet_sign (comparison : Comparison) : Quiet (word comparison.symbol) := by
  cases comparison <;> (unfold Quiet; decide)

/-- A word with a mark in it is no connective. -/
theorem ne_connective {symbols : List Symbol} {c : Char} (hc : c ∈ marks)
    (hmem : .plain c ∈ symbols) (connective : Connective) :
    symbols ≠ word (connectiveWord connective) := by
  rintro rfl
  have hquiet : Quiet (word (connectiveWord connective)) := by
    cases connective <;> (unfold Quiet; decide)
  exact hquiet c hc hmem

/-! ## Literals -/

def Literal.symbols : Literal → List Symbol
  | .text content => [.literal content.toList]
  | .bare characters => word characters

theorem readLiteral?_symbols (value : Literal) : readLiteral? value.symbols = some value := by
  cases value with
  | text content => simp [Literal.symbols, readLiteral?]
  | bare text =>
    have hread := readWord?_word text
    unfold readLiteral?
    split
    · next content heq =>
      rw [Literal.symbols] at heq
      rw [heq] at hread
      cases hread
    · rw [Literal.symbols, hread, Option.map_some]

/-- What the reader needs to know of a literal. -/
structure Literal.Legible (value : Literal) : Prop where
  quiet : Quiet value.symbols
  nonempty : value.symbols ≠ []
  noConnective : ∀ connective, value.symbols ≠ word (connectiveWord connective)

theorem bool_not_mem (value : Bool) : ∀ c ∈ marks, c ∉ (Json.bool value).compact.toList := by
  cases value <;> simp [Json.compact, marks]

/-- The text of a scalar value is that of its literal. -/
theorem spells_literal {value : Json} (h : IsScalar value) :
    Spells (literal value).toList (literalOf value).symbols := by
  cases value with
  | string text => exact Spells.quote text
  | number n => exact Spells.word ((Decimal.inFigures_numberText n).not_mem (by decide))
  | bool value => exact Spells.word (bool_not_mem value '"' (by decide))
  | _ => exact absurd h id

theorem legible_literalOf {value : Json} (h : IsScalar value) : (literalOf value).Legible := by
  cases value with
  | string text =>
    refine ⟨?_, by simp [literalOf, Literal.symbols], fun connective heq => ?_⟩
    · intro c _
      simp [literalOf, Literal.symbols]
    · cases connective <;> simp [literalOf, Literal.symbols, word, connectiveWord] at heq
  | number n =>
    have hfigures := Decimal.inFigures_numberText n
    refine ⟨quiet_figures hfigures, ?_, ?_⟩
    · have hne := Decimal.numberText_ne_nil n
      simpa [literalOf, Literal.symbols, word, plains, Json.compact] using hne
    · intro connective heq
      have hsame : n.text = connectiveWord connective := word_injective heq
      rw [hsame] at hfigures
      cases connective <;> exact absurd hfigures (by decide)
  | bool value =>
    refine ⟨?_, ?_, ?_⟩
    · exact fun c hc hmem => bool_not_mem value c hc (mem_word.mp hmem)
    · cases value <;> simp [literalOf, Literal.symbols, word, Json.compact]
    · intro connective heq
      have hsame : (Json.bool value).compact = connectiveWord connective := word_injective heq
      cases value <;> cases connective <;> simp [Json.compact, connectiveWord] at hsame
  | _ => exact absurd h id

/-! ## Leaves in words -/

theorem between?_append (opening closing : String) (inner : List Symbol) :
    between? opening closing (word opening ++ (inner ++ word closing)) = some inner := by
  have hdrop : (word opening ++ (inner ++ word closing)).dropPrefix? (word opening)
      = some (inner ++ word closing) := List.dropPrefix?_append_of_beq _ (by simp)
  rw [between?, hdrop, Option.bind_some]
  exact List.dropSuffix?_eq_some_iff.mpr ⟨word closing, rfl, by simp⟩

/-- A text whose first word is a clean name and that has no parentheses begins like a leaf and
closes nothing. -/
theorem leafText_fielded {field : String} (hfield : CleanName field) {rest : List Symbol}
    (hopen : .plain '(' ∉ rest) (hclose : .plain ')' ∉ rest)
    (hfirst : ∀ connective, firstWord rest ≠ word (connectiveWord connective))
    (hfree : ∀ connective, Free (word (connectiveWord connective)) rest) :
    LeafText (word field ++ space :: rest) where
  starts := by
    intro heq
    have hne : field.toList ≠ [] := by
      rw [ne_eq, String.toList_eq_nil_iff]
      exact hfield.1
    obtain ⟨first, others, hchars⟩ := List.exists_cons_of_ne_nil hne
    have hword : word field = .plain first :: plains others := by rw [word, hchars, plains_cons]
    rw [hword, List.cons_append, List.head?_cons, Option.some.injEq, Symbol.plain.injEq] at heq
    exact hfield.quiet '(' (by decide) (by rw [hword, heq]; exact List.mem_cons_self)
  free := fun connective => free_append_space.mpr
    ⟨free_of_not_mem _ hfield.quiet.space_not_mem, hfirst connective, hfree connective⟩
  closes := by
    have hall := @closes_append 0 (word field ++ space :: rest)
      (by simpa [hfield.quiet '(' (by decide), space] using hopen)
      (by simpa [hfield.quiet ')' (by decide), space] using hclose) []
    rw [List.append_nil] at hall
    exact hall.mpr rfl

theorem readLeaf?_fielded {field : String} (hfield : CleanName field) (rest : List Symbol) :
    readLeaf? (word field ++ space :: rest)
      = readFielded? (word field :: rest.splitOn space) := by
  have hsplit := List.splitOn_append_cons_self_of_not_mem hfield.quiet.space_not_mem rest
  rw [readLeaf?, hsplit]
  exact if_neg (hfield.quiet '(' (by decide))

/-! ## Comparisons -/

theorem reads_comparison {field : String} (hfield : CleanName field) (comparison : Comparison)
    {value : Literal} (hvalue : value.Legible) :
    Reads (word field ++ space :: (word comparison.symbol ++ space :: value.symbols))
      (.comparison field comparison value) := by
  have hsign := quiet_sign comparison
  have hne : ∀ connective, word comparison.symbol ≠ word (connectiveWord connective) := by
    intro connective heq
    have hsame := word_injective heq
    cases comparison <;> cases connective <;> exact absurd hsame (by decide)
  -- outside the literal nothing is a parenthesis or a connective
  refine reads_leaf (leafText_fielded hfield ?_ ?_ ?_ ?_) ?_
  · simpa [hsign '(' (by decide), space] using hvalue.quiet '(' (by decide)
  · simpa [hsign ')' (by decide), space] using hvalue.quiet ')' (by decide)
  · intro connective
    rw [firstWord_append_space, firstWord_of_not_mem hsign.space_not_mem]
    exact hne connective
  · intro connective
    refine free_append_space.mpr ⟨free_of_not_mem _ hsign.space_not_mem, ?_, ?_⟩
    · rw [firstWord_of_not_mem hvalue.quiet.space_not_mem]
      exact hvalue.noConnective connective
    · exact free_of_not_mem _ hvalue.quiet.space_not_mem
  · rw [readLeaf?_fielded hfield,
      List.splitOn_append_cons_self_of_not_mem hsign.space_not_mem,
      List.splitOn_eq_singleton hvalue.quiet.space_not_mem]
    simp [readFielded?, readWord?_word, readComparison?_symbol, readLiteral?_symbols]

/-- A sign or word between two blanks, behind a clean name. -/
theorem spells_fielded {field : String} (hfield : CleanName field) {sign : String}
    (hsign : '"' ∉ sign.toList) {text : String} {symbols : List Symbol}
    (htext : Spells text.toList symbols) :
    Spells (field ++ " " ++ sign ++ " " ++ text).toList
      (word field ++ space :: (word sign ++ space :: symbols)) := by
  have hname : '"' ∉ field.toList := fun hmem => hfield.quiet '"' (by decide) (mem_word.mpr hmem)
  have hwords : Spells (field ++ " " ++ sign ++ " ").toList (word (field ++ " " ++ sign ++ " ")) :=
    Spells.word (by simp [hname, hsign])
  have hsymbols : word (field ++ " " ++ sign ++ " ") ++ symbols
      = word field ++ space :: (word sign ++ space :: symbols) := by
    simp only [word_append, List.append_assoc]
    rfl
  rw [String.toList_append, ← hsymbols]
  exact hwords.append htext

/-! ## Memberships -/

/-- The symbols of a list of values. -/
def listSymbols (values : List Literal) : List Symbol :=
  .plain '[' :: ((word ", ").intercalate (values.map Literal.symbols) ++ [.plain ']'])

theorem spells_list {values : List Json} (h : ∀ v ∈ values, IsScalar v) :
    Spells ("[" ++ ", ".intercalate (values.map literal) ++ "]").toList
      (listSymbols (values.map literalOf)) := by
  have hcomma : Spells ", ".toList (word ", ") := Spells.word (by decide)
  have hinner := Spells.intercalate hcomma (fun v : Json => (literal v).toList)
    (fun v => (literalOf v).symbols) values fun v hv => spells_literal (h v hv)
  have hopen : Spells "[".toList [.plain '['] := Spells.word (by decide)
  have hclose : Spells "]".toList [.plain ']'] := Spells.word (by decide)
  have hall := (hopen.append hinner).append hclose
  simpa [listSymbols, String.toList_append, String.toList_intercalate, Function.comp_def]
    using hall

section List

variable {values : List Literal} (hvalues : ∀ v ∈ values, v.Legible)

include hvalues

/-- **The values of a list are found again**: no value holds a comma outside a literal. -/
theorem readList?_list : readList? (listSymbols values) = some values := by
  have hbetween : between? "[" "]" (listSymbols values)
      = some ((word ", ").intercalate (values.map Literal.symbols)) := between?_append "[" "]" _
  rw [readList?, hbetween, Option.bind_eq_bind, Option.bind_some]
  by_cases hempty : values = []
  · subst hempty
    rfl
  · have hcut : cut .everywhere (word ", ")
        ((word ", ").intercalate (values.map Literal.symbols)) = values.map Literal.symbols := by
      refine cut_intercalate (by decide) (by simpa using hempty) ?_ ?_
      · intro piece hpiece
        obtain ⟨v, hv, rfl⟩ := List.mem_map.mp hpiece
        exact whole_of_not_mem .everywhere [space] 0 ((hvalues v hv).quiet ',' (by decide))
      · intro piece hpiece
        obtain ⟨v, hv, rfl⟩ := List.mem_map.mp hpiece
        exact depthOf_eq 0 ((hvalues v hv).quiet '(' (by decide))
          ((hvalues v hv).quiet ')' (by decide))
    -- a list of one empty value would look like an empty list, but no value is empty
    have hne : (word ", ").intercalate (values.map Literal.symbols) ≠ [] := by
      intro hnil
      have hpieces : values.map Literal.symbols = [[]] := by
        rw [← hcut, hnil]
        rfl
      obtain ⟨v, hv, hsymbols⟩ := List.mem_map.mp
        (show [] ∈ values.map Literal.symbols by rw [hpieces]; exact List.mem_cons_self)
      exact (hvalues v hv).nonempty hsymbols
    rw [if_neg hne, hcut]
    exact mapM_map_eq_some fun v _ => readLiteral?_symbols v

theorem not_mem_list {c : Char} (hc : c ∈ marks)
    (hfixed : .plain c ∉ word "[, ]") : .plain c ∉ listSymbols values := by
  have hcomma : Symbol.plain c ∉ word ", " := by
    simp [word] at hfixed ⊢
    tauto
  intro hmem
  rw [listSymbols, List.mem_cons, List.mem_append, List.mem_singleton] at hmem
  rcases hmem with heq | hmem | heq
  · simp [word, heq] at hfixed
  · rcases mem_intercalate hmem with hmem | ⟨piece, hpiece, hmem⟩
    · exact hcomma hmem
    · obtain ⟨v, hv, rfl⟩ := List.mem_map.mp hpiece
      exact (hvalues v hv).quiet c hc hmem
  · simp [word, heq] at hfixed

end List

theorem intercalate_comma (first next : List Symbol) (rest : List (List Symbol))
    (tail : List Symbol) :
    (word ", ").intercalate (first :: next :: rest) ++ tail
      = (first ++ [.plain ',']) ++ space :: ((word ", ").intercalate (next :: rest) ++ tail) := by
  have hword : word ", " = [.plain ',', space] := by decide
  rw [List.intercalate_cons_cons, hword]
  simp

/-- The first word of what is left of a list goes on to a comma or the bracket. -/
theorem mark_mem_firstWord {first : List Symbol} (hspace : space ∉ first)
    (rest : List (List Symbol)) :
    ∃ c ∈ marks, .plain c ∈
      firstWord ((word ", ").intercalate (first :: rest) ++ [.plain ']']) := by
  cases rest with
  | nil =>
    rw [List.intercalate_singleton, firstWord_of_not_mem (by simpa [space] using hspace)]
    exact ⟨']', by decide, by simp⟩
  | cons next rest =>
    rw [intercalate_comma, firstWord_append_space,
      firstWord_of_not_mem (by simpa [space] using hspace)]
    exact ⟨',', by decide, by simp⟩

/-- No word of a list is a connective. -/
theorem free_list {values : List Literal} (hvalues : ∀ v ∈ values, v.Legible)
    (connective : Connective) : Free (word (connectiveWord connective)) (listSymbols values) := by
  -- the bracket is out of the way, so that the rest of the list has the form of the whole
  refine free_cons (by decide) ?_
  induction values with
  | nil => exact free_of_not_mem _ (by decide)
  | cons first values ih =>
    obtain ⟨hfirst, hrest⟩ := List.forall_mem_cons.mp hvalues
    have hspace := hfirst.quiet.space_not_mem
    cases values with
    | nil =>
      rw [List.map_cons, List.map_nil, List.intercalate_singleton]
      exact free_of_not_mem _ (by simpa [space] using hspace)
    | cons next values =>
      have hnext := (hrest next List.mem_cons_self).quiet.space_not_mem
      obtain ⟨c, hc, hmem⟩ := mark_mem_firstWord hnext (values.map Literal.symbols)
      rw [List.map_cons, List.map_cons, intercalate_comma, free_append_space]
      refine ⟨free_of_not_mem _ (by simpa [space] using hspace), ?_, ih hrest⟩
      exact ne_connective hc hmem connective

theorem reads_membership {field : String} (hfield : CleanName field) (membership : Membership)
    {values : List Literal} (hvalues : ∀ v ∈ values, v.Legible) :
    Reads (word field ++ space :: (word (membershipWord membership) ++ space :: listSymbols values))
      (.membership field membership values) := by
  have hfirst : ∀ connective,
      firstWord (listSymbols values) ≠ word (connectiveWord connective) := by
    intro connective
    have hbracket : Symbol.plain '[' ∈ firstWord (listSymbols values) := by
      simp [listSymbols, firstWord, space]
    exact ne_connective (by decide) hbracket connective
  have hopen := not_mem_list hvalues (show '(' ∈ marks by decide) (by decide)
  have hclose := not_mem_list hvalues (show ')' ∈ marks by decide) (by decide)
  have hjoin : [space].intercalate ((listSymbols values).splitOn space) = listSymbols values :=
    List.intercalate_splitOn space
  -- `NOT IN` is two words for the reader, so the two memberships differ by a step
  cases membership with
  | among =>
    have hspace : space ∉ word "IN" := by decide
    refine reads_leaf (leafText_fielded hfield ?_ ?_ ?_ ?_) ?_
    · simpa [space, membershipWord, word] using hopen
    · simpa [space, membershipWord, word] using hclose
    · intro connective
      rw [membershipWord, firstWord_append_space, firstWord_of_not_mem hspace]
      cases connective <;> decide
    · exact fun connective => free_append_space.mpr
        ⟨free_of_not_mem _ hspace, hfirst connective, free_list hvalues connective⟩
    · have hcomparison : readComparison? (word "IN") = none := by decide
      rw [readLeaf?_fielded hfield, membershipWord,
        List.splitOn_append_cons_self_of_not_mem hspace]
      simp [readFielded?, readWord?_word, hcomparison, hjoin, readList?_list hvalues]
  | notAmong =>
    have hwords : word (membershipWord .notAmong) ++ space :: listSymbols values
        = word "NOT" ++ space :: (word "IN" ++ space :: listSymbols values) := rfl
    have hspace : space ∉ word "IN" := by decide
    have hspace' : space ∉ word "NOT" := by decide
    rw [hwords]
    refine reads_leaf (leafText_fielded hfield ?_ ?_ ?_ ?_) ?_
    · simpa [space, word] using hopen
    · simpa [space, word] using hclose
    · intro connective
      rw [firstWord_append_space, firstWord_of_not_mem hspace']
      cases connective <;> decide
    · intro connective
      refine free_append_space.mpr ⟨free_of_not_mem _ hspace', ?_, ?_⟩
      · rw [firstWord_append_space, firstWord_of_not_mem hspace]
        cases connective <;> decide
      · exact free_append_space.mpr
          ⟨free_of_not_mem _ hspace, hfirst connective, free_list hvalues connective⟩
    · have hcomparison : readComparison? (word "NOT") = none := by decide
      have hne : word "NOT" ≠ word "IN" := by decide
      rw [readLeaf?_fielded hfield, List.splitOn_append_cons_self_of_not_mem hspace',
        List.splitOn_append_cons_self_of_not_mem hspace]
      simp [readFielded?, readWord?_word, hcomparison, hjoin, readList?_list hvalues, hne]

/-! ## Places -/

/-- The filter text `text` is read as the outline `outline`. -/
def ReadsAs (text : String) (outline : Outline) : Prop :=
  ∃ symbols, Spells text.toList symbols ∧ Reads symbols outline

/-- A text of some words with one pair of parentheses, which is not at its beginning. -/
theorem leafText_words {words : List (List Symbol)} (hspace : ∀ w ∈ words, space ∉ w)
    (htail : ∀ w ∈ words.tail, ∃ c ∈ marks, .plain c ∈ w) {name inner : List Symbol}
    (hwords : [space].intercalate words = name ++ .plain '(' :: (inner ++ [.plain ')']))
    (hname : name ≠ []) (hopen : .plain '(' ∉ name ∧ .plain '(' ∉ inner)
    (hclose : .plain ')' ∉ name ∧ .plain ')' ∉ inner) :
    LeafText ([space].intercalate words) where
  starts := by
    obtain ⟨first, others, rfl⟩ := List.exists_cons_of_ne_nil hname
    rw [hwords, List.cons_append, List.head?_cons, ne_eq, Option.some.injEq]
    exact fun heq => hopen.1 (heq ▸ List.mem_cons_self)
  free := by
    intro connective
    -- every word but the first has a mark in it, and a connective has none
    refine free_words hspace fun w hw => ?_
    obtain ⟨c, hc, hmem⟩ := htail w hw
    exact ne_connective hc hmem connective
  closes := by
    rw [hwords, closes_append hopen.1 hclose.1]
    refine ⟨by simp, ?_⟩
    show Closes 1 (inner ++ [.plain ')'])
    rw [closes_append hopen.2 hclose.2]
    exact ⟨fun _ => by decide, rfl⟩

/-- The words of a place are found again as they are. -/
theorem readLeaf?_place {words : List (List Symbol)} (hspace : ∀ w ∈ words, space ∉ w)
    (hopen : .plain '(' ∈ words.headD []) :
    readLeaf? ([space].intercalate words) = readPlace? words := by
  have hne : words ≠ [] := by
    rintro rfl
    cases hopen
  rw [readLeaf?, List.splitOn_intercalate space hspace hne]
  exact if_pos hopen

theorem between?_word (opening closing text : String) :
    (between? opening closing (word opening ++ (word text ++ word closing))).bind readWord?
      = some text := by
  rw [between?_append, Option.bind_some, readWord?_word]

/-- **A function of position is read by its words.** -/
theorem place_readsAs {text : String} {words : List (List Symbol)} {place : Outline}
    (hquote : '"' ∉ text.toList) (htext : word text = [space].intercalate words)
    (hspace : ∀ w ∈ words, space ∉ w) (hopen : .plain '(' ∈ words.headD [])
    (hleaf : LeafText ([space].intercalate words)) (hread : readPlace? words = some place) :
    ReadsAs text place := by
  refine ⟨word text, Spells.word hquote, ?_⟩
  rw [htext]
  apply reads_leaf hleaf
  rw [readLeaf?_place hspace hopen, hread]

/-- Figures are no marks. -/
theorem not_mem_figures {text : String} (h : Decimal.InFigures text.toList) {c : Char}
    (hc : c ∈ marks) : c ∉ text.toList :=
  fun hmem => quiet_figures h c hc (mem_word.mpr hmem)

theorem near_readsAs {lat lng distance : String} (hlat : Decimal.InFigures lat.toList)
    (hlng : Decimal.InFigures lng.toList) (hdistance : Decimal.InFigures distance.toList) :
    ReadsAs ("_geoRadius(" ++ lat ++ ", " ++ lng ++ ", " ++ distance ++ ")")
      (.near lat lng distance) := by
  -- the empty words keep all three words in one form, which `between?_word` takes apart
  obtain ⟨words, hwords⟩ : ∃ words, words =
      [word "_geoRadius(" ++ (word lat ++ word ","), word "" ++ (word lng ++ word ","),
        word "" ++ (word distance ++ word ")")] := ⟨_, rfl⟩
  have habsent : ∀ c ∈ marks, c ∉ lat.toList ∧ c ∉ lng.toList ∧ c ∉ distance.toList :=
    fun c hc => ⟨not_mem_figures hlat hc, not_mem_figures hlng hc, not_mem_figures hdistance hc⟩
  have hquote := habsent '"' (by decide)
  have hblank := habsent ' ' (by decide)
  have hopen := habsent '(' (by decide)
  have hclose := habsent ')' (by decide)
  have hspace : ∀ w ∈ words, space ∉ w := by simp [hwords, space, mem_word, hblank]
  refine place_readsAs (by simp [hquote]) (by simp [hwords, word, space]) hspace
    (by simp [hwords, mem_word]) ?_ ?_
  · refine @leafText_words words hspace ?_ (word "_geoRadius")
      (word lat ++ word ", " ++ word lng ++ word ", " ++ word distance) ?_ (by decide) ?_ ?_
    · simp [hwords, marks, mem_word]
    · simp [hwords, word, space]
    · simp [hopen, mem_word]
    · simp [hclose, mem_word]
  · rw [hwords]
    simp only [readPlace?, between?_word, Option.bind_eq_bind, Option.bind_some]
    rfl

theorem within_readsAs {north east south west : String}
    (hnorth : Decimal.InFigures north.toList) (heast : Decimal.InFigures east.toList)
    (hsouth : Decimal.InFigures south.toList) (hwest : Decimal.InFigures west.toList) :
    ReadsAs ("_geoBoundingBox([" ++ north ++ ", " ++ east ++ "], [" ++ south ++ ", " ++ west
      ++ "])") (.within north east south west) := by
  obtain ⟨words, hwords⟩ : ∃ words, words =
      [word "_geoBoundingBox([" ++ (word north ++ word ","), word "" ++ (word east ++ word "],"),
        word "[" ++ (word south ++ word ","), word "" ++ (word west ++ word "])")] := ⟨_, rfl⟩
  have habsent : ∀ c ∈ marks, c ∉ north.toList ∧ c ∉ east.toList ∧ c ∉ south.toList
      ∧ c ∉ west.toList := fun c hc =>
    ⟨not_mem_figures hnorth hc, not_mem_figures heast hc, not_mem_figures hsouth hc,
      not_mem_figures hwest hc⟩
  have hquote := habsent '"' (by decide)
  have hblank := habsent ' ' (by decide)
  have hopen := habsent '(' (by decide)
  have hclose := habsent ')' (by decide)
  have hspace : ∀ w ∈ words, space ∉ w := by simp [hwords, space, mem_word, hblank]
  refine place_readsAs (by simp [hquote]) (by simp [hwords, word, space]) hspace
    (by simp [hwords, mem_word]) ?_ ?_
  · refine @leafText_words words hspace ?_ (word "_geoBoundingBox")
      (word "[" ++ word north ++ word ", " ++ word east ++ word "], [" ++ word south
        ++ word ", " ++ word west ++ word "]") ?_ (by decide) ?_ ?_
    · simp [hwords, marks, mem_word]
    · simp [hwords, word, space]
    · simp [hopen, mem_word]
    · simp [hclose, mem_word]
  · rw [hwords]
    simp only [readPlace?, between?_word, Option.bind_eq_bind, Option.bind_some]
    rfl

/-! ## Conditions -/

/-- A condition whose filter text can be told apart: its names are clean and its values are
scalar. -/
structure Legible (identifier : String) (c : Condition) : Prop where
  identifier : CleanName identifier
  fields : ∀ field ∈ c.fields, CleanName field
  scalars : Scalars c

theorem Legible.member {identifier : String} {connective : Connective}
    {members : List Condition} (h : Legible identifier (.group connective members))
    {c : Condition} (hc : c ∈ members) : Legible identifier c where
  identifier := h.identifier
  fields := by
    intro field hfield
    refine h.fields field ?_
    rw [Condition.fields_group, Condition.mem_fieldsOfAll]
    exact ⟨c, hc, hfield⟩
  scalars := h.scalars.member hc

theorem leaf_readsAs {identifier : String} {c : Condition}
    (hleaf : ∀ connective members, c ≠ .group connective members)
    (hlegible : Legible identifier c) {text : String}
    (h : compile identifier c = .ok (.filter text)) : ReadsAs text (outline identifier c) := by
  have hvalues : ∀ v ∈ leafValues c, IsScalar v := hlegible.scalars c (Condition.occurs_self c)
  have hcoordinate : ∀ x, Decimal.InFigures (coordinate x).toList := Decimal.inFigures_plain
  cases c with
  | search query => cases h
  | identifier id =>
    cases h
    have hsign : identifier ++ " = " = identifier ++ " " ++ "=" ++ " " := by
      rw [String.append_assoc, String.append_assoc]
      rfl
    rw [hsign]
    have hliteral : (Literal.text id).Legible := @legible_literalOf (.string id) trivial
    exact ⟨_, spells_fielded hlegible.identifier (by decide) (Spells.quote id),
      reads_comparison hlegible.identifier .equal hliteral⟩
  | compare field comparison value =>
    cases h
    have hfield := hlegible.fields field (by simp [Condition.fields])
    have hvalue := hvalues value List.mem_cons_self
    have hsign : '"' ∉ comparison.symbol.toList :=
      fun hmem => quiet_sign comparison '"' (by decide) (mem_word.mpr hmem)
    exact ⟨_, spells_fielded hfield hsign (spells_literal hvalue),
      reads_comparison hfield comparison (legible_literalOf hvalue)⟩
  | member field membership values =>
    cases h
    have hfield := hlegible.fields field (by simp [Condition.fields])
    have hword : '"' ∉ (membershipWord membership).toList := by cases membership <;> decide
    have htext : memberExpression field membership values
        = field ++ " " ++ membershipWord membership ++ " "
          ++ ("[" ++ ", ".intercalate (values.map literal) ++ "]") := by
      apply String.toList_inj.mp
      simp [memberExpression]
    rw [htext]
    refine ⟨_, spells_fielded hfield hword (spells_list hvalues),
      reads_membership hfield membership ?_⟩
    intro v hv
    obtain ⟨w, hw, rfl⟩ := List.mem_map.mp hv
    exact legible_literalOf (hvalues w hw)
  | near field lat lng distance =>
    cases h
    exact near_readsAs (hcoordinate lat) (hcoordinate lng) (hcoordinate distance)
  | within field box =>
    cases h
    exact within_readsAs (hcoordinate box.north) (hcoordinate box.east) (hcoordinate box.south)
      (hcoordinate box.west)
  | group connective members => exact absurd rfl (hleaf connective members)

/-- **The text of a condition is read as its outline.** The induction is on the tree; a leaf is
read by its words, a group by its members. -/
theorem compile_readsAs {identifier : String} (c : Condition) :
    Legible identifier c → ∀ text, compile identifier c = .ok (.filter text) →
      ReadsAs text (outline identifier c) := by
  induction c using Condition.induction with
  | leaf c hleaf => exact fun hlegible text h => leaf_readsAs hleaf hlegible h
  | group connective members ih =>
    intro hlegible text h
    obtain ⟨hne, parts, hparts, hp⟩ := compile_group.mp h
    cases hp
    -- one list of symbols for each member, which spells its text and is read as its outline
    obtain ⟨texts, hreads, hspells⟩ := @forall₂_choose _ _ _ _
      (fun c symbols => Reads symbols (outline identifier c))
      (fun part symbols => Spells part.toList symbols) _ _ hparts (by
        intro c hc part hpart
        obtain ⟨symbols, hspells, hreads⟩ := ih c hc (hlegible.member hc) part hpart
        exact ⟨symbols, hreads, hspells⟩)
    have hmembers : Forall₂ Reads texts (members.map (outline identifier)) := by
      rw [List.forall₂_map_right_iff]
      exact hreads.flip
    have hgroup := reads_group hmembers (by simpa using hne) connective
    rw [List.length_map] at hgroup
    rw [outline_group]
    refine ⟨_, ?_, hgroup⟩
    -- what is left is that the symbols of the group spell its text
    have hword : Spells (" " ++ connectiveWord connective ++ " ").toList
        (spaced (word (connectiveWord connective))) := by
      cases connective <;> exact Spells.word (by decide)
    have hinner : Spells ((" " ++ connectiveWord connective ++ " ").intercalate parts).toList
        ((spaced (word (connectiveWord connective))).intercalate texts) := by
      rw [String.toList_intercalate]
      refine hword.intercalate_forall₂ ?_
      rw [List.forall₂_map_left_iff]
      exact hspells
    have hopen : Spells "(".toList [.plain '('] := Spells.word (by decide)
    have hclose : Spells ")".toList [.plain ')'] := Spells.word (by decide)
    have hall := (hopen.append hinner).append hclose
    simpa [groupExpression, String.toList_append] using hall

theorem readFilter?_of_readsAs {text : String} {outline : Outline} (h : ReadsAs text outline) :
    readFilter? text = some outline := by
  obtain ⟨symbols, hspells, closed, pending, hrun, _, hfinish⟩ := h
  rw [readFilter?, hspells.symbols?_eq, Option.bind_eq_bind, Option.bind_some, hrun,
    Option.bind_eq_bind, Option.bind_some]
  exact hfinish

/-- **A filter text determines its condition.** It is read back as the outline of the condition
it was compiled from, and two conditions with the same text are the same, up to what no text
shows and as far as numbers can be told apart by their texts. -/
theorem compile_reads_back {identifier : String} {c : Condition}
    (hlegible : Legible identifier c) {text : String}
    (h : compile identifier c = .ok (.filter text)) :
    readFilter? text = some (outline identifier c)
      ∧ ∀ d, Legible identifier d → compile identifier d = .ok (.filter text) → Told c d →
          normal identifier c = normal identifier d := by
  have hread := readFilter?_of_readsAs (compile_readsAs c hlegible text h)
  refine ⟨hread, fun d hlegible' h' htold => ?_⟩
  have hread' := readFilter?_of_readsAs (compile_readsAs d hlegible' text h')
  rw [hread] at hread'
  exact normal_eq_of_outline_eq c d hlegible.scalars hlegible'.scalars htold
    (Option.some.inj hread')

/-- Two conditions with one text: a group of one member does not show its connective, and an
identifier reads as a comparison. -/
def byIdentifier : Condition :=
  .group .conjunction
    [.group .disjunction [.identifier "7"], .member "size" .among [.ofNat 5, .string "x) OR (y"]]

def byComparison : Condition :=
  .group .conjunction
    [.group .conjunction [.compare "id" .equal (.string "7")],
      .member "size" .among [.ofNat 5, .string "x) OR (y"]]

/-- The values that occur in them. -/
theorem occurs_example {c leaf : Condition} (hc : c ∈ [byIdentifier, byComparison])
    (h : Occurs leaf c) : leafCoordinates leaf = []
      ∧ ∀ v ∈ leafValues leaf, v ∈ [.string "7", .ofNat 5, .string "x) OR (y"] := by
  simp only [List.mem_cons, List.not_mem_nil, or_false] at hc
  rcases hc with rfl | rfl
  all_goals
    simp only [byIdentifier, byComparison, Condition.occurs_group, List.mem_cons,
      List.not_mem_nil, or_false, exists_eq_or_imp, exists_eq_left] at h
    rcases h with rfl | (rfl | h) | h
    · simp [leafCoordinates, leafValues]
    · simp [leafCoordinates, leafValues]
    · rw [(Condition.occurs_of_leaf (by simp)).mp h]
      simp [leafCoordinates, leafValues]
    · rw [(Condition.occurs_of_leaf (by simp)).mp h]
      simp [leafCoordinates, leafValues]

theorem legible_example {c : Condition} (hc : c ∈ [byIdentifier, byComparison]) :
    Legible "id" c where
  identifier := by decide
  fields := by
    have hall : ∀ c ∈ [byIdentifier, byComparison], ∀ field ∈ c.fields, CleanName field := by
      intro c hc
      simp only [List.mem_cons, List.not_mem_nil, or_false] at hc
      rcases hc with rfl | rfl <;> decide
    exact hall c hc
  scalars := by
    intro leaf h v hv
    have hmem := (occurs_example hc h).2 v hv
    simp only [List.mem_cons, List.not_mem_nil, or_false] at hmem
    rcases hmem with rfl | rfl | rfl <;> trivial

theorem told_example : Told byIdentifier byComparison where
  numbers := by
    have hfive : ∀ m : Number, Json.number m ∈ [.string "7", .ofNat 5, .string "x) OR (y"] →
        m = .integer 5 := by
      intro m hm
      simpa [Json.ofNat] using hm
    intro leaf hleaf other hother m hm n hn _
    rw [hfive m ((occurs_example (by simp) hleaf).2 _ hm),
      hfive n ((occurs_example (by simp) hother).2 _ hn)]
  coordinates := by
    intro leaf hleaf other _ x hx
    rw [(occurs_example (by simp) hleaf).1] at hx
    cases hx

theorem byIdentifier_reads_back :
    readFilter? "((id = \"7\") AND size IN [5, \"x) OR (y\"])" = some (outline "id" byIdentifier)
      ∧ normal "id" byIdentifier = normal "id" byComparison := by
  have hread := compile_reads_back (legible_example (List.mem_cons_self)) rfl
  exact ⟨hread.1, hread.2 byComparison (legible_example (by simp)) rfl told_example⟩

end Metasearch.Filter.Meilisearch
