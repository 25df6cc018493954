import Metasearch.Proofs.Engine.AlgoliaBody
import Metasearch.Proofs.Filter.Algolia.Terms
import Metasearch.Proofs.Text.Separated

set_option autoImplicit false

/-! # Reading a filter text back

Whether a compiled filter means what it should can only be said by someone who reads it. The
reader here knows the filter language and nothing of the compiler: it passes over literals,
cuts the text at ` AND ` into clauses, a clause in parentheses at ` OR ` into terms, and a term
at its spaces into words.

`readClauses?_text` shows that this gives back the clauses that were written. Field names must
hold no space, quote or parenthesis, since they are not quoted. One word among them makes a
difference: a reader who does not mind parentheses is misled by a field named `AND` inside a
disjunction (`(a > 5 OR AND > 5)`). So either no field has that name, or the reader keeps
parentheses closed.
-/

namespace Metasearch.Filter.Algolia

open Text

/-! ## The reader -/

/-- Parts a word at its last colon. -/
def splitColon : List Symbol → Option (List Symbol × List Symbol)
  | [] => none
  | symbol :: rest =>
    match splitColon rest with
    | some (name, value) => some (symbol :: name, value)
    | none => if symbol = .plain ':' then some ([], rest) else none

def readValue? : List Symbol → Option FacetValue
  | [.literal content] => some (.text (String.ofList content))
  | symbols =>
    if symbols = word "true" then some (.truth true)
    else if symbols = word "false" then some (.truth false)
    else none

def readFacet? (positive : Bool) (symbols : List Symbol) : Option Term := do
  let (name, value) ← splitColon symbols
  let field ← readWord? name
  let value ← readValue? value
  return .facet positive field value

/-- Reads a term by its words. -/
def readWords? : List (List Symbol) → Option Term
  | [facet] => readFacet? true facet
  | [first, facet] => if first = word "NOT" then readFacet? false facet else none
  | [name, sign, number] => do
    let field ← readWord? name
    let comparison ← readComparison? sign
    let number ← readWord? number
    return .numeric field comparison number
  | _ => none

def readTerm? (symbols : List Symbol) : Option Term := readWords? (symbols.splitOn space)

/-- What stands between the parentheses of a text that begins and ends with them. -/
def enclosed? : List Symbol → Option (List Symbol)
  | .plain '(' :: rest =>
    if rest.getLast? = some (.plain ')') then some rest.dropLast else none
  | _ => none

def readClause? (symbols : List Symbol) : Option Clause :=
  match enclosed? symbols with
  | some inner => ((cut .everywhere (spaced (word "OR")) inner).mapM readTerm?).map .anyOf
  | none => (readTerm? symbols).map .single

/-- Reads the clauses of a filter text. -/
def readClauses? (reach : Reach) (text : String) : Option (List Clause) := do
  let symbols ← symbols? text.toList
  (cut reach (spaced (word "AND")) symbols).mapM readClause?

/-! ## The symbols of what is written -/

/-- The characters with which a name would run into the words around it. -/
def marks : List Char := ['"', '(', ')', ' ']

/-- A field name without blanks, quotes and parentheses. -/
def CleanName (name : String) : Prop :=
  ∀ c ∈ name.toList, isBlank c = false ∧ c ∉ ['"', '(', ')']

instance (name : String) : Decidable (CleanName name) :=
  inferInstanceAs (Decidable (∀ c ∈ name.toList, isBlank c = false ∧ c ∉ ['"', '(', ')']))

theorem CleanName.not_mem {name : String} (h : CleanName name) {c : Char} (hc : c ∈ marks) :
    c ∉ name.toList := by
  refine not_mem_of_clean h ?_
  simpa [marks, or_comm, or_left_comm, or_assoc] using hc

def FacetValue.symbols : FacetValue → List Symbol
  | .text content => [.literal content.toList]
  | .truth value => word (Json.bool value).compact

def facetWord (field : String) (value : FacetValue) : List Symbol :=
  word field ++ .plain ':' :: value.symbols

namespace Term

/-- The words of a term. -/
def words : Term → List (List Symbol)
  | .facet true field value => [facetWord field value]
  | .facet false field value => [word "NOT", facetWord field value]
  | .numeric field comparison number => [word field, word comparison.symbol, word number]

def symbols (t : Term) : List Symbol := [space].intercalate t.words

end Term

def Clause.symbols : Clause → List Symbol
  | .single t => t.symbols
  | .anyOf terms =>
    .plain '(' :: ((spaced (word "OR")).intercalate (terms.map Term.symbols) ++ [.plain ')'])

/-! ## Words -/

theorem symbol_not_mem (comparison : Comparison) :
    ∀ c ∈ marks, c ∉ comparison.symbol.toList := by
  cases comparison <;> decide

theorem truth_not_mem (value : Bool) :
    ∀ c ∈ ':' :: marks, c ∉ (Json.bool value).compact.toList := by
  cases value <;> simp [Json.compact, marks]

theorem value_not_mem {c : Char} (hc : c ∈ ':' :: marks) (value : FacetValue) :
    .plain c ∉ value.symbols := by
  cases value with
  | text content => simp [FacetValue.symbols]
  | truth value =>
    rw [FacetValue.symbols, mem_word]
    exact truth_not_mem value c hc

theorem splitColon_append {name value : List Symbol} (h : .plain ':' ∉ value) :
    splitColon (name ++ .plain ':' :: value) = some (name, value) := by
  induction name with
  | nil =>
    have hnone : splitColon value = none := by
      induction value with
      | nil => rfl
      | cons symbol value ih =>
        obtain ⟨hsymbol, hvalue⟩ := not_or.mp (fun hor => h (List.mem_cons.mpr hor))
        rw [splitColon, ih hvalue]
        exact if_neg (Ne.symm hsymbol)
    rw [List.nil_append, splitColon, hnone]
    exact if_pos rfl
  | cons symbol name ih => rw [List.cons_append, splitColon, ih]

theorem readValue?_symbols (value : FacetValue) : readValue? value.symbols = some value := by
  cases value with
  | text content => simp [FacetValue.symbols, readValue?]
  | truth value => cases value <;> decide

theorem readFacet?_facetWord (positive : Bool) (field : String) (value : FacetValue) :
    readFacet? positive (facetWord field value) = some (.facet positive field value) := by
  have hsplit : splitColon (facetWord field value) = some (word field, value.symbols) :=
    splitColon_append (value_not_mem List.mem_cons_self value)
  simp [readFacet?, hsplit, readWord?_word, readValue?_symbols]

theorem readWords?_words (t : Term) : readWords? t.words = some t := by
  cases t with
  | facet positive field value =>
    cases positive with
    | true => exact readFacet?_facetWord true field value
    | false =>
      simp [Term.words, readWords?, readFacet?_facetWord]
  | numeric field comparison number =>
    simp [Term.words, readWords?, readWord?_word, readComparison?_symbol]

/-- A facet filter has a colon and is no connective. -/
theorem facetWord_ne {connective : String}
    (hconnective : connective = "AND" ∨ connective = "OR") (field : String)
    (value : FacetValue) : facetWord field value ≠ word connective := by
  intro heq
  have hmem : Symbol.plain ':' ∈ word connective := by
    rw [← heq, facetWord]
    simp
  rcases hconnective with rfl | rfl <;> exact absurd hmem (by decide)

theorem field_mem {names : List String} {t : Term} (h : t.Over names) : t.field ∈ names := by
  cases t with
  | facet positive field value => exact h
  | numeric field comparison number => exact h.1

section Over

variable {names : List String} (hclean : ∀ name ∈ names, CleanName name) {t : Term}
  (hover : t.Over names)

include hclean hover

/-- Outside literals the words of a term are free of marks. -/
theorem not_mem_words {c : Char} (hc : c ∈ marks) : ∀ w ∈ t.words, .plain c ∉ w := by
  have hcolon : c ≠ ':' := by
    rintro rfl
    exact absurd hc (by decide)
  have hfacet : ∀ field ∈ names, ∀ value, Symbol.plain c ∉ facetWord field value := by
    intro field hfield value hmem
    rw [facetWord, List.mem_append, mem_word, List.mem_cons] at hmem
    rcases hmem with hmem | heq | hmem
    · exact (hclean field hfield).not_mem hc hmem
    · exact hcolon (by simpa using heq)
    · exact value_not_mem (List.mem_cons_of_mem _ hc) value hmem
  cases t with
  | facet positive field value =>
    have hnot : ∀ c ∈ marks, Symbol.plain c ∉ word "NOT" := by decide
    cases positive with
    | true => simpa [Term.words] using hfacet field hover value
    | false => simpa [Term.words] using ⟨hnot c hc, hfacet field hover value⟩
  | numeric field comparison number =>
    obtain ⟨hfield, hnumber⟩ := hover
    have hmarks : ∀ c ∈ marks,
        c ∈ ['"', '(', ')', '[', ']', ',', ':', ' ', 'D', 'R', 'r', 's'] := by
      decide
    simp only [Term.words, List.forall_mem_cons, List.not_mem_nil, false_implies, implies_true,
      and_true, mem_word]
    exact ⟨(hclean field hfield).not_mem hc, symbol_not_mem comparison c hc,
      hnumber.not_mem (hmarks c hc)⟩

theorem not_mem_symbols {c : Char} (hc : c ∈ marks) (hspace : c ≠ ' ') :
    .plain c ∉ t.symbols := by
  intro hmem
  unfold Term.symbols at hmem
  rcases mem_intercalate hmem with hmem | ⟨w, hw, hmem⟩
  · exact hspace (by simpa [space] using hmem)
  · exact not_mem_words hclean hover hc w hw hmem

theorem spells_term : Spells t.text.toList t.symbols := by
  have hquote : ∀ field ∈ names, '"' ∉ field.toList :=
    fun field hfield => (hclean field hfield).not_mem (by decide)
  have hvalue : ∀ value, Spells (Term.valueText value).toList value.symbols := by
    intro value
    cases value with
    | text content => exact Spells.quote content
    | truth value => exact Spells.word (truth_not_mem value '"' (by decide))
  have hfacet : ∀ field ∈ names, ∀ value,
      Spells (field ++ ":" ++ Term.valueText value).toList (facetWord field value) := by
    intro field hfield value
    rw [String.toList_append, String.toList_append, facetWord]
    have hname : Spells (field.toList ++ ":".toList) (word field ++ word ":") :=
      (Spells.word (hquote field hfield)).append (Spells.word (by decide))
    have hword : word field ++ .plain ':' :: value.symbols
        = (word field ++ word ":") ++ value.symbols := by
      rw [List.append_assoc]
      rfl
    rw [hword]
    exact hname.append (hvalue value)
  cases t with
  | facet positive field value =>
    cases positive with
    | true => simpa [Term.text, Term.symbols, Term.words] using hfacet field hover value
    | false =>
      have hnot : Spells "NOT ".toList (word "NOT" ++ [space]) := Spells.word (by decide)
      have hsymbols : (Term.facet false field value).symbols
          = (word "NOT" ++ [space]) ++ facetWord field value := by
        simp [Term.symbols, Term.words]
      rw [Term.text, String.toList_append, hsymbols]
      exact hnot.append (hfacet field hover value)
  | numeric field comparison number =>
    obtain ⟨hfield, hnumber⟩ := hover
    have hblank : Spells " ".toList [space] := Spells.word (by decide)
    have hsign := Spells.word (symbol_not_mem comparison '"' (by decide))
    simp only [Term.text, Term.symbols, Term.words, String.toList_append,
      List.intercalate_cons_cons, List.intercalate_singleton]
    have hleft := ((Spells.word (hquote field hfield)).append hblank).append hsign
    have hall := (hleft.append hblank).append (Spells.word (hnumber.not_mem (by decide)))
    simpa only [List.append_assoc] using hall

/-! ## Reading a term -/

theorem readTerm?_symbols : readTerm? t.symbols = some t := by
  have hspace : ∀ w ∈ t.words, space ∉ w := not_mem_words hclean hover (by decide)
  have hne : t.words ≠ [] := by
    cases t with
    | facet positive field value => cases positive <;> simp [Term.words]
    | numeric field comparison number => simp [Term.words]
  rw [readTerm?, Term.symbols, List.splitOn_intercalate space hspace hne]
  exact readWords?_words t

/-- No connective is found in a term, unless its field is that connective. -/
theorem free_term {connective : String} (hconnective : connective = "AND" ∨ connective = "OR") :
    Free (word connective) t.symbols := by
  refine free_words (not_mem_words hclean hover (by decide)) ?_
  cases t with
  | facet positive field value =>
    cases positive with
    | true => simp [Term.words]
    | false => simpa [Term.words] using facetWord_ne hconnective field value
  | numeric field comparison number =>
    have hsign : word comparison.symbol ≠ word connective := by
      intro heq
      have hsame := word_injective heq
      rcases hconnective with rfl | rfl <;> cases comparison <;> exact absurd hsame (by decide)
    have hnumber : word number ≠ word connective := by
      intro heq
      have hsame := word_injective heq
      subst hsame
      rcases hconnective with rfl | rfl
      · exact absurd hover.2 (by decide)
      · exact absurd hover.2 (by decide)
    simpa [Term.words] using ⟨hsign, hnumber⟩

/-- A term begins with a connective only if its field is that connective. -/
theorem firstWord_term {connective : String}
    (hconnective : connective = "AND" ∨ connective = "OR") (hfield : t.field ≠ connective) :
    firstWord t.symbols ≠ word connective := by
  have hspace : ∀ w ∈ t.words, space ∉ w := not_mem_words hclean hover (by decide)
  unfold Term.symbols
  cases t with
  | facet positive field value =>
    cases positive with
    | true =>
      rw [Term.words, firstWord_words hspace]
      exact facetWord_ne hconnective field value
    | false =>
      rw [Term.words, firstWord_words hspace]
      rcases hconnective with rfl | rfl <;> decide
  | numeric field comparison number =>
    rw [Term.words, firstWord_words hspace]
    exact fun heq => hfield (word_injective heq)

end Over

/-! ## Reading clauses -/

section Clause

variable {names : List String} (hclean : ∀ name ∈ names, CleanName name) {clause : Clause}
  (hover : ∀ t ∈ clause.terms, t.Over names)

include hclean hover

theorem spells_clause : Spells clause.text.toList clause.symbols := by
  cases clause with
  | single t => exact spells_term hclean (hover t (by simp [Clause.terms]))
  | anyOf terms =>
    have hor : Spells " OR ".toList (spaced (word "OR")) := Spells.word (by decide)
    have hinner := Spells.intercalate hor (fun t : Term => t.text.toList) Term.symbols terms
      fun t ht => spells_term hclean (hover t ht)
    have hopen : Spells "(".toList [.plain '('] := Spells.word (by decide)
    have hclose : Spells ")".toList [.plain ')'] := Spells.word (by decide)
    have hall := (hopen.append hinner).append hclose
    simpa [Clause.text, Clause.symbols, String.toList_append, String.toList_intercalate,
      Function.comp_def] using hall

theorem parenthesis_not_mem_terms {c : Char} (hc : c ∈ marks) (hspace : c ≠ ' ')
    (hor : .plain c ∉ spaced (word "OR")) :
    .plain c ∉ (spaced (word "OR")).intercalate (clause.terms.map Term.symbols) := by
  intro hmem
  rcases mem_intercalate hmem with hmem | ⟨piece, hpiece, hmem⟩
  · exact hor hmem
  · obtain ⟨t, ht, rfl⟩ := List.mem_map.mp hpiece
    exact not_mem_symbols hclean (hover t ht) hc hspace hmem

/-- **The terms of a clause come back**, and the kind of clause it was. -/
theorem readClause?_symbols (hne : clause.terms ≠ []) :
    readClause? clause.symbols = some clause := by
  cases clause with
  | single t =>
    have ht := hover t (by simp [Clause.terms])
    -- a single term has no parenthesis, so it is not taken for a clause of several
    have hopen : Symbol.plain '(' ∉ t.symbols :=
      not_mem_symbols hclean ht (by decide) (by decide)
    have houtside : enclosed? t.symbols = none := by
      unfold enclosed?
      split
      · next rest heq => simp [heq] at hopen
      · rfl
    rw [Clause.symbols, readClause?, houtside]
    show (readTerm? t.symbols).map Clause.single = _
    rw [readTerm?_symbols hclean ht, Option.map_some]
  | anyOf terms =>
    have henclosed : enclosed? (Clause.anyOf terms).symbols
        = some ((spaced (word "OR")).intercalate (terms.map Term.symbols)) := by
      simp [Clause.symbols, enclosed?]
    have hcut : cut .everywhere (spaced (word "OR"))
        ((spaced (word "OR")).intercalate (terms.map Term.symbols)) = terms.map Term.symbols := by
      refine cut_intercalate (by decide) (by simpa [Clause.terms] using hne) ?_ ?_
      · intro piece hpiece
        obtain ⟨t, ht, rfl⟩ := List.mem_map.mp hpiece
        exact (free_term hclean (hover t ht) (Or.inr rfl)).whole .everywhere 0 (by decide)
      · intro piece hpiece
        obtain ⟨t, ht, rfl⟩ := List.mem_map.mp hpiece
        exact depthOf_eq 0 (not_mem_symbols hclean (hover t ht) (by decide) (by decide))
          (not_mem_symbols hclean (hover t ht) (by decide) (by decide))
    have hterms : (terms.map Term.symbols).mapM readTerm? = some terms :=
      mapM_map_eq_some fun t ht => readTerm?_symbols hclean (hover t ht)
    rw [readClause?, henclosed]
    show ((cut .everywhere (spaced (word "OR")) _).mapM readTerm?).map Clause.anyOf = _
    rw [hcut, hterms, Option.map_some]

/-- No ` AND ` counts inside a clause: in one term because none of its words is that word, in a
disjunction for either of the two reasons. -/
theorem whole_clause {reach : Reach} (hreach : reach = .outsideParentheses ∨ "AND" ∉ names) :
    Whole reach (spaced (word "AND")) 0 clause.symbols := by
  cases clause with
  | single t =>
    exact (free_term hclean (hover t (by simp [Clause.terms])) (Or.inl rfl)).whole reach 0
      (by decide)
  | anyOf terms =>
    by_cases hname : "AND" ∈ names
    · -- the reader passes over what stands between the parentheses
      have houtside := hreach.resolve_right (not_not_intro hname)
      subst houtside
      refine ⟨fun _ more hleads => ?_, ?_⟩
      · exact absurd (List.cons_prefix_cons.mp hleads).1 (by decide)
      · exact whole_inside _ (by decide)
          (parenthesis_not_mem_terms hclean hover (by decide) (by decide) (by decide))
          (parenthesis_not_mem_terms hclean hover (by decide) (by decide) (by decide))
    · -- no word of the clause is the connective, the first words of its terms included
      have hfree : Free (word "AND") ((spaced (word "OR")).intercalate
          (terms.map Term.symbols)) := by
        refine free_intercalate (by decide) (by decide) ?_ ?_
        · intro piece hpiece
          obtain ⟨t, ht, rfl⟩ := List.mem_map.mp hpiece
          exact free_term hclean (hover t ht) (Or.inl rfl)
        · intro piece hpiece
          obtain ⟨t, ht, rfl⟩ := List.mem_map.mp hpiece
          refine firstWord_term hclean (hover t ht) (Or.inl rfl) ?_
          rintro heq
          exact hname (heq ▸ field_mem (hover t ht))
      have hclosed := free_snoc (show Symbol.plain ')' ≠ space by decide) (by decide) hfree
      have hopened := free_cons (show Symbol.plain '(' ≠ space by decide) hclosed
      exact hopened.whole reach 0 (by decide)

/-- Behind a clause no parenthesis is open. -/
theorem depthOf_clause : depthOf 0 clause.symbols = 0 := by
  cases clause with
  | single t =>
    have ht := hover t (by simp [Clause.terms])
    exact depthOf_eq 0 (not_mem_symbols hclean ht (by decide) (by decide))
      (not_mem_symbols hclean ht (by decide) (by decide))
  | anyOf terms =>
    exact depthOf_enclosed
      (parenthesis_not_mem_terms hclean hover (by decide) (by decide) (by decide))
      (parenthesis_not_mem_terms hclean hover (by decide) (by decide) (by decide))

end Clause

/-- **Written clauses are read back**, by a reader who minds parentheses or if no field is
called as the connective is. -/
theorem readClauses?_text {names : List String} (hclean : ∀ name ∈ names, CleanName name)
    {reach : Reach} (hreach : reach = .outsideParentheses ∨ "AND" ∉ names)
    {clauses : List Clause} (hne : clauses ≠ [])
    (hwellMade : ∀ clause ∈ clauses, clause.WellMade names) :
    readClauses? reach (" AND ".intercalate (clauses.map Clause.text)) = some clauses := by
  have hover : ∀ clause ∈ clauses, ∀ t ∈ clause.terms, t.Over names :=
    fun clause hclause => (hwellMade clause hclause).drawn
  have hspells : Spells (" AND ".intercalate (clauses.map Clause.text)).toList
      ((spaced (word "AND")).intercalate (clauses.map Clause.symbols)) := by
    have hand : Spells " AND ".toList (spaced (word "AND")) := Spells.word (by decide)
    rw [String.toList_intercalate, List.map_map]
    exact Spells.intercalate hand (fun clause : Clause => clause.text.toList) Clause.symbols
      clauses fun clause hclause => spells_clause hclean (hover clause hclause)
  have hcut : cut reach (spaced (word "AND"))
      ((spaced (word "AND")).intercalate (clauses.map Clause.symbols))
        = clauses.map Clause.symbols := by
    refine cut_intercalate (by decide) (by simpa using hne) ?_ ?_
    · intro piece hpiece
      obtain ⟨clause, hclause, rfl⟩ := List.mem_map.mp hpiece
      exact whole_clause hclean (hover clause hclause) hreach
    · intro piece hpiece
      obtain ⟨clause, hclause, rfl⟩ := List.mem_map.mp hpiece
      exact depthOf_clause hclean (hover clause hclause)
  rw [readClauses?, hspells.symbols?_eq]
  show (cut reach _ _).mapM readClause? = _
  rw [hcut]
  refine mapM_map_eq_some fun clause hclause => ?_
  exact readClause?_symbols hclean (hover clause hclause) (hwellMade clause hclause).nonempty

end Metasearch.Filter.Algolia

namespace Metasearch.Algolia

open Filter.Algolia
open Text (Reach)

/-- Reads the clauses of a body. A body without a filter text has none. -/
def readBody? (reach : Reach) (body : Fields) : Option (List Clause) :=
  match Fields.get? body "filters" with
  | none => some []
  | some (.string text) => readClauses? reach text
  | some _ => none

/-- **A compiled request means what its conditions mean.** Its filter text is read back as
clauses that hold together, under every valuation, exactly when every condition holds that is
neither a search nor a place, and the terms of each clause are of one kind. -/
theorem requestBody_reads_as_filters {request : SearchRequest}
    (hclean : ∀ field ∈ Condition.fieldsOfAll request.filters, CleanName field) {reach : Reach}
    (hreach : reach = .outsideParentheses ∨ "AND" ∉ Condition.fieldsOfAll request.filters)
    {predicates : List Predicate} (haccepted : compileAll request.filters = .ok predicates) :
    ∃ body clauses, requestBody request = .ok body
      ∧ readBody? reach body = some clauses
      ∧ (∀ v, (∀ clause ∈ clauses, clause.Holds v) ↔
          ∀ c ∈ request.filters, c.isSearch = false → c.isGeo = false → Holds v c)
      ∧ ∀ clause ∈ clauses, ∃ kind, ∀ t ∈ clause.terms, t.kind = kind := by
  -- an identifier is written with a field of its own, which no condition names
  have hnames : ∀ name ∈ identifierField :: Condition.fieldsOfAll request.filters,
      CleanName name := List.forall_mem_cons.mpr ⟨by decide, hclean⟩
  have hreach' : reach = .outsideParentheses
      ∨ "AND" ∉ identifierField :: Condition.fieldsOfAll request.filters := by
    refine hreach.imp id fun h hmem => ?_
    rcases List.mem_cons.mp hmem with heq | hmem
    · exact absurd heq (by decide)
    · exact h hmem
  have hfields : ∀ c ∈ request.filters, ∀ field ∈ c.fields,
      field ∈ identifierField :: Condition.fieldsOfAll request.filters :=
    fun c hc field hfield =>
      List.mem_cons_of_mem _ (Condition.mem_fieldsOfAll.mpr ⟨c, hc, hfield⟩)
  obtain ⟨clauses, hempty, htext, hwellMade, hholds⟩ :=
    filter_means List.mem_cons_self hfields haccepted
  have hbody := requestBody_eq_ok.mpr ⟨predicates, haccepted, rfl⟩
  refine ⟨_, clauses, hbody, ?_, hholds, fun clause hclause => (hwellMade clause hclause).oneKind⟩
  have hlookup := get?_filters haccepted hbody
  unfold readBody?
  by_cases hnone : filterClauses predicates = []
  · rw [if_pos hnone] at hlookup
    rw [hlookup, hempty.mp hnone]
  · rw [if_neg hnone] at hlookup
    rw [hlookup]
    show readClauses? reach (" AND ".intercalate (filterClauses predicates)) = some clauses
    rw [filterClauses, htext]
    exact readClauses?_text hnames hreach' (fun h => hnone (hempty.mpr h)) hwellMade

/-- A request that asks for nothing but its conditions. -/
def filterRequest (index : String) (filters : List Condition) : SearchRequest where
  index := index
  filters := filters
  sort := []
  limit := none
  offset := none
  highlight := none
  distinct := none
  facets := []
  vector := none
  showScores := false

/-- Values may hold parentheses, quotes and connectives. -/
def quotedConnectives : List Condition :=
  [.group .disjunction
      [.compare "brand" .equal (.string "x) AND (\"y OR z"),
        .member "tag" .among [.string "a", .string "b"]],
    .member "price" .notAmong [.ofNat 1, .ofNat 2]]

theorem requestBody_reads_quotedConnectives :
    ∃ body clauses, requestBody (filterRequest "products" quotedConnectives) = .ok body
      ∧ readBody? .everywhere body = some clauses
      ∧ (∀ v, (∀ clause ∈ clauses, clause.Holds v) ↔
          ∀ c ∈ quotedConnectives, c.isSearch = false → c.isGeo = false → Holds v c)
      ∧ ∀ clause ∈ clauses, ∃ kind, ∀ t ∈ clause.terms, t.kind = kind :=
  @requestBody_reads_as_filters (filterRequest "products" quotedConnectives) (by decide)
    .everywhere (Or.inr (by decide)) _ rfl

/-- A field that is called as the connective is. -/
def connectiveAsField : List Condition :=
  [.group .disjunction
    [.compare "a" .greater (.ofNat 5), .compare "AND" .greater (.ofNat 5)]]

/-- A reader who looks for ` AND ` between parentheses too finds no clauses in the text of a
disjunction with such a field, although its names are clean and it compiles. -/
theorem connectiveAsField_misleads :
    (∀ field ∈ Condition.fieldsOfAll connectiveAsField, CleanName field)
      ∧ (∃ predicates, compileAll connectiveAsField = .ok predicates)
      ∧ ¬ ∃ body clauses, requestBody (filterRequest "products" connectiveAsField) = .ok body
          ∧ readBody? .everywhere body = some clauses := by
  refine ⟨by decide, ⟨_, rfl⟩, ?_⟩
  rintro ⟨body, clauses, hbody, hread⟩
  have hlookup := get?_filters rfl hbody
  have htext : Fields.get? body "filters" = some (.string "(a > 5 OR AND > 5)") := hlookup
  have hnone : readClauses? .everywhere "(a > 5 OR AND > 5)" = none := by decide
  have hsome : readClauses? .everywhere "(a > 5 OR AND > 5)" = some clauses := by
    rw [readBody?, htext] at hread
    exact hread
  rw [hnone] at hsome
  cases hsome

end Metasearch.Algolia
