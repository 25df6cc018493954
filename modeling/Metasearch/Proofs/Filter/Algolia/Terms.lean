import Metasearch.Proofs.Condition.Tree
import Metasearch.Proofs.Decimal.Figures
import Metasearch.Proofs.Filter.Algolia.Compiled

set_option autoImplicit false

/-! # The clauses behind a compiled condition

The compiler works on texts: a term is a string as soon as its leaf has been compiled, and
groups join strings. To say what such a text means, this file keeps the terms themselves
(`Term`, `Clause`) and says which text each is written as.

`compile_writes` goes along with the compiler: whatever a condition compiles to is the text of
some clauses, and these clauses hold together exactly when the condition does. Both are read
under any assignment of truth values to the positive atoms (`Valuation`), so that nothing is
assumed about documents.
-/

namespace Metasearch.Filter.Algolia

open List (Forall₂)

/-! ## Atoms -/

/-- The value of a facet filter: a text, or a truth value, which is not quoted. -/
inductive FacetValue where
  | text (content : String)
  | truth (value : Bool)
  deriving Repr, DecidableEq

/-- What is true or false of a document. Numbers are given by their text. -/
inductive Atom where
  | facet (field : String) (value : FacetValue)
  | numeric (field : String) (comparison : Comparison) (number : String)
  deriving Repr, DecidableEq

/-- Which atoms are true. -/
abbrev Valuation := Atom → Prop

/-- The atom that a field has a value. -/
def equalityAtom (field : String) : Json → Atom
  | .number value => .numeric field .equal value.text
  | .bool value => .facet field (.truth value)
  | .string text => .facet field (.text text)
  | other => .facet field (.text other.compact)

/-! ## Conditions -/

def ComparisonHolds (v : Valuation) (field : String) (comparison : Comparison) (value : Json) :
    Prop :=
  match comparison with
  | .equal => v (equalityAtom field value)
  | .notEqual => ¬ v (equalityAtom field value)
  | comparison => ∃ number, numericText? value = some number ∧ v (.numeric field comparison number)

def MembershipHolds (v : Valuation) (field : String) (membership : Membership)
    (values : List Json) : Prop :=
  match membership with
  | .among => ∃ value ∈ values, v (equalityAtom field value)
  | .notAmong => ¬ ∃ value ∈ values, v (equalityAtom field value)

mutual

/-- The ordinary reading of a condition. A search for words or a place is no filter and asks
nothing of the atoms. -/
def Holds (v : Valuation) : Condition → Prop
  | .search _ => True
  | .identifier id => v (.facet identifierField (.text id))
  | .compare field comparison value => ComparisonHolds v field comparison value
  | .member field membership values => MembershipHolds v field membership values
  | .near _ _ _ _ => True
  | .within _ _ => True
  | .group .conjunction members => AllHold v members
  | .group .disjunction members => SomeHolds v members

def AllHold (v : Valuation) : List Condition → Prop
  | [] => True
  | c :: members => Holds v c ∧ AllHold v members

def SomeHolds (v : Valuation) : List Condition → Prop
  | [] => False
  | c :: members => Holds v c ∨ SomeHolds v members

end

theorem holds_conjunction (v : Valuation) (members : List Condition) :
    Holds v (.group .conjunction members) ↔ ∀ c ∈ members, Holds v c := by
  rw [Holds]
  induction members with
  | nil => simp [AllHold]
  | cons c members ih => rw [AllHold, ih, List.forall_mem_cons]

theorem holds_disjunction (v : Valuation) (members : List Condition) :
    Holds v (.group .disjunction members) ↔ ∃ c ∈ members, Holds v c := by
  rw [Holds]
  induction members with
  | nil => simp [SomeHolds]
  | cons c members ih => simp [SomeHolds, ih]

/-! ## Terms and clauses -/

/-- A term of the filter language: a facet filter, which may be negated, or a numeric one. -/
inductive Term where
  | facet (positive : Bool) (field : String) (value : FacetValue)
  | numeric (field : String) (comparison : Comparison) (number : String)
  deriving Repr, DecidableEq

namespace Term

def field : Term → String
  | .facet _ field _ => field
  | .numeric field _ _ => field

def kind : Term → Kind
  | .facet _ _ _ => .facet
  | .numeric _ _ _ => .numeric

def Holds (v : Valuation) : Term → Prop
  | .facet true field value => v (.facet field value)
  | .facet false field value => ¬ v (.facet field value)
  | .numeric field .notEqual number => ¬ v (.numeric field .equal number)
  | .numeric field comparison number => v (.numeric field comparison number)

/-- The text of a facet value. -/
def valueText : FacetValue → String
  | .text content => Text.quote content
  | .truth value => (Json.bool value).compact

/-- The text of a term. -/
def text : Term → String
  | .facet true field value => field ++ ":" ++ valueText value
  | .facet false field value => "NOT " ++ (field ++ ":" ++ valueText value)
  | .numeric field comparison number => field ++ " " ++ comparison.symbol ++ " " ++ number

/-- What a term is made of: a field among `names`, and figures in the place of a number. -/
def Over (names : List String) : Term → Prop
  | .facet _ field _ => field ∈ names
  | .numeric field _ number => field ∈ names ∧ Decimal.InFigures number.toList

end Term

/-- A clause: one term, or several in parentheses of which one must hold. -/
inductive Clause where
  | single (term : Term)
  | anyOf (terms : List Term)
  deriving Repr, DecidableEq

namespace Clause

def terms : Clause → List Term
  | .single term => [term]
  | .anyOf terms => terms

/-- A clause is the disjunction of its terms. -/
def Holds (v : Valuation) (clause : Clause) : Prop := ∃ t ∈ clause.terms, t.Holds v

def text : Clause → String
  | .single term => term.text
  | .anyOf terms => "(" ++ " OR ".intercalate (terms.map Term.text) ++ ")"

/-- A clause as the compiler makes it: it has terms, they are of one kind, and they are made
of what the condition is made of. -/
structure WellMade (names : List String) (clause : Clause) : Prop where
  nonempty : clause.terms ≠ []
  oneKind : ∃ kind, ∀ t ∈ clause.terms, t.kind = kind
  drawn : ∀ t ∈ clause.terms, t.Over names

theorem wellMade_single {names : List String} {t : Term} (h : t.Over names) :
    (Clause.single t).WellMade names where
  nonempty := by simp [terms]
  oneKind := ⟨t.kind, by simp [terms]⟩
  drawn := by simpa [terms] using h

theorem holds_single (v : Valuation) (t : Term) : (Clause.single t).Holds v ↔ t.Holds v := by
  simp [Holds, terms]

end Clause

/-! ## Leaves -/

/-- The term that a field has, or does not have, a value. -/
def equalityTerm (positive : Bool) (field : String) : Json → Term
  | .number value => .numeric field (if positive then .equal else .notEqual) value.text
  | .bool value => .facet positive field (.truth value)
  | .string text => .facet positive field (.text text)
  | other => .facet positive field (.text other.compact)

theorem equality_eq (field : String) (value : Json) :
    equality field value
      = ((equalityTerm true field value).kind, (equalityTerm true field value).text) := by
  cases value with
  | number value =>
    have hsign : field ++ " = " = field ++ " " ++ "=" ++ " " := by
      rw [String.append_assoc, String.append_assoc]
      rfl
    show (Kind.numeric, field ++ " = " ++ value.text) = _
    rw [hsign]
    rfl
  | _ => rfl

theorem inequality_eq (field : String) (value : Json) :
    inequality field value
      = ((equalityTerm false field value).kind, (equalityTerm false field value).text) := by
  cases value with
  | number value =>
    have hsign : field ++ " != " = field ++ " " ++ "!=" ++ " " := by
      rw [String.append_assoc, String.append_assoc]
      rfl
    show (Kind.numeric, field ++ " != " ++ value.text) = _
    rw [hsign]
    rfl
  | _ => rfl

/-- Values whose filters are of one kind have terms of this kind. -/
theorem kind_equalityTerm {field : String} {values : List Json} {kind : Kind}
    (h : ∀ t ∈ values.map (equality field), t.1 = kind) :
    ∀ t ∈ values.map (equalityTerm true field), t.kind = kind := by
  intro t ht
  obtain ⟨value, hvalue, rfl⟩ := List.mem_map.mp ht
  have hterm := h _ (List.mem_map_of_mem hvalue)
  rw [equality_eq] at hterm
  exact hterm

theorem equalityTerm_holds (v : Valuation) (field : String) (value : Json) :
    (equalityTerm true field value).Holds v ↔ v (equalityAtom field value) := by
  cases value <;> rfl

theorem inequalityTerm_holds (v : Valuation) (field : String) (value : Json) :
    (equalityTerm false field value).Holds v ↔ ¬ v (equalityAtom field value) := by
  cases value <;> rfl

theorem equalityTerm_over {names : List String} {field : String} (h : field ∈ names)
    (positive : Bool) (value : Json) : (equalityTerm positive field value).Over names := by
  cases value with
  | number value => exact ⟨h, Decimal.inFigures_numberText value⟩
  | _ => exact h

theorem inFigures_numericText? {value : Json} {number : String}
    (h : numericText? value = some number) : Decimal.InFigures number.toList := by
  cases value with
  | number value =>
    cases h
    exact Decimal.inFigures_numberText value
  | string text =>
    simp only [numericText?] at h
    split at h
    · next hreads =>
      cases h
      rw [String.toList_ofList]
      exact Decimal.inFigures_of_readsAsFloat hreads
    · cases h
  | _ => cases h

/-- The term of a comparison, unless it is an ordering without an operand. -/
def comparisonTerm? (field : String) (comparison : Comparison) (value : Json) : Option Term :=
  match comparison with
  | .equal => some (equalityTerm true field value)
  | .notEqual => some (equalityTerm false field value)
  | .greater => (numericText? value).map (.numeric field .greater)
  | .greaterEqual => (numericText? value).map (.numeric field .greaterEqual)
  | .less => (numericText? value).map (.numeric field .less)
  | .lessEqual => (numericText? value).map (.numeric field .lessEqual)

section Comparison

variable {names : List String} {field : String} {comparison : Comparison} {value : Json}

/-- **A compiled comparison is a term.** -/
theorem comparisonTerm?_of_eq_ok {atom : Kind × String}
    (h : comparisonAtom field comparison value = .ok atom) :
    ∃ t, comparisonTerm? field comparison value = some t ∧ atom = (t.kind, t.text) := by
  cases comparison with
  | equal =>
    cases h
    exact ⟨equalityTerm true field value, rfl, equality_eq field value⟩
  | notEqual =>
    cases h
    exact ⟨equalityTerm false field value, rfl, inequality_eq field value⟩
  | greater | greaterEqual | less | lessEqual =>
    obtain ⟨number, hnumber, rfl⟩ := ordering_eq_ok.mp h
    exact ⟨.numeric field _ number, by simp only [comparisonTerm?, hnumber, Option.map_some], rfl⟩

theorem over_of_comparisonTerm? (hfield : field ∈ names) {t : Term}
    (h : comparisonTerm? field comparison value = some t) : t.Over names := by
  cases comparison with
  | equal | notEqual =>
    cases h
    exact equalityTerm_over hfield _ value
  | greater | greaterEqual | less | lessEqual =>
    obtain ⟨number, hnumber, rfl⟩ := Option.map_eq_some_iff.mp h
    exact ⟨hfield, inFigures_numericText? hnumber⟩

/-- The term holds when the comparison does. -/
theorem holds_of_comparisonTerm? {t : Term}
    (h : comparisonTerm? field comparison value = some t) (v : Valuation) :
    t.Holds v ↔ ComparisonHolds v field comparison value := by
  cases comparison with
  | equal =>
    cases h
    exact equalityTerm_holds v field value
  | notEqual =>
    cases h
    exact inequalityTerm_holds v field value
  | greater | greaterEqual | less | lessEqual =>
    obtain ⟨number, hnumber, rfl⟩ := Option.map_eq_some_iff.mp h
    simp [Term.Holds, ComparisonHolds, hnumber]

end Comparison

/-- The clauses of a condition that is no group. -/
def leafClauses : Condition → List Clause
  | .identifier id => [.single (.facet true identifierField (.text id))]
  | .compare field comparison value =>
    (comparisonTerm? field comparison value).toList.map .single
  | .member field .among values => [.anyOf (values.map (equalityTerm true field))]
  | .member field .notAmong values =>
    values.map fun value => .single (equalityTerm false field value)
  | _ => []

/-! ## What the compiler writes -/

/-- The compiled form of some clauses. -/
inductive Writes : Predicate → List Clause → Prop
  | atom (t : Term) : Writes (.atom t.kind t.text) [.single t]
  | anyOf {kind : Kind} {terms : List Term} : (∀ t ∈ terms, t.kind = kind) →
      Writes (.anyOf kind (terms.map Term.text)) [.anyOf terms]
  | allOf (clauses : List Clause) : Writes (.allOf (clauses.map Clause.text)) clauses

theorem Writes.clausesOf?_eq {p : Predicate} {clauses : List Clause} (h : Writes p clauses) :
    clausesOf? p = some (clauses.map Clause.text) := by
  cases h <;> rfl

/-- The text of a compiled condition is that of its clauses, joined. -/
theorem Writes.expression?_eq {p : Predicate} {clauses : List Clause} (h : Writes p clauses) :
    p.expression? = some (" AND ".intercalate (clauses.map Clause.text)) := by
  cases h with
  | atom t => simp [Predicate.expression?, Clause.text]
  | anyOf _ => simp [Predicate.expression?, Clause.text]
  | allOf clauses => rfl

/-- What may stand in a disjunction is a single clause. -/
theorem Writes.termsOf_eq_ok {p : Predicate} {clauses : List Clause} (h : Writes p clauses)
    {part : List (Kind × String)} (hpart : termsOf p = .ok part) :
    ∃ clause, clauses = [clause] ∧ part = clause.terms.map fun t => (t.kind, t.text) := by
  cases h with
  | atom t =>
    cases hpart
    exact ⟨.single t, rfl, rfl⟩
  | @anyOf kind terms hkind =>
    cases hpart
    refine ⟨.anyOf terms, rfl, ?_⟩
    rw [List.map_map]
    exact List.map_congr_left fun t ht => by rw [Function.comp_apply, hkind t ht]
  | allOf clauses => cases hpart

/-- What may stand in a disjunction may stand in a conjunction. -/
theorem clausesOf?_of_termsOf {p : Predicate} {part : List (Kind × String)}
    (h : termsOf p = .ok part) : ∃ inner, clausesOf? p = some inner := by
  cases p with
  | atom kind expression => exact ⟨_, rfl⟩
  | anyOf kind terms => exact ⟨_, rfl⟩
  | _ => cases h

/-- Some clauses that stand for a condition. -/
structure Means (names : List String) (c : Condition) (clauses : List Clause) : Prop where
  nonempty : clauses ≠ []
  wellMade : ∀ clause ∈ clauses, clause.WellMade names
  holds_iff : ∀ v, (∀ clause ∈ clauses, clause.Holds v) ↔ Holds v c

theorem means_single {names : List String} {c : Condition} {t : Term} (hover : t.Over names)
    (hholds : ∀ v, t.Holds v ↔ Holds v c) : Means names c [.single t] where
  nonempty := by simp
  wellMade := by simpa using Clause.wellMade_single hover
  holds_iff := fun v => by simpa [Clause.holds_single] using hholds v

/-- A condition that is no group is written with its own clauses. -/
theorem leaf_writes {c : Condition} (hleaf : ∀ connective members, c ≠ .group connective members)
    {p : Predicate} (h : compile c = .ok p) {part : List String}
    (hpart : clausesOf? p = some part) : Writes p (leafClauses c) := by
  cases fromLeaf_of_compile hleaf h with
  | identifier id => exact Writes.atom (.facet true identifierField (.text id))
  | compare hatom =>
    obtain ⟨t, hterm, rfl⟩ := comparisonTerm?_of_eq_ok hatom
    rw [leafClauses, hterm]
    exact Writes.atom t
  | @among field values kind hvalues hkind =>
    have htexts : (values.map (equality field)).map Prod.snd
        = (values.map (equalityTerm true field)).map Term.text := by
      rw [List.map_map, List.map_map]
      exact List.map_congr_left fun w _ => congrArg Prod.snd (equality_eq field w)
    rw [htexts]
    exact Writes.anyOf (kind_equalityTerm hkind)
  | notOne field value =>
    rw [inequality_eq]
    exact Writes.atom (equalityTerm false field value)
  | @notAmong field values hlength =>
    have htexts : (values.map fun w => (inequality field w).2)
        = (values.map fun w => Clause.single (equalityTerm false field w)).map Clause.text := by
      rw [List.map_map]
      exact List.map_congr_left fun w _ => congrArg Prod.snd (inequality_eq field w)
    rw [htexts]
    exact Writes.allOf _
  | search query | near field lat lng distance | within field box => cases hpart

section Membership

variable {names : List String} {field : String} (hfield : field ∈ names) {values : List Json}
  (hvalues : values ≠ [])

include hfield hvalues

/-- A membership is a clause with a term for each value, if these are of one kind. -/
theorem means_among {kind : Kind}
    (hkind : ∀ t ∈ values.map (equalityTerm true field), t.kind = kind) :
    Means names (.member field .among values)
      [.anyOf (values.map (equalityTerm true field))] where
  nonempty := by simp
  wellMade := by
    intro clause hclause
    rw [List.mem_singleton.mp hclause]
    refine ⟨by simpa [Clause.terms] using hvalues, ⟨kind, hkind⟩, fun t ht => ?_⟩
    obtain ⟨value, _, rfl⟩ := List.mem_map.mp ht
    exact equalityTerm_over hfield true value
  holds_iff := fun v => by
    rw [List.forall_mem_singleton]
    show (∃ t ∈ values.map (equalityTerm true field), t.Holds v) ↔ _
    simp [Holds, MembershipHolds, equalityTerm_holds]

/-- An exclusion is a clause for each value. -/
theorem means_notAmong : Means names (.member field .notAmong values)
    (values.map fun value => .single (equalityTerm false field value)) where
  nonempty := by simpa using hvalues
  wellMade := by
    intro clause hclause
    obtain ⟨value, _, rfl⟩ := List.mem_map.mp hclause
    exact Clause.wellMade_single (equalityTerm_over hfield false value)
  holds_iff := fun v => by
    simp [Holds, MembershipHolds, Clause.holds_single, inequalityTerm_holds]

end Membership

/-- The clauses of a condition that is no group stand for it. -/
theorem leaf_means {names : List String} (hidentifier : identifierField ∈ names)
    {c : Condition} (hleaf : ∀ connective members, c ≠ .group connective members)
    (hfields : ∀ field ∈ c.fields, field ∈ names) {p : Predicate} (h : compile c = .ok p)
    {part : List String} (hpart : clausesOf? p = some part) : Means names c (leafClauses c) := by
  cases fromLeaf_of_compile hleaf h with
  | identifier id => exact means_single hidentifier fun v => by simp [Term.Holds, Holds]
  | @compare field comparison value atom hatom =>
    obtain ⟨t, hterm, rfl⟩ := comparisonTerm?_of_eq_ok hatom
    have hfield : field ∈ names := hfields field (by simp [Condition.fields])
    rw [leafClauses, hterm]
    exact means_single (over_of_comparisonTerm? hfield hterm) fun v => by
      rw [holds_of_comparisonTerm? hterm v, Holds]
  | among hvalues hkind =>
    exact means_among (hfields _ (by simp [Condition.fields])) hvalues (kind_equalityTerm hkind)
  | notOne field value =>
    exact means_notAmong (hfields field (by simp [Condition.fields])) (by simp)
  | @notAmong field values hlength =>
    have hvalues : values ≠ [] := by
      rintro rfl
      simp at hlength
    exact means_notAmong (hfields field (by simp [Condition.fields])) hvalues
  | search query | near field lat lng distance | within field box => cases hpart

/-! ## The clauses of several conditions -/

section Several

variable {names : List String} {conditions : List Condition} {parts : List (List Clause)}
  (h : Forall₂ (Means names) conditions parts)

include h

theorem wellMade_flatten : ∀ clause ∈ parts.flatten, clause.WellMade names := by
  intro clause hclause
  obtain ⟨part, hpart, hmem⟩ := List.mem_flatten.mp hclause
  obtain ⟨c, _, hmeans⟩ := forall₂_exists_left h part hpart
  exact hmeans.wellMade clause hmem

/-- The clauses of several conditions hold together when the conditions do. -/
theorem holds_flatten (v : Valuation) :
    (∀ clause ∈ parts.flatten, clause.Holds v) ↔ ∀ c ∈ conditions, Holds v c := by
  constructor
  · intro hall c hc
    obtain ⟨part, hpart, hmeans⟩ := forall₂_exists_right h c hc
    refine (hmeans.holds_iff v).mp fun clause hclause => ?_
    exact hall clause (List.mem_flatten.mpr ⟨part, hpart, hclause⟩)
  · intro hall clause hclause
    obtain ⟨part, hpart, hmem⟩ := List.mem_flatten.mp hclause
    obtain ⟨c, hc, hmeans⟩ := forall₂_exists_left h part hpart
    exact (hmeans.holds_iff v).mpr (hall c hc) clause hmem

end Several

/-! ## Groups -/

section Group

variable {names : List String} {members : List Condition} (hne : members ≠ [])

include hne

/-- The clauses of the members of a conjunction are its clauses. -/
theorem means_conjunction {parts : List (List Clause)}
    (h : Forall₂ (Means names) members parts) :
    Means names (.group .conjunction members) parts.flatten where
  nonempty := by
    obtain ⟨c, hc⟩ := List.exists_mem_of_ne_nil members hne
    obtain ⟨part, hpart, hmeans⟩ := forall₂_exists_right h c hc
    obtain ⟨clause, hclause⟩ := List.exists_mem_of_ne_nil part hmeans.nonempty
    exact List.ne_nil_of_mem (List.mem_flatten.mpr ⟨part, hpart, hclause⟩)
  wellMade := wellMade_flatten h
  holds_iff := fun v => by rw [holds_conjunction, holds_flatten h v]

/-- The terms of the members of a disjunction are the terms of one clause. -/
theorem means_disjunction {parts : List Clause}
    (h : Forall₂ (fun c clause => Means names c [clause]) members parts) {kind : Kind}
    (hkind : ∀ t ∈ parts.flatMap Clause.terms, t.kind = kind) :
    Means names (.group .disjunction members) [.anyOf (parts.flatMap Clause.terms)] where
  nonempty := by simp
  wellMade := by
    intro clause hclause
    rw [List.mem_singleton.mp hclause]
    refine ⟨?_, ⟨kind, hkind⟩, fun t ht => ?_⟩
    · obtain ⟨c, hc⟩ := List.exists_mem_of_ne_nil members hne
      obtain ⟨part, hpart, hmeans⟩ := forall₂_exists_right h c hc
      have hwell := hmeans.wellMade part List.mem_cons_self
      obtain ⟨t, ht⟩ := List.exists_mem_of_ne_nil part.terms hwell.nonempty
      exact List.ne_nil_of_mem (List.mem_flatMap.mpr ⟨part, hpart, ht⟩)
    · obtain ⟨part, hpart, ht⟩ := List.mem_flatMap.mp ht
      obtain ⟨c, _, hmeans⟩ := forall₂_exists_left h part hpart
      exact (hmeans.wellMade part List.mem_cons_self).drawn t ht
  holds_iff := by
    intro v
    -- a member stands for one clause, which holds when the member does
    have hmember : ∀ c clause, Means names c [clause] → (clause.Holds v ↔ Holds v c) := by
      intro c clause hmeans
      rw [← hmeans.holds_iff v, List.forall_mem_singleton]
    rw [holds_disjunction, List.forall_mem_singleton]
    constructor
    · rintro ⟨t, ht, hholds⟩
      obtain ⟨part, hpart, ht⟩ := List.mem_flatMap.mp ht
      obtain ⟨c, hc, hmeans⟩ := forall₂_exists_left h part hpart
      exact ⟨c, hc, (hmember c part hmeans).mp ⟨t, ht, hholds⟩⟩
    · rintro ⟨c, hc, hholds⟩
      obtain ⟨part, hpart, hmeans⟩ := forall₂_exists_right h c hc
      obtain ⟨t, ht, hterm⟩ := (hmember c part hmeans).mpr hholds
      exact ⟨t, List.mem_flatMap.mpr ⟨part, hpart, ht⟩, hterm⟩

end Group

/-- What the induction knows of a condition: when it may stand in a conjunction, its compiled
form is the text of clauses that stand in some relation to it. -/
def WrittenBy (R : Condition → List Clause → Prop) (c : Condition) : Prop :=
  ∀ p, compile c = .ok p → ∀ part, clausesOf? p = some part →
    ∃ clauses, Writes p clauses ∧ R c clauses

/-- The clauses of a compiled condition stand for it. -/
def Written (names : List String) (c : Condition) : Prop :=
  ∀ p, compile c = .ok p → ∀ part, clausesOf? p = some part →
    ∃ clauses, Writes p clauses ∧ Means names c clauses

section Members

variable {R : Condition → List Clause → Prop} {members : List Condition} {ps : List Predicate}
  (ih : ∀ c ∈ members, WrittenBy R c)
  (hps : Forall₂ (fun c p => compile c = .ok p) members ps)

include ih hps

/-- A conjunction hands on the clauses of its members. -/
theorem conjunction_parts {p : Predicate} (h : group .conjunction ps = .ok p) :
    members ≠ [] ∧ ∃ parts, Forall₂ R members parts ∧ Writes p parts.flatten := by
  obtain ⟨hps_ne, parts, hparts, rfl⟩ := group_conjunction_eq_ok.mp h
  have hne : members ≠ [] := by
    rintro rfl
    exact hps_ne (List.forall₂_nil_left_iff.mp hps)
  -- each member has clauses of its own, and the group has all of them
  obtain ⟨clauses, hclauses, htexts⟩ := @forall₂_choose _ _ _ _ R
    (fun part clauses => part = clauses.map Clause.text) _ _ (forall₂_comp hps hparts)
    (by
      rintro c hc part ⟨p, hcompile, hpart⟩
      obtain ⟨clauses, hwrites, hrelated⟩ := ih c hc p hcompile part hpart
      have heq := hwrites.clausesOf?_eq.symm.trans hpart
      exact ⟨clauses, hrelated, (Option.some.inj heq).symm⟩)
  rw [eq_map_of_forall₂ htexts, ← List.map_flatten]
  exact ⟨hne, clauses, hclauses, Writes.allOf _⟩

/-- A disjunction hands on the terms of its members. -/
theorem disjunction_parts {p : Predicate} (h : group .disjunction ps = .ok p) :
    members ≠ [] ∧ ∃ parts kind, Forall₂ (fun c clause => R c [clause]) members parts
      ∧ (∀ t ∈ parts.flatMap Clause.terms, t.kind = kind)
      ∧ Writes p [.anyOf (parts.flatMap Clause.terms)] := by
  obtain ⟨hps_ne, parts, kind, hparts, hkind, rfl⟩ := eq_anyOf_of_group_disjunction h
  have hne : members ≠ [] := by
    rintro rfl
    exact hps_ne (List.forall₂_nil_left_iff.mp hps)
  -- each member is a single clause, and the group is a clause of all their terms
  obtain ⟨clauses, hclauses, hterms⟩ := @forall₂_choose _ _ _ _
    (fun c clause => R c [clause])
    (fun part clause => part = clause.terms.map fun t => (t.kind, t.text)) _ _
    (forall₂_comp hps hparts)
    (by
      rintro c hc part ⟨p, hcompile, hpart⟩
      obtain ⟨inner, hinner⟩ := clausesOf?_of_termsOf hpart
      obtain ⟨_, hwrites, hrelated⟩ := ih c hc p hcompile inner hinner
      obtain ⟨clause, rfl, heq⟩ := hwrites.termsOf_eq_ok hpart
      exact ⟨clause, hrelated, heq⟩)
  have hflat : parts.flatten = (clauses.flatMap Clause.terms).map fun t => (t.kind, t.text) := by
    rw [eq_map_of_forall₂ hterms, List.map_flatMap, List.flatMap_def]
  rw [hflat] at hkind ⊢
  have hall : ∀ t ∈ clauses.flatMap Clause.terms, t.kind = kind :=
    fun t ht => hkind _ (List.mem_map_of_mem ht)
  have htexts : ((clauses.flatMap Clause.terms).map fun t => (t.kind, t.text)).map Prod.snd
      = (clauses.flatMap Clause.terms).map Term.text := by
    rw [List.map_map]
    rfl
  rw [htexts]
  exact ⟨hne, clauses, kind, hclauses, hall, Writes.anyOf hall⟩

end Members

/-- **A compiled condition is the text of clauses that stand for it.** The induction is over
the tree; a group hands on the clauses, or the terms, of its members in their order. -/
theorem compile_writes {names : List String} (hidentifier : identifierField ∈ names)
    (c : Condition) : (∀ field ∈ c.fields, field ∈ names) → Written names c := by
  induction c using Condition.induction with
  | leaf c hleaf =>
    intro hfields p hp part hpart
    exact ⟨_, leaf_writes hleaf hp hpart, leaf_means hidentifier hleaf hfields hp hpart⟩
  | group connective members ih =>
    intro hfields p hp part _
    have hmembers : ∀ c ∈ members, Written names c := by
      intro c hc
      refine ih c hc fun field hfield => hfields field ?_
      rw [Condition.fields_group, Condition.mem_fieldsOfAll]
      exact ⟨c, hc, hfield⟩
    obtain ⟨ps, hps, hgroup⟩ := compile_group.mp hp
    cases connective with
    | conjunction =>
      obtain ⟨hne, parts, hmeans, hwrites⟩ := conjunction_parts hmembers hps hgroup
      exact ⟨_, hwrites, means_conjunction hne hmeans⟩
    | disjunction =>
      obtain ⟨hne, parts, kind, hmeans, hkind, hwrites⟩ := disjunction_parts hmembers hps hgroup
      exact ⟨_, hwrites, means_disjunction hne hmeans hkind⟩

/-! ## Lists of conditions -/

/-- Joining joined lists joins all their items, if none of the lists is empty. -/
theorem intercalate_flatten (separator : String) {parts : List (List String)}
    (h : ∀ part ∈ parts, part ≠ []) :
    separator.intercalate (parts.map separator.intercalate)
      = separator.intercalate parts.flatten := by
  induction parts with
  | nil => rfl
  | cons part parts ih =>
    obtain ⟨hpart, hparts⟩ := List.forall_mem_cons.mp h
    cases parts with
    | nil => simp
    | cons next parts =>
      have hrest : (next :: parts).flatten ≠ [] := by
        simp [hparts next List.mem_cons_self]
      rw [List.flatten_cons, String.intercalate_append_of_ne_nil hpart hrest, ← ih hparts]
      simp [String.intercalate_cons_cons]

/-- The filter texts of a compiled list come from the conditions that are neither a search nor
a place, each with its own clauses. -/
theorem compileAll_parts {R : Condition → List Clause → Prop} {conditions : List Condition}
    (hwritten : ∀ c ∈ conditions, WrittenBy R c) {ps : List Predicate}
    (h : Forall₂ (fun c p => compile c = .ok p) conditions ps) :
    ∃ parts, ps.filterMap Predicate.expression?
        = parts.map (fun clauses => " AND ".intercalate (clauses.map Clause.text))
      ∧ Forall₂ R (conditions.filter fun c => !c.isSearch && !c.isGeo) parts := by
  induction h with
  | nil => exact ⟨[], rfl, .nil⟩
  | @cons c p conditions ps hp _ ih =>
    obtain ⟨hc, hrest⟩ := List.forall_mem_cons.mp hwritten
    obtain ⟨parts, htexts, hrelated⟩ := ih hrest
    cases hpart : clausesOf? p with
    | none =>
      -- a condition without clauses is one that the statement leaves out
      have hskip : (!c.isSearch && !c.isGeo) = false := by
        by_contra hne
        have hboth : c.isSearch = false ∧ c.isGeo = false := by simpa using hne
        obtain ⟨part, hsome⟩ := (clausesOf?_isSome_iff hp).mpr hboth
        rw [hpart] at hsome
        cases hsome
      refine ⟨parts, ?_, ?_⟩
      · rw [List.filterMap_cons_none (expression?_eq_none.mpr hpart), htexts]
      · rwa [List.filter_cons_of_neg (by simp [hskip])]
    | some part =>
      obtain ⟨hsearch, hgeo⟩ := (clausesOf?_isSome_iff hp).mp ⟨part, hpart⟩
      obtain ⟨clauses, hwrites, hrelated_c⟩ := hc p hp part hpart
      refine ⟨clauses :: parts, ?_, ?_⟩
      · rw [List.filterMap_cons_some hwrites.expression?_eq, htexts, List.map_cons]
      · rw [List.filter_cons_of_pos (by simp [hsearch, hgeo])]
        exact .cons hrelated_c hrelated

/-- **The text of a list of conditions is that of clauses** that hold together exactly when
every condition holds that is neither a search nor a place. -/
theorem filter_means {names : List String} (hidentifier : identifierField ∈ names)
    {conditions : List Condition} (hfields : ∀ c ∈ conditions, ∀ field ∈ c.fields, field ∈ names)
    {ps : List Predicate} (h : compileAll conditions = .ok ps) :
    ∃ clauses : List Clause,
      (ps.filterMap Predicate.expression? = [] ↔ clauses = [])
        ∧ " AND ".intercalate (ps.filterMap Predicate.expression?)
          = " AND ".intercalate (clauses.map Clause.text)
        ∧ (∀ clause ∈ clauses, clause.WellMade names)
        ∧ ∀ v, (∀ clause ∈ clauses, clause.Holds v) ↔
          ∀ c ∈ conditions, c.isSearch = false → c.isGeo = false → Holds v c := by
  obtain ⟨parts, htexts, hmeans⟩ := @compileAll_parts (Means names) _
    (fun c hc => compile_writes hidentifier c (hfields c hc)) _ (compileAll_eq_ok.mp h)
  have hne : ∀ part ∈ parts, part ≠ [] := by
    intro part hpart
    obtain ⟨c, _, hc⟩ := forall₂_exists_left hmeans part hpart
    exact hc.nonempty
  refine ⟨parts.flatten, ?_, ?_, ?_, ?_⟩
  · rw [htexts, List.map_eq_nil_iff, List.flatten_eq_nil_iff]
    constructor
    · rintro rfl
      simp
    · intro hall
      exact List.eq_nil_iff_forall_not_mem.mpr fun part hpart => hne part hpart (hall part hpart)
  · -- the clauses of each condition were joined before all were joined
    have hjoin := @intercalate_flatten " AND " (parts.map (List.map Clause.text)) (by
      intro part hpart
      obtain ⟨clauses, hclauses, rfl⟩ := List.mem_map.mp hpart
      simpa using hne clauses hclauses)
    rw [htexts, List.map_flatten, ← hjoin, List.map_map]
    rfl
  · exact wellMade_flatten hmeans
  · intro v
    rw [holds_flatten hmeans v]
    simp only [List.mem_filter, Bool.and_eq_true, Bool.not_eq_true', and_imp]

end Metasearch.Filter.Algolia
