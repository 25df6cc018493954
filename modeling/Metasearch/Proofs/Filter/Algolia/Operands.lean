import Metasearch.Proofs.Filter.Algolia.Expressible
import Metasearch.Proofs.Filter.Algolia.Terms
import Metasearch.Proofs.Json.Sound

set_option autoImplicit false

/-! # The operands of orderings

An ordering compares a field with a number, and its operand is the own text of its value: that of
a number, or a string without the blanks at its ends. A string is taken if it reads as a number.
What reads as a number is a numeral, or one of the words for infinity and not-a-number, which no
filter language knows (`HasOperand`).

That an operand gets from a leaf into the filter, however deep the leaf stands, is a matter of the
terms: the terms of a compiled condition are those of its leaves, from left to right
(`compile_keepsTerms`).
-/

namespace Metasearch.Filter.Algolia

open List (Forall₂)
open Condition (Occurs)
open Decimal (IsNumeral IsSpecialWord)

/-! ## Operands -/

/-- The own text of a value that can be compared. -/
def ownText? : Json → Option String
  | .number value => some value.text
  | .string text => some (String.ofList (Text.trim text.toList))
  | _ => none

/-- What an ordering compares with: the own text of its value, which is a numeral if the value is
a number, and a numeral or a special word if it is a string. -/
structure HasOperand (value : Json) (operand : String) : Prop where
  own : ownText? value = some operand
  reads : IsNumeral operand.toList ∨ IsSpecialWord operand.toList
  number : ∀ n, value = .number n → IsNumeral operand.toList

/-- **An ordering has the operand that the compiler finds.** -/
theorem numericText?_eq_some_iff {value : Json} (hsound : value.Sound) {operand : String} :
    numericText? value = some operand ↔ HasOperand value operand := by
  cases value with
  | number n =>
    have hnumeral := Number.isNumeral_text (Json.sound_number.mp hsound)
    constructor
    · rintro ⟨⟩
      exact ⟨rfl, Or.inl hnumeral, fun _ _ => hnumeral⟩
    · exact HasOperand.own
  | string text =>
    have hreads := Decimal.readsAsFloat_iff (Text.trim text.toList)
    by_cases hread : Decimal.readsAsFloat (Text.trim text.toList) = true
    · rw [numericText?, if_pos hread]
      constructor
      · rintro ⟨⟩
        refine ⟨rfl, ?_, fun n h => by cases h⟩
        rw [String.toList_ofList]
        exact hreads.mp hread
      · exact HasOperand.own
    · rw [numericText?, if_neg hread]
      refine iff_of_false (by simp) fun h => hread (hreads.mpr ?_)
      obtain rfl := Option.some.inj h.own
      simpa only [String.toList_ofList] using h.reads
  | _ => exact iff_of_false (by simp [numericText?]) fun h => by cases h.own

theorem isOperand_iff {value : Json} (hsound : value.Sound) :
    IsOperand value ↔ ∃ operand, HasOperand value operand := by
  rw [← numericText?_isSome, Option.isSome_iff_exists]
  simp only [numericText?_eq_some_iff hsound]

/-! ## The terms of a tree -/

/-- The terms of a condition's leaves, from left to right. -/
def termsIn (c : Condition) : List Term :=
  c.leaves.flatMap fun leaf => (leafClauses leaf).flatMap Clause.terms

/-- Clauses that are made of the terms of a condition's leaves, in their order. -/
def KeepsTerms (c : Condition) (clauses : List Clause) : Prop :=
  clauses.flatMap Clause.terms = termsIn c

theorem termsIn_group (connective : Connective) (members : List Condition) :
    termsIn (.group connective members) = members.flatMap termsIn := by
  rw [termsIn, Condition.leaves_group, List.flatMap_assoc]
  rfl

theorem termsIn_of_leaf {c : Condition}
    (hleaf : ∀ connective members, c ≠ .group connective members) :
    termsIn c = (leafClauses c).flatMap Clause.terms := by
  rw [termsIn, Condition.leaves_of_leaf hleaf, List.flatMap_singleton]

/-- A search and a place have no terms. -/
theorem termsIn_eq_nil {c : Condition} (h : (!c.isSearch && !c.isGeo) = false) :
    termsIn c = [] := by
  cases c with
  | search _ | near _ _ _ _ | within _ _ => rfl
  | identifier _ | compare _ _ _ | member _ _ _ | group _ _ => cases h

/-- Lists that are equal place by place are equal when they are joined. -/
theorem flatMap_eq_of_forall₂ {α β γ : Type} {f : α → List γ} {g : β → List γ} {items : List α}
    {others : List β} (h : Forall₂ (fun a b => g b = f a) items others) :
    others.flatMap g = items.flatMap f := by
  induction h with
  | nil => rfl
  | cons hab _ ih => rw [List.flatMap_cons, List.flatMap_cons, hab, ih]

/-- **The terms of a compiled condition are those of its leaves**, from left to right. -/
theorem compile_keepsTerms (c : Condition) : WrittenBy KeepsTerms c := by
  induction c using Condition.induction with
  | leaf c hleaf =>
    intro p hp part hpart
    exact ⟨_, leaf_writes hleaf hp hpart, (termsIn_of_leaf hleaf).symm⟩
  | group connective members ih =>
    intro p hp part _
    obtain ⟨ps, hps, hgroup⟩ := compile_group.mp hp
    cases connective with
    | conjunction =>
      obtain ⟨_, parts, hkeeps, hwrites⟩ := conjunction_parts ih hps hgroup
      refine ⟨_, hwrites, ?_⟩
      rw [KeepsTerms, termsIn_group, List.flatten_eq_flatMap, List.flatMap_assoc]
      exact flatMap_eq_of_forall₂ hkeeps
    | disjunction =>
      obtain ⟨_, parts, kind, hkeeps, _, hwrites⟩ := disjunction_parts ih hps hgroup
      refine ⟨_, hwrites, ?_⟩
      -- the members are single clauses, and the group is one clause with the terms of all
      rw [KeepsTerms, termsIn_group, List.flatMap_singleton]
      exact flatMap_eq_of_forall₂ (hkeeps.imp fun c clause h => by
        rwa [KeepsTerms, List.flatMap_singleton] at h)

/-- Searches and places add no terms. -/
theorem flatMap_termsIn_filter (conditions : List Condition) :
    (conditions.filter fun c => !c.isSearch && !c.isGeo).flatMap termsIn
      = conditions.flatMap termsIn := by
  induction conditions with
  | nil => rfl
  | cons c conditions ih =>
    rw [List.filter_cons, List.flatMap_cons, ← ih]
    split
    · rw [List.flatMap_cons]
    · next hskipped => rw [termsIn_eq_nil (Bool.eq_false_iff.mpr hskipped), List.nil_append]

/-- The terms of a compiled list are those of its conditions in their order. -/
theorem compileAll_keepsTerms {conditions : List Condition} {predicates : List Predicate}
    (h : compileAll conditions = .ok predicates) :
    ∃ parts : List (List Clause), predicates.filterMap Predicate.expression?
        = parts.map (fun clauses => " AND ".intercalate (clauses.map Clause.text))
      ∧ parts.flatten.flatMap Clause.terms = conditions.flatMap termsIn := by
  obtain ⟨parts, htexts, hkeeps⟩ :=
    compileAll_parts (fun c _ => compile_keepsTerms c) (compileAll_eq_ok.mp h)
  refine ⟨parts, htexts, ?_⟩
  rw [← flatMap_termsIn_filter, List.flatten_eq_flatMap, List.flatMap_assoc]
  exact flatMap_eq_of_forall₂ hkeeps

/-- An ordering in a tree has its term among those of the tree. -/
theorem mem_termsIn_of_occurs {field : String} {comparison : Comparison} {value : Json}
    {c : Condition} (hoccurs : Occurs (.compare field comparison value) c)
    (hordering : isOrdering comparison = true) {operand : String}
    (hoperand : numericText? value = some operand) :
    Term.numeric field comparison operand ∈ termsIn c := by
  refine List.mem_flatMap.mpr ⟨.compare field comparison value,
    Condition.mem_leaves.mpr ⟨hoccurs, by simp⟩, ?_⟩
  cases comparison with
  | equal | notEqual => cases hordering
  | greater | greaterEqual | less | lessEqual =>
    simp [leafClauses, comparisonTerm?, hoperand, Clause.terms]

/-! ## Orderings -/

theorem compiled_eq_ok {conditions : List Condition} {predicates : List Predicate} :
    compiled conditions = .ok predicates ↔ compileAll conditions = .ok predicates := by
  unfold compiled
  cases compileAll conditions <;> simp [Except.mapError]

section Ordering

variable {conditions : List Condition} {c : Condition} (hc : c ∈ conditions) {field : String}
  {comparison : Comparison} {value : Json}
  (hoccurs : Occurs (.compare field comparison value) c)
  (hordering : isOrdering comparison = true) (hsound : value.Sound)

include hc hoccurs hordering hsound

/-- In a list that compiles an ordering has an operand. -/
theorem exists_operand {predicates : List Predicate}
    (h : compileAll conditions = .ok predicates) : ∃ operand, HasOperand value operand := by
  have hexpressible := compileAll_succeeds_iff.mp ⟨predicates, h⟩ c hc
  exact (isOperand_iff hsound).mp (hexpressible.operands field comparison value hoccurs hordering)

/-- A list with an ordering that has no operand is refused. -/
theorem compiled_eq_error_of_no_operand (hnone : ∀ operand, ¬ HasOperand value operand) :
    ∃ obstacle, compiled conditions = .error (.unsupported Engine.algolia.name obstacle) := by
  cases hcompile : compileAll conditions with
  | ok predicates =>
    obtain ⟨operand, hoperand⟩ := exists_operand hc hoccurs hordering hsound hcompile
    exact absurd hoperand (hnone operand)
  | error obstacle => exact ⟨obstacle, by rw [compiled, hcompile]; rfl⟩

end Ordering

/-- An ordering by itself is refused for its value. -/
theorem comparisonAtom_eq_error {field : String} {comparison : Comparison} {value : Json}
    (hordering : isOrdering comparison = true) (hsound : value.Sound)
    (hnone : ∀ operand, ¬ HasOperand value operand) :
    comparisonAtom field comparison value = .error (.notNumeric field value) := by
  have hnumber : numericText? value = none :=
    Option.eq_none_iff_forall_ne_some.mpr fun operand h =>
      hnone operand ((numericText?_eq_some_iff hsound).mp h)
  cases comparison with
  | equal | notEqual => cases hordering
  | greater | greaterEqual | less | lessEqual =>
    simp only [comparisonAtom, ordering, hnumber]

/-- **An ordering compares with a numeral or with a special word.** In a list that compiles, the
terms of all filter texts are those of the conditions' leaves, in their order, and each ordering,
wherever it stands, has a term with the own text of its value. This is a numeral unless it is a
special word in a string; no text is both. An ordering with any other value is refused, and so is
every list of conditions that it occurs in. -/
theorem orderings_compare_numbers_and_words (conditions : List Condition)
    (hsound : ∀ c ∈ conditions, ∀ field comparison value,
      Occurs (.compare field comparison value) c → value.Sound) :
    (∀ predicates, compiled conditions = .ok predicates →
      ∃ parts : List (List Clause),
        predicates.filterMap Predicate.expression?
            = parts.map (fun clauses => " AND ".intercalate (clauses.map Clause.text))
          ∧ parts.flatten.flatMap Clause.terms = conditions.flatMap termsIn
          ∧ ∀ c ∈ conditions, ∀ field comparison value,
              Occurs (.compare field comparison value) c → isOrdering comparison = true →
              ∃ operand, HasOperand value operand
                ∧ Term.numeric field comparison operand ∈ termsIn c
                ∧ (IsNumeral operand.toList ↔ ¬ IsSpecialWord operand.toList))
      ∧ ∀ c ∈ conditions, ∀ field comparison value,
          Occurs (.compare field comparison value) c → isOrdering comparison = true →
          (∀ operand, ¬ HasOperand value operand) →
          comparisonAtom field comparison value = .error (.notNumeric field value)
            ∧ ∃ obstacle,
                compiled conditions = .error (.unsupported Engine.algolia.name obstacle) := by
  constructor
  · intro predicates hcompiled
    rw [compiled_eq_ok] at hcompiled
    obtain ⟨parts, htexts, hterms⟩ := compileAll_keepsTerms hcompiled
    refine ⟨parts, htexts, hterms, fun c hc field comparison value hoccurs hordering => ?_⟩
    have hvalue := hsound c hc field comparison value hoccurs
    obtain ⟨operand, hoperand⟩ := exists_operand hc hoccurs hordering hvalue hcompiled
    refine ⟨operand, hoperand, ?_, fun h => h.not_isSpecialWord, hoperand.reads.resolve_right⟩
    exact mem_termsIn_of_occurs hoccurs hordering ((numericText?_eq_some_iff hvalue).mpr hoperand)
  · intro c hc field comparison value hoccurs hordering hnone
    have hvalue := hsound c hc field comparison value hoccurs
    exact ⟨comparisonAtom_eq_error hordering hvalue hnone,
      compiled_eq_error_of_no_operand hc hoccurs hordering hvalue hnone⟩

/-! ### A numeral in a string, and a word -/

/-- A choice of two prices, the dear one written as a string with blanks around it. -/
def cheapOrDear : Condition :=
  .group .disjunction
    [.compare "price" .less (.number (.integer 10)),
      .compare "price" .greaterEqual (.string " 1e2 ")]

/-- The choice in a conjunction with a genre. -/
def pricedNovels : Condition :=
  .group .conjunction [.compare "genre" .equal (.string "novel"), cheapOrDear]

/-- The blanks are left out, and what is compared with is a numeral. -/
theorem dear_novels_cost_a_numeral :
    (∀ c ∈ [pricedNovels], ∀ field comparison value,
        Occurs (.compare field comparison value) c → value.Sound)
      ∧ compiled [pricedNovels]
          = .ok [.allOf ["genre:\"novel\"", "(price < 10 OR price >= 1e2)"]]
      ∧ HasOperand (.string " 1e2 ") "1e2"
      ∧ Term.numeric "price" .greaterEqual "1e2" ∈ termsIn pricedNovels
      ∧ IsNumeral "1e2".toList := by
  have hsound : ∀ c ∈ [pricedNovels], ∀ field comparison value,
      Occurs (.compare field comparison value) c → value.Sound := by
    intro c hc field comparison value hoccurs
    obtain rfl := List.mem_singleton.mp hc
    have hleaf := (Condition.mem_leaves.mpr ⟨hoccurs, by simp⟩ :
      Condition.compare field comparison value ∈ pricedNovels.leaves)
    simp only [pricedNovels, cheapOrDear, Condition.leaves, Condition.leavesOfAll, List.mem_append,
      List.mem_singleton, List.not_mem_nil, or_false, Condition.compare.injEq] at hleaf
    rcases hleaf with ⟨-, -, rfl⟩ | ⟨-, -, rfl⟩ | ⟨-, -, rfl⟩
    · exact .string _
    · exact .number ⟨by decide, by decide⟩
    · exact .string _
  have hcompiled : compiled [pricedNovels]
      = .ok [.allOf ["genre:\"novel\"", "(price < 10 OR price >= 1e2)"]] := by rfl
  have hdear : Occurs (.compare "price" .greaterEqual (.string " 1e2 ")) pricedNovels :=
    Condition.occurs_group.mpr (Or.inr ⟨cheapOrDear, by simp,
      Condition.occurs_group.mpr (Or.inr ⟨_, by simp, Condition.occurs_self _⟩)⟩)
  obtain ⟨_, _, _, hordering⟩ :=
    (orderings_compare_numbers_and_words [pricedNovels] hsound).1 _ hcompiled
  obtain ⟨operand, hoperand, hterm, _⟩ :=
    hordering pricedNovels List.mem_cons_self _ _ _ hdear rfl
  obtain rfl : "1e2" = operand := Option.some.inj hoperand.own
  exact ⟨hsound, hcompiled, hoperand, hterm, by decide⟩

/-- The word for infinity gets into a filter as if it were a number. -/
theorem infinity_is_compared_with :
    compiled [.compare "price" .greater (.string "inf")]
        = .ok [.atom .numeric "price > inf"]
      ∧ HasOperand (.string "inf") "inf"
      ∧ ¬ IsNumeral "inf".toList := by
  have hinf : Decimal.IsWord "inf".toList := by decide
  have hword : IsSpecialWord "inf".toList := .intro .absent hinf
  exact ⟨rfl, ⟨rfl, Or.inr hword, fun n h => by cases h⟩, by decide⟩

end Metasearch.Filter.Algolia
