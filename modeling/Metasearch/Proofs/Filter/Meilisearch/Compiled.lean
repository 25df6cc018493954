import Metasearch.Filter.Meilisearch
import Metasearch.Proofs.Stepwise

set_option autoImplicit false

/-! # What the Meilisearch compiler does

A group compiles exactly when it has members and each of them has an expression; its own
expression is put together from theirs (`compile_group`). Nothing else is known of the compiler
after this file.
-/

namespace Metasearch.Filter.Meilisearch

open List (Forall₂)

theorem compileAll_eq_ok {identifier : String} {conditions : List Condition}
    {predicates : List Predicate} :
    compileAll identifier conditions = .ok predicates ↔
      Forall₂ (fun c p => compile identifier c = .ok p) conditions predicates :=
  itemwise_eq_ok (compile identifier) (compileAll identifier) rfl fun _ _ => rfl

theorem expressions_eq_ok {predicates : List Predicate} {parts : List String} :
    expressions predicates = .ok parts ↔ predicates = parts.map .filter := by
  induction predicates generalizing parts with
  | nil => simp [expressions, eq_comm]
  | cons p predicates ih =>
    cases p with
    | query text => cases parts <;> simp [expressions]
    | filter expression =>
      simp only [expressions, bind_eq_ok, pure_eq_ok, ih]
      constructor
      · rintro ⟨parts, rfl, rfl⟩
        rfl
      · intro h
        cases parts with
        | nil => cases h
        | cons part parts =>
          obtain ⟨hfirst, hrest⟩ := List.cons.inj h
          cases hfirst
          exact ⟨parts, hrest, rfl⟩

theorem group_eq_ok {connective : Connective} {predicates : List Predicate} {p : Predicate} :
    group connective predicates = .ok p ↔
      predicates ≠ [] ∧ ∃ parts, predicates = parts.map .filter
        ∧ p = .filter (groupExpression connective parts) := by
  cases predicates with
  | nil => simp [group, throw, throwThe, MonadExceptOf.throw, bind, Except.bind]
  | cons first predicates =>
    have hgroup : group connective (first :: predicates)
        = expressions (first :: predicates) >>= fun parts =>
          .ok (.filter (groupExpression connective parts)) := rfl
    simp only [hgroup, bind_eq_ok, expressions_eq_ok, Except.ok.injEq, ne_eq, reduceCtorEq,
      not_false_eq_true, true_and, @eq_comm _ _ p]

/-- A group compiles to the texts of its members, if it has any and each has one. -/
theorem compile_group {identifier : String} {connective : Connective}
    {members : List Condition} {p : Predicate} :
    compile identifier (.group connective members) = .ok p ↔
      members ≠ [] ∧ ∃ parts,
        Forall₂ (fun c part => compile identifier c = .ok (.filter part)) members parts
          ∧ p = .filter (groupExpression connective parts) := by
  simp only [compile, bind_eq_ok, compileAll_eq_ok, group_eq_ok]
  constructor
  · rintro ⟨ps, hps, hne, parts, rfl, rfl⟩
    rw [List.forall₂_map_right_iff] at hps
    refine ⟨?_, parts, hps, rfl⟩
    rintro rfl
    rw [List.forall₂_nil_left_iff.mp hps] at hne
    exact hne rfl
  · rintro ⟨hne, parts, hparts, rfl⟩
    refine ⟨parts.map .filter, ?_, ?_, parts, rfl, rfl⟩
    · rw [List.forall₂_map_right_iff]
      exact hparts
    intro hnil
    rw [List.map_eq_nil_iff] at hnil
    subst hnil
    exact hne (List.forall₂_nil_right_iff.mp hparts)

/-- Every condition but a search for words compiles to an expression, if it compiles. -/
theorem expression_of_compile {identifier : String} {c : Condition} {p : Predicate}
    (h : compile identifier c = .ok p) (hsearch : c.isSearch = false) :
    ∃ expression, p = .filter expression := by
  cases c with
  | search query => cases hsearch
  | group connective members =>
    obtain ⟨_, parts, _, rfl⟩ := compile_group.mp h
    exact ⟨_, rfl⟩
  | _ =>
    cases h
    exact ⟨_, rfl⟩

end Metasearch.Filter.Meilisearch
