import Metasearch.Proofs.Filter.Algolia.Expressible
import Metasearch.Proofs.Filter.Meilisearch.Expressible

set_option autoImplicit false

/-! # What one engine accepts, the other does

Algolia's filter language has rules that Meilisearch's has not, and none of Meilisearch's rules is
missing among them: both are said of the tree as a whole by the two `Expressible`, so the inclusion
is one of their fields in the other (`expressible_of_algolia`). A list of conditions that was
written for Algolia can therefore be handed to Meilisearch.

The compiled conditions stand in the order of the conditions, and those that are words for the query
text are the searches at the top (`Aligned`). So what one engine puts into its query text is what
the other does.
-/

namespace Metasearch.Filter

open List (Forall₂)

/-- **Predicates in the places of their conditions**: one for each, in their order, and words
exactly where a condition is a search for these words. -/
def Aligned {P : Type} (compile : Condition → Except Obstacle P) (words : String → P) :
    List Condition → List P → Prop :=
  Forall₂ fun c p => compile c = .ok p ∧ ∀ text, p = words text ↔ c = .search text

theorem aligned_of_forall₂ {P : Type} {compile : Condition → Except Obstacle P}
    {words : String → P}
    (hwords : ∀ c p, compile c = .ok p → ∀ text, p = words text ↔ c = .search text)
    {conditions : List Condition} {ps : List P}
    (h : Forall₂ (fun c p => compile c = .ok p) conditions ps) :
    Aligned compile words conditions ps :=
  h.imp fun c p hp => ⟨hp, hwords c p hp⟩

/-- Two lists that are aligned with the same conditions have the same words in the same places. -/
theorem Aligned.same_words {P Q : Type} {compile : Condition → Except Obstacle P}
    {compile' : Condition → Except Obstacle Q} {words : String → P} {words' : String → Q}
    {conditions : List Condition} {ps : List P} {qs : List Q}
    (hps : Aligned compile words conditions ps) (hqs : Aligned compile' words' conditions qs) :
    Forall₂ (fun p q => ∀ text, p = words text ↔ q = words' text) ps qs := by
  refine (forall₂_comp hps.flip hqs).imp ?_
  rintro p q ⟨c, ⟨_, hp⟩, ⟨_, hq⟩⟩ text
  exact (hp text).trans (hq text).symm

/-! ## Each engine by itself -/

theorem aligned_of_algolia {conditions : List Condition} {ps : List Algolia.Predicate}
    (h : Algolia.compileAll conditions = .ok ps) :
    Aligned Algolia.compile .query conditions ps :=
  aligned_of_forall₂ (fun _ _ hp _ => Algolia.eq_query_iff hp) (Algolia.compileAll_eq_ok.mp h)

theorem aligned_of_meilisearch {identifier : String} {conditions : List Condition}
    {qs : List Meilisearch.Predicate}
    (h : Meilisearch.compileAll identifier conditions = .ok qs) :
    Aligned (Meilisearch.compile identifier) .query conditions qs :=
  aligned_of_forall₂ (fun _ _ hq _ => Meilisearch.eq_query_iff hq)
    (Meilisearch.compileAll_eq_ok.mp h)

/-! ## From one engine to the other -/

/-- The rules of Meilisearch are among those of Algolia. -/
theorem expressible_of_algolia {c : Condition} (h : Algolia.Expressible c) :
    Meilisearch.Expressible c := by
  constructor
  · exact h.groups
  · intro d hd
    exact (h.outside d hd).1

/-- **Conditions are portable from Algolia to Meilisearch.** Meilisearch accepts exactly the lists
without an empty group and without a search below a group. It accepts whatever Algolia does; and
both give one predicate for each condition, in their order, with the same words where a condition
is a search. -/
theorem conditions_are_portable (identifier : String) (conditions : List Condition) :
    ((∃ qs, Meilisearch.compileAll identifier conditions = .ok qs) ↔
        ∀ c ∈ conditions, Meilisearch.Expressible c)
      ∧ ∀ ps, Algolia.compileAll conditions = .ok ps →
        ∃ qs, Meilisearch.compileAll identifier conditions = .ok qs
          ∧ Aligned Algolia.compile .query conditions ps
          ∧ Aligned (Meilisearch.compile identifier) .query conditions qs
          ∧ Forall₂ (fun p q => ∀ text, p = .query text ↔ q = .query text) ps qs := by
  constructor
  · exact Meilisearch.compileAll_succeeds_iff
  · intro ps hps
    have hexpressible : ∀ c ∈ conditions, Algolia.Expressible c :=
      Algolia.compileAll_succeeds_iff.mp ⟨ps, hps⟩
    obtain ⟨qs, hqs⟩ : ∃ qs, Meilisearch.compileAll identifier conditions = .ok qs := by
      apply Meilisearch.compileAll_succeeds_iff.mpr
      intro c hc
      exact expressible_of_algolia (hexpressible c hc)
    have hleft := aligned_of_algolia hps
    have hright := aligned_of_meilisearch hqs
    exact ⟨qs, hqs, hleft, hright, hleft.same_words hright⟩

/-- A conjunction in a disjunction is not portable in the other direction. -/
example :
    let both : Condition := .group .conjunction [.identifier "a", .identifier "b"]
    Meilisearch.compileAll "id" [.group .disjunction [both]]
        = .ok [.filter "((id = \"a\" AND id = \"b\"))"]
      ∧ Algolia.compileAll [.group .disjunction [both]] = .error .conjunctionInDisjunction := by
  exact ⟨rfl, rfl⟩

end Metasearch.Filter
