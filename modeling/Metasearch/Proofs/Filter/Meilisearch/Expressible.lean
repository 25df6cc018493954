import Metasearch.Proofs.Condition.Tree
import Metasearch.Proofs.Filter.Meilisearch.Compiled

set_option autoImplicit false

/-! # Which conditions Meilisearch can express

The filter language puts parentheses around every group, so it has an expression for a tree of any
shape. Two things it cannot say: a group of nothing, and a search for words in the midst of filters.
`Expressible` says so of the tree as a whole, without reference to the compiler, and
`compile_succeeds_iff` is that the compiler accepts nothing less and nothing more.

The compiler works from the leaves upward and refuses a search where it meets it as a member of a
group, one level at a time. So the rule for all that lies below a group is unfolded one level at a
time, too (`expressible_group`).
-/

namespace Metasearch.Filter.Meilisearch

open List (Forall₂)
open Condition (Below Occurs)

/-- **A condition that the filter language of Meilisearch can express.** -/
structure Expressible (c : Condition) : Prop where
  /-- No group is empty. -/
  groups : ∀ connective members, Occurs (.group connective members) c → members ≠ []
  /-- Searches for words stand outside every group. -/
  outside : ∀ d, Below d c → d.isSearch = false

theorem expressible_leaf {c : Condition}
    (hleaf : ∀ connective members, c ≠ .group connective members) : Expressible c := by
  constructor
  · intro connective members hd
    have heq : .group connective members = c := (Condition.occurs_of_leaf hleaf).mp hd
    exact absurd heq.symm (hleaf connective members)
  · intro d hd
    exact absurd hd (Condition.not_below_of_leaf hleaf d)

theorem expressible_group {connective : Connective} {members : List Condition} :
    Expressible (.group connective members) ↔
      members ≠ [] ∧ ∀ c ∈ members, Expressible c ∧ c.isSearch = false := by
  constructor
  · intro h
    refine ⟨h.groups connective members (Condition.occurs_self _), fun c hc => ⟨?_, ?_⟩⟩
    · constructor
      · intro k inner hd
        exact h.groups k inner (Condition.occurs_group.mpr (Or.inr ⟨c, hc, hd⟩))
      · intro d hd
        exact h.outside d (.deeper hc hd)
    · exact h.outside c (.member hc)
  · rintro ⟨hne, hmembers⟩
    constructor
    · intro k inner hd
      rcases Condition.occurs_group.mp hd with heq | ⟨c, hc, hd⟩
      · cases heq
        exact hne
      · exact (hmembers c hc).1.groups k inner hd
    · intro d hd
      obtain ⟨c, hc, rfl | hd⟩ := Condition.below_group.mp hd
      · exact (hmembers d hc).2
      · exact (hmembers c hc).1.outside d hd

variable {identifier : String}

/-- A condition that is no group always has a filter, or is a search for words. -/
theorem compile_leaf_succeeds {c : Condition}
    (hleaf : ∀ connective members, c ≠ .group connective members) :
    ∃ p, compile identifier c = .ok p := by
  cases c with
  | group connective members => exact absurd rfl (hleaf connective members)
  | _ => exact ⟨_, rfl⟩

/-- **Words come from searches**, and from these alone. -/
theorem eq_query_iff {c : Condition} {p : Predicate} (h : compile identifier c = .ok p)
    {text : String} : p = .query text ↔ c = .search text := by
  constructor
  · rintro rfl
    cases hsearch : c.isSearch with
    | false =>
      obtain ⟨expression, hexpression⟩ := expression_of_compile h hsearch
      cases hexpression
    | true =>
      cases c with
      | search query =>
        cases h
        rfl
      | _ => cases hsearch
  · rintro rfl
    cases h
    rfl

/-- A compiled condition may stand in a group unless it is a search. -/
theorem isSearch_eq_false_iff {c : Condition} {p : Predicate} (h : compile identifier c = .ok p) :
    c.isSearch = false ↔ ∃ part, p = .filter part := by
  constructor
  · exact expression_of_compile h
  · rintro ⟨part, rfl⟩
    cases c with
    | search query => cases h
    | _ => rfl

/-- **A condition compiles exactly when it is expressible.** -/
theorem compile_succeeds_iff (c : Condition) :
    (∃ p, compile identifier c = .ok p) ↔ Expressible c := by
  induction c using Condition.induction with
  | leaf c hleaf => exact iff_of_true (compile_leaf_succeeds hleaf) (expressible_leaf hleaf)
  | group connective members ih =>
    rw [expressible_group]
    constructor
    · rintro ⟨p, hp⟩
      obtain ⟨hne, parts, hparts, _⟩ := compile_group.mp hp
      refine ⟨hne, fun c hc => ?_⟩
      obtain ⟨part, _, hpart⟩ := forall₂_exists_right hparts c hc
      exact ⟨(ih c hc).mp ⟨_, hpart⟩, (isSearch_eq_false_iff hpart).mpr ⟨part, rfl⟩⟩
    · rintro ⟨hne, hmembers⟩
      have hparts : ∀ c ∈ members, ∃ part, compile identifier c = .ok (.filter part) := by
        intro c hc
        obtain ⟨hexpressible, hsearch⟩ := hmembers c hc
        obtain ⟨p, hp⟩ := (ih c hc).mpr hexpressible
        obtain ⟨part, rfl⟩ := (isSearch_eq_false_iff hp).mp hsearch
        exact ⟨part, hp⟩
      obtain ⟨parts, hparts⟩ := exists_forall₂ hparts
      exact ⟨_, compile_group.mpr ⟨hne, parts, hparts, rfl⟩⟩

/-- A list compiles exactly when each of its conditions does. -/
theorem compileAll_succeeds_iff {conditions : List Condition} :
    (∃ ps, compileAll identifier conditions = .ok ps) ↔ ∀ c ∈ conditions, Expressible c := by
  simp only [compileAll_eq_ok]
  constructor
  · rintro ⟨ps, hps⟩ c hc
    obtain ⟨p, _, hp⟩ := forall₂_exists_right hps c hc
    exact (compile_succeeds_iff c).mp ⟨p, hp⟩
  · intro h
    exact exists_forall₂ fun c hc => (compile_succeeds_iff c).mpr (h c hc)

end Metasearch.Filter.Meilisearch
