import Metasearch.Engine.Algolia
import Metasearch.Proofs.Condition.Tree
import Metasearch.Proofs.Decimal.Figures
import Metasearch.Proofs.Filter.Algolia.Compiled

set_option autoImplicit false

/-! # Which conditions Algolia can express

The compiler decides from the leaves upward, by the shapes of what it has compiled already.
`Expressible` says the same of the tree as a whole, by what may stand where: a rule for groups,
one for the conditions below a group, three for leaves, and two for what lies below a
disjunction. The compiler is not mentioned in it.

The main statement `compiled_eq_ok_iff` is that the two agree. The induction needs to know more
than that a member compiles: which shape its predicate has (`shape_of_compile`), and that the
kinds of its terms are the kinds of its leaves (`kinds_of_termsOf`).
-/

namespace Metasearch.Filter.Algolia

open List (Forall₂)
open Condition (Below Occurs)

/-! ## The rules -/

/-- The kind of the atom that compares a field with a value. -/
def kindOf : Json → Kind
  | .number _ => .numeric
  | _ => .facet

/-- Whether a comparison asks for more than equality. -/
def isOrdering : Comparison → Bool
  | .equal => false
  | .notEqual => false
  | _ => true

/-- The kinds of the atoms that a leaf stands for. -/
def leafKinds : Condition → List Kind
  | .identifier _ => [.facet]
  | .compare _ comparison value => if isOrdering comparison then [.numeric] else [kindOf value]
  | .member _ _ values => values.map kindOf
  | _ => []

/-- A value that an ordering can have: a number, or a string that reads as one. -/
def IsOperand : Json → Prop
  | .number _ => True
  | .string text => (Decimal.floatOfChars? (Text.trim text.toList)).isSome = true
  | _ => False

/-- Whether a condition stands for several clauses that must all hold. -/
def isConjunctive : Condition → Bool
  | .group .conjunction _ => true
  | .member _ .notAmong values => 2 ≤ values.length
  | _ => false

/-- **A condition that the filter language of Algolia can express.** -/
structure Expressible (c : Condition) : Prop where
  /-- No group is empty. -/
  groups : ∀ connective members, Occurs (.group connective members) c → members ≠ []
  /-- Searches for words and for places stand outside every group. -/
  outside : ∀ d, Below d c → d.isSearch = false ∧ d.isGeo = false
  /-- No conjunction stands in a disjunction. -/
  flat : ∀ members d, Occurs (.group .disjunction members) c →
    Below d (.group .disjunction members) → isConjunctive d = false
  /-- A membership names at least one value. -/
  values : ∀ field membership values, Occurs (.member field membership values) c → values ≠ []
  /-- The values of which one must hold are of one kind. -/
  alike : ∀ field values, Occurs (.member field .among values) c →
    ∀ v ∈ values, ∀ w ∈ values, kindOf v = kindOf w
  operands : ∀ field comparison value, Occurs (.compare field comparison value) c →
    isOrdering comparison = true → IsOperand value
  /-- All leaves of a disjunction are of one kind. -/
  oneKind : ∀ members, Occurs (.group .disjunction members) c →
    ∃ kind, ∀ d, Below d (.group .disjunction members) → ∀ k ∈ leafKinds d, k = kind

/-- The rules for a leaf by itself. -/
def LeafExpressible : Condition → Prop
  | .compare _ comparison value => isOrdering comparison = true → IsOperand value
  | .member _ membership values =>
    values ≠ [] ∧ (membership = .among → ∀ v ∈ values, ∀ w ∈ values, kindOf v = kindOf w)
  | _ => True

theorem expressible_leaf {c : Condition}
    (hleaf : ∀ connective members, c ≠ .group connective members) :
    Expressible c ↔ LeafExpressible c := by
  -- a leaf is all that occurs in it, so the rules for groups ask nothing
  have hoccurs : ∀ d, Occurs d c → d = c := fun d hd => (Condition.occurs_of_leaf hleaf).mp hd
  have hbelow := Condition.not_below_of_leaf hleaf
  constructor
  · intro h
    cases c with
    | compare field comparison value =>
      exact h.operands field comparison value (Condition.occurs_self _)
    | member field membership values =>
      refine ⟨h.values field membership values (Condition.occurs_self _), ?_⟩
      rintro rfl
      exact h.alike field values (Condition.occurs_self _)
    | _ => trivial
  · intro h
    refine ⟨?_, ?_, ?_, ?_, ?_, ?_, ?_⟩
    · intro connective members hd
      exact absurd (hoccurs _ hd).symm (hleaf connective members)
    · exact fun d hd => absurd hd (hbelow d)
    · intro members d hd
      exact absurd (hoccurs _ hd).symm (hleaf .disjunction members)
    · intro field membership values hd
      have heq := hoccurs _ hd
      subst heq
      exact h.1
    · intro field values hd
      have heq := hoccurs _ hd
      subst heq
      exact h.2 rfl
    · intro field comparison value hd
      have heq := hoccurs _ hd
      subst heq
      exact h
    · intro members hd
      exact absurd (hoccurs _ hd).symm (hleaf .disjunction members)

/-- The rules for what lies below a disjunction. -/
def DisjunctionExpressible (c : Condition) : Prop :=
  (∀ d, Below d c → isConjunctive d = false)
    ∧ ∃ kind, ∀ d, Below d c → ∀ k ∈ leafKinds d, k = kind

theorem expressible_group {connective : Connective} {members : List Condition} :
    Expressible (.group connective members) ↔
      members ≠ [] ∧ (∀ c ∈ members, Expressible c ∧ c.isSearch = false ∧ c.isGeo = false)
        ∧ (connective = .disjunction → DisjunctionExpressible (.group connective members)) := by
  -- what occurs in a member occurs in the group: the rules are handed down
  have hinto : ∀ c ∈ members, ∀ d, Occurs d c → Occurs d (.group connective members) :=
    fun c hc d hd => Condition.occurs_group.mpr (Or.inr ⟨c, hc, hd⟩)
  constructor
  · intro h
    refine ⟨h.groups connective members (Condition.occurs_self _), fun c hc => ⟨?_, ?_⟩, ?_⟩
    · exact ⟨fun k m hd => h.groups k m (hinto c hc _ hd),
        fun d hd => h.outside d (.deeper hc hd),
        fun m d hd => h.flat m d (hinto c hc _ hd),
        fun field membership values hd => h.values field membership values (hinto c hc _ hd),
        fun field values hd => h.alike field values (hinto c hc _ hd),
        fun field comparison value hd => h.operands field comparison value (hinto c hc _ hd),
        fun m hd => h.oneKind m (hinto c hc _ hd)⟩
    · exact h.outside c (.member hc)
    · rintro rfl
      exact ⟨fun d => h.flat members d (Condition.occurs_self _),
        h.oneKind members (Condition.occurs_self _)⟩
  · rintro ⟨hne, hmembers, hdisjunction⟩
    -- what occurs in the group is the group itself or occurs in a member
    refine ⟨?_, ?_, ?_, ?_, ?_, ?_, ?_⟩
    · intro k m hd
      rcases Condition.occurs_group.mp hd with heq | ⟨c, hc, hd⟩
      · cases heq
        exact hne
      · exact (hmembers c hc).1.groups k m hd
    · intro d hd
      obtain ⟨c, hc, rfl | hd⟩ := Condition.below_group.mp hd
      · exact (hmembers d hc).2
      · exact (hmembers c hc).1.outside d hd
    · intro m d hd
      rcases Condition.occurs_group.mp hd with heq | ⟨c, hc, hd⟩
      · cases heq
        exact (hdisjunction rfl).1 d
      · exact (hmembers c hc).1.flat m d hd
    · intro field membership values hd
      rcases Condition.occurs_group.mp hd with heq | ⟨c, hc, hd⟩
      · cases heq
      · exact (hmembers c hc).1.values field membership values hd
    · intro field values hd
      rcases Condition.occurs_group.mp hd with heq | ⟨c, hc, hd⟩
      · cases heq
      · exact (hmembers c hc).1.alike field values hd
    · intro field comparison value hd
      rcases Condition.occurs_group.mp hd with heq | ⟨c, hc, hd⟩
      · cases heq
      · exact (hmembers c hc).1.operands field comparison value hd
    · intro m hd
      rcases Condition.occurs_group.mp hd with heq | ⟨c, hc, hd⟩
      · cases heq
        exact (hdisjunction rfl).2
      · exact (hmembers c hc).1.oneKind m hd

/-! ## Leaves -/

theorem equality_kind (field : String) (value : Json) :
    (equality field value).1 = kindOf value := by
  cases value <;> rfl

theorem inequality_kind (field : String) (value : Json) :
    (inequality field value).1 = kindOf value := by
  cases value <;> rfl

theorem numericText?_isSome {value : Json} :
    (numericText? value).isSome = true ↔ IsOperand value := by
  cases value with
  | number value => simp [numericText?, IsOperand]
  | string text =>
    simp only [numericText?, IsOperand, Decimal.floatOfChars?_isSome]
    cases Decimal.readsAsFloat (Text.trim text.toList) <;> simp
  | _ => simp [numericText?, IsOperand]

/-- **A comparison compiles exactly when an ordering has an operand.** -/
theorem comparisonAtom_succeeds_iff {field : String} {comparison : Comparison} {value : Json} :
    (∃ atom, comparisonAtom field comparison value = .ok atom) ↔
      (isOrdering comparison = true → IsOperand value) := by
  have hordering : (∃ atom, ordering field comparison value = .ok atom) ↔ IsOperand value := by
    rw [← numericText?_isSome, Option.isSome_iff_exists]
    simp [ordering_eq_ok]
  cases comparison with
  | equal => simp [comparisonAtom, isOrdering]
  | notEqual => simp [comparisonAtom, isOrdering]
  | _ => simpa [comparisonAtom, isOrdering] using hordering

theorem comparisonAtom_kind {field : String} {comparison : Comparison} {value : Json}
    {atom : Kind × String} (h : comparisonAtom field comparison value = .ok atom) :
    leafKinds (.compare field comparison value) = [atom.1] := by
  cases comparison with
  | equal =>
    cases h
    simp [leafKinds, isOrdering, equality_kind]
  | notEqual =>
    cases h
    simp [leafKinds, isOrdering, inequality_kind]
  | _ =>
    obtain ⟨number, _, rfl⟩ := ordering_eq_ok.mp h
    rfl

theorem memberPredicate_succeeds_iff {field : String} {membership : Membership}
    {values : List Json} :
    (∃ p, memberPredicate field membership values = .ok p) ↔
      LeafExpressible (.member field membership values) := by
  match membership, values with
  | _, [] => simp [memberPredicate, LeafExpressible]
  | .notAmong, [value] => simp [memberPredicate, LeafExpressible]
  | .notAmong, value :: next :: values => simp [memberPredicate, LeafExpressible]
  | .among, value :: values =>
    simp only [memberPredicate, LeafExpressible, ne_eq, reduceCtorEq, not_false_eq_true,
      true_and, true_implies]
    constructor
    · rintro ⟨p, hp⟩
      obtain ⟨kind, hkind, _⟩ := disjunction_eq_ok hp
      have hall : ∀ v ∈ value :: values, kindOf v = kind := by
        intro v hv
        rw [← equality_kind field v]
        exact hkind _ (List.mem_map_of_mem hv)
      intro v hv w hw
      rw [hall v hv, hall w hw]
    · intro h
      refine @disjunction_succeeds _ (kindOf value) fun t ht => ?_
      obtain ⟨v, hv, rfl⟩ := List.mem_map.mp ht
      rw [equality_kind]
      exact h v hv value List.mem_cons_self

/-- A leaf compiles exactly when it follows the rules for leaves. -/
theorem compile_leaf_succeeds_iff {c : Condition}
    (hleaf : ∀ connective members, c ≠ .group connective members) :
    (∃ p, compile c = .ok p) ↔ LeafExpressible c := by
  cases c with
  | compare field comparison value =>
    rw [LeafExpressible, ← @comparisonAtom_succeeds_iff field]
    simp only [compile, bind_eq_ok, pure_eq_ok]
    constructor
    · rintro ⟨_, atom, hatom, _⟩
      exact ⟨atom, hatom⟩
    · rintro ⟨atom, hatom⟩
      exact ⟨_, atom, hatom, rfl⟩
  | member field membership values => exact memberPredicate_succeeds_iff
  | group connective members => exact absurd rfl (hleaf connective members)
  | _ => simp [compile, LeafExpressible]

/-! ## Members of groups -/

theorem isConjunctive_eq_false {c : Condition} : isConjunctive c = false ↔ shapeOf c ≠ .allOf := by
  match c with
  | .member _ .notAmong values => by_cases h : 2 ≤ values.length <;>
      simp [shapeOf, isConjunctive, h]
  | .search _ | .near _ _ _ _ | .within _ _ | .identifier _ | .compare _ _ _
  | .member _ .among _ | .group .conjunction _ | .group .disjunction _ =>
    simp [shapeOf, isConjunctive]

/-- A compiled condition may stand in a disjunction unless it is a search, a place or a
conjunction. -/
theorem termsOf_succeeds_iff {c : Condition} {p : Predicate} (h : compile c = .ok p) :
    (∃ part, termsOf p = .ok part) ↔
      (c.isSearch = false ∧ c.isGeo = false) ∧ isConjunctive c = false := by
  rw [← shapeOf_ne_words_place, isConjunctive_eq_false, ← shape_of_compile h]
  cases p <;> simp [termsOf, Predicate.shape]

/-! ## Kinds -/

/-- The kinds of some terms. -/
def HasKind (terms : List (Kind × String)) (kind : Kind) : Prop := ∃ t ∈ terms, t.1 = kind

/-- Terms of one kind keep it when they are written into one disjunction and taken out again. -/
theorem hasKind_anyOf {kind k : Kind} {terms : List (Kind × String)}
    (h : ∀ t ∈ terms, t.1 = kind) :
    HasKind ((terms.map Prod.snd).map fun text => (kind, text)) k ↔ HasKind terms k := by
  simp only [HasKind, List.map_map, List.mem_map, Function.comp_apply]
  constructor
  · rintro ⟨_, ⟨t, ht, rfl⟩, rfl⟩
    exact ⟨t, ht, h t ht⟩
  · rintro ⟨t, ht, rfl⟩
    exact ⟨(kind, t.2), ⟨t, ht, rfl⟩, (h t ht).symm⟩

theorem kinds_of_leaf {c : Condition}
    (hleaf : ∀ connective members, c ≠ .group connective members) {p : Predicate}
    (h : compile c = .ok p) {part : List (Kind × String)} (hpart : termsOf p = .ok part)
    (k : Kind) : HasKind part k ↔ k ∈ leafKinds c := by
  cases fromLeaf_of_compile hleaf h with
  | identifier id =>
    cases hpart
    simp [HasKind, leafKinds, eq_comm]
  | compare hatom =>
    cases hpart
    rw [comparisonAtom_kind hatom]
    simp [HasKind, eq_comm]
  | among hvalues hkind =>
    cases hpart
    rw [hasKind_anyOf hkind]
    simp only [HasKind, leafKinds, List.mem_map, exists_exists_and_eq_and, equality_kind]
  | notOne field value =>
    cases hpart
    simp [HasKind, leafKinds, inequality_kind, eq_comm]
  | search query | notAmong hlength | near field lat lng distance | within field box => cases hpart

/-- **The kinds of a member's terms are the kinds of its leaves.** -/
theorem kinds_of_termsOf (c : Condition) :
    ∀ p, compile c = .ok p → ∀ part, termsOf p = .ok part → ∀ k,
      HasKind part k ↔ ∃ d, Occurs d c ∧ k ∈ leafKinds d := by
  induction c using Condition.induction with
  | leaf c hleaf =>
    intro p hp part hpart k
    rw [kinds_of_leaf hleaf hp hpart k]
    constructor
    · exact fun hk => ⟨c, Condition.occurs_self c, hk⟩
    · rintro ⟨d, hd, hk⟩
      rwa [(Condition.occurs_of_leaf hleaf).mp hd] at hk
  | group connective members ih =>
    intro p hp part hpart k
    obtain ⟨ps, hps, hgroup⟩ := compile_group.mp hp
    cases connective with
    | conjunction =>
      obtain ⟨_, parts, _, rfl⟩ := group_conjunction_eq_ok.mp hgroup
      cases hpart
    | disjunction =>
      obtain ⟨_, parts, kind, hparts, hkind, rfl⟩ := eq_anyOf_of_group_disjunction hgroup
      cases hpart
      rw [hasKind_anyOf hkind]
      constructor
      · rintro ⟨t, ht, hk⟩
        obtain ⟨part, hpart, ht⟩ := List.mem_flatten.mp ht
        obtain ⟨p, hp, hterms⟩ := forall₂_exists_left hparts part hpart
        obtain ⟨c, hc, hcompile⟩ := forall₂_exists_left hps p hp
        obtain ⟨d, hd, hleaf⟩ := (ih c hc p hcompile part hterms k).mp ⟨t, ht, hk⟩
        exact ⟨d, Condition.occurs_group.mpr (Or.inr ⟨c, hc, hd⟩), hleaf⟩
      · rintro ⟨d, hd, hleaf⟩
        -- a group is no leaf, so the leaf is in a member
        rcases Condition.occurs_group.mp hd with rfl | ⟨c, hc, hd⟩
        · cases hleaf
        · obtain ⟨p, hp, hcompile⟩ := forall₂_exists_right hps c hc
          obtain ⟨part, hpart, hterms⟩ := forall₂_exists_right hparts p hp
          obtain ⟨t, ht, hk⟩ := (ih c hc p hcompile part hterms k).mpr ⟨d, hd, hleaf⟩
          exact ⟨t, List.mem_flatten.mpr ⟨part, hpart, ht⟩, hk⟩

/-! ## The rules decide -/

/-- A member of a disjunction follows the rules for what lies below one. -/
theorem flat_of_termsOf {c : Condition} (hexpressible : Expressible c) {p : Predicate}
    (h : compile c = .ok p) (hpart : ∃ part, termsOf p = .ok part) :
    ∀ d, Occurs d c → isConjunctive d = false := by
  have hself : isConjunctive c = false := ((termsOf_succeeds_iff h).mp hpart).2
  rintro d (rfl | hd)
  · exact hself
  · cases c with
    | group connective members =>
      cases connective with
      | conjunction => simp [isConjunctive] at hself
      | disjunction => exact hexpressible.flat members d (Condition.occurs_self _) hd
    | _ => exact absurd hd (Condition.not_below_of_leaf (by simp) d)

section Group

variable {members : List Condition}
  (ih : ∀ c ∈ members, (∃ p, compile c = .ok p) ↔ Expressible c)

include ih

theorem expressible_of_compile_group {connective : Connective} {p : Predicate}
    (h : compile (.group connective members) = .ok p) :
    Expressible (.group connective members) := by
  obtain ⟨ps, hps, hgroup⟩ := compile_group.mp h
  have hcompiled : ∀ c ∈ members, ∃ p ∈ ps, compile c = .ok p := forall₂_exists_right hps
  have hne_of : ps ≠ [] → members ≠ [] := by
    rintro hps_ne rfl
    exact hps_ne (List.forall₂_nil_left_iff.mp hps)
  rw [expressible_group]
  cases connective with
  | conjunction =>
    obtain ⟨hne, parts, hparts, rfl⟩ := group_conjunction_eq_ok.mp hgroup
    refine ⟨hne_of hne, fun c hc => ?_, by simp⟩
    obtain ⟨p, hp, hc'⟩ := hcompiled c hc
    obtain ⟨part, _, hpart⟩ := forall₂_exists_right hparts p hp
    exact ⟨(ih c hc).mp ⟨p, hc'⟩, (clausesOf?_isSome_iff hc').mp ⟨part, hpart⟩⟩
  | disjunction =>
    obtain ⟨hne, parts, kind, hparts, hkind, rfl⟩ := eq_anyOf_of_group_disjunction hgroup
    -- every member has terms, which is all that a disjunction asks of it
    have hterms : ∀ c ∈ members, ∃ p part, compile c = .ok p ∧ part ∈ parts
        ∧ termsOf p = .ok part := by
      intro c hc
      obtain ⟨p, hp, hc'⟩ := hcompiled c hc
      obtain ⟨part, hmem, hpart⟩ := forall₂_exists_right hparts p hp
      exact ⟨p, part, hc', hmem, hpart⟩
    refine ⟨hne_of hne, fun c hc => ?_, fun _ => ⟨fun d hd => ?_, kind, fun d hd k hk => ?_⟩⟩
    · obtain ⟨p, part, hc', _, hpart⟩ := hterms c hc
      exact ⟨(ih c hc).mp ⟨p, hc'⟩, ((termsOf_succeeds_iff hc').mp ⟨part, hpart⟩).1⟩
    · obtain ⟨c, hc, hd⟩ := Condition.below_group.mp hd
      obtain ⟨p, part, hc', _, hpart⟩ := hterms c hc
      exact flat_of_termsOf ((ih c hc).mp ⟨p, hc'⟩) hc' ⟨part, hpart⟩ d hd
    · obtain ⟨c, hc, hd⟩ := Condition.below_group.mp hd
      obtain ⟨p, part, hc', hmem, hpart⟩ := hterms c hc
      obtain ⟨t, ht, rfl⟩ := (kinds_of_termsOf c p hc' part hpart k).mpr ⟨d, hd, hk⟩
      exact hkind t (List.mem_flatten.mpr ⟨part, hmem, ht⟩)

theorem compile_group_of_expressible {connective : Connective}
    (h : Expressible (.group connective members)) :
    ∃ p, compile (.group connective members) = .ok p := by
  obtain ⟨hne, hmembers, hdisjunction⟩ := expressible_group.mp h
  -- the members compile by induction, and the group by what is known of their shapes
  obtain ⟨ps, hps⟩ := exists_forall₂ fun c hc => (ih c hc).mpr (hmembers c hc).1
  have hps_ne : ps ≠ [] := by
    rintro rfl
    exact hne (List.forall₂_nil_right_iff.mp hps)
  cases connective with
  | conjunction =>
    have hparts : ∀ p ∈ ps, ∃ part, clausesOf? p = some part := by
      intro p hp
      obtain ⟨c, hc, hc'⟩ := forall₂_exists_left hps p hp
      exact (clausesOf?_isSome_iff hc').mpr (hmembers c hc).2
    obtain ⟨parts, hparts⟩ := exists_forall₂ hparts
    have hgroup := group_conjunction_eq_ok.mpr ⟨hps_ne, parts, hparts, rfl⟩
    exact ⟨_, compile_group.mpr ⟨ps, hps, hgroup⟩⟩
  | disjunction =>
    obtain ⟨hflat, kind, hkind⟩ := hdisjunction rfl
    have hparts : ∀ p ∈ ps, ∃ part, termsOf p = .ok part := by
      intro p hp
      obtain ⟨c, hc, hc'⟩ := forall₂_exists_left hps p hp
      exact (termsOf_succeeds_iff hc').mpr ⟨(hmembers c hc).2, hflat c (.member hc)⟩
    obtain ⟨parts, hparts⟩ := exists_forall₂ hparts
    -- every term comes from a leaf below the group, and these are of one kind
    have hone : ∀ t ∈ parts.flatten, t.1 = kind := by
      intro t ht
      obtain ⟨part, hmem, ht⟩ := List.mem_flatten.mp ht
      obtain ⟨p, hp, hpart⟩ := forall₂_exists_left hparts part hmem
      obtain ⟨c, hc, hc'⟩ := forall₂_exists_left hps p hp
      obtain ⟨d, hd, hk⟩ := (kinds_of_termsOf c p hc' part hpart t.1).mp ⟨t, ht, rfl⟩
      exact hkind d (Condition.below_group.mpr ⟨c, hc, hd⟩) t.1 hk
    obtain ⟨p, hp⟩ := group_disjunction_succeeds hps_ne hparts hone
    exact ⟨p, compile_group.mpr ⟨ps, hps, hp⟩⟩

end Group

/-- **A condition compiles exactly when it is expressible.** -/
theorem compile_succeeds_iff (c : Condition) : (∃ p, compile c = .ok p) ↔ Expressible c := by
  induction c using Condition.induction with
  | leaf c hleaf => rw [expressible_leaf hleaf, compile_leaf_succeeds_iff hleaf]
  | group connective members ih =>
    constructor
    · rintro ⟨p, hp⟩
      exact expressible_of_compile_group ih hp
    · exact compile_group_of_expressible ih

/-- A list compiles exactly when each of its conditions does. -/
theorem compileAll_succeeds_iff {conditions : List Condition} :
    (∃ ps, compileAll conditions = .ok ps) ↔ ∀ c ∈ conditions, Expressible c := by
  simp only [compileAll_eq_ok]
  constructor
  · rintro ⟨ps, hps⟩ c hc
    obtain ⟨p, _, hp⟩ := forall₂_exists_right hps c hc
    exact (compile_succeeds_iff c).mp ⟨p, hp⟩
  · exact fun h => exists_forall₂ fun c hc => (compile_succeeds_iff c).mpr (h c hc)

/-! ## The failure -/

/-- The conditions of a request as the engine's compiler returns them: an obstacle is reported
under the engine's name. -/
def compiled (conditions : List Condition) : Except Failure (List Predicate) :=
  (compileAll conditions).mapError (.unsupported Engine.algolia.name)

/-- A search whose conditions do not compile reports that failure, and sends nothing. -/
theorem searchPayload_eq_fail {payload : SearchPayload} {failure : Failure}
    (h : compiled (SearchRequest.filtersOf payload) = .error failure)
    (hindex : payload.index ≠ "") (hescapes : Algolia.escapes payload = false)
    {schema : Schema} {descriptor : IndexDescriptor}
    (hdescriptor : schema.index? payload.index = some descriptor) (policy : Federation.Policy) :
    Algolia.searchPayload policy (some schema) payload = .fail failure := by
  unfold compiled at h
  cases hcompile : compileAll (SearchRequest.filtersOf payload) with
  | ok predicates =>
    rw [hcompile] at h
    cases h
  | error obstacle =>
    rw [hcompile] at h
    cases h
    have hbody : Algolia.requestBody (SearchRequest.ofPayload descriptor.name payload)
        = .error obstacle := by
      have hfilters : compileAll (SearchRequest.ofPayload descriptor.name payload).filters
          = .error obstacle := hcompile
      rw [Algolia.requestBody, hfilters]
      rfl
    simp only [Algolia.searchPayload, if_neg hindex, hescapes, Bool.false_eq_true, ↓reduceIte,
      hdescriptor, hbody]

/-- **The conditions that compile are the expressible ones.** Every other list fails as
unsupported by this engine, and so does a search for it that is not led around the compiler. -/
theorem compiled_eq_ok_iff (conditions : List Condition) :
    ((∃ predicates, compiled conditions = .ok predicates) ↔ ∀ c ∈ conditions, Expressible c)
      ∧ ∀ failure, compiled conditions = .error failure →
        (∃ obstacle, failure = .unsupported Engine.algolia.name obstacle)
          ∧ ∀ policy schema descriptor payload, SearchRequest.filtersOf payload = conditions →
            payload.index ≠ "" → Algolia.escapes payload = false →
            schema.index? payload.index = some descriptor →
            Algolia.searchPayload policy (some schema) payload = .fail failure := by
  rw [← compileAll_succeeds_iff]
  constructor
  · unfold compiled
    cases compileAll conditions with
    | ok predicates => exact ⟨fun _ => ⟨predicates, rfl⟩, fun _ => ⟨predicates, rfl⟩⟩
    | error obstacle =>
      constructor
      · rintro ⟨_, h⟩
        cases h
      · rintro ⟨_, h⟩
        cases h
  · intro failure h
    constructor
    · unfold compiled at h
      cases hcompile : compileAll conditions with
      | ok predicates =>
        rw [hcompile] at h
        cases h
      | error obstacle =>
        rw [hcompile] at h
        cases h
        exact ⟨obstacle, rfl⟩
    · rintro policy schema descriptor payload rfl hindex hescapes hdescriptor
      exact searchPayload_eq_fail h hindex hescapes hdescriptor policy

end Metasearch.Filter.Algolia
