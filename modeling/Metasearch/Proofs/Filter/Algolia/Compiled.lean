import Metasearch.Filter.Algolia
import Metasearch.Proofs.Condition.Tree
import Metasearch.Proofs.Stepwise

set_option autoImplicit false

/-! # What the Algolia compiler does

The compiler works from the leaves upward, and of a compiled member a group sees only its
shape. This file says once what each step can do: when a list of conditions compiles
(`compileAll_eq_ok`), when terms are of one kind (`commonKind_eq_ok`), what a conjunction and a
disjunction make of their compiled members (`group_conjunction_eq_ok`,
`eq_anyOf_of_group_disjunction`, `group_disjunction_succeeds`), and what any other condition
compiles to (`fromLeaf_of_compile`). The shape of the result can be told from the condition
(`shape_of_compile`). Nothing after this file opens these functions again.
-/

namespace Metasearch.Filter.Algolia

open List (Forall₂)

theorem compileAll_eq_ok {conditions : List Condition} {predicates : List Predicate} :
    compileAll conditions = .ok predicates ↔
      Forall₂ (fun c p => compile c = .ok p) conditions predicates :=
  itemwise_eq_ok compile compileAll rfl fun _ _ => rfl

theorem compile_group {connective : Connective} {members : List Condition} {p : Predicate} :
    compile (.group connective members) = .ok p ↔
      ∃ ps, Forall₂ (fun c p => compile c = .ok p) members ps ∧ group connective ps = .ok p := by
  simp only [compile, bind_eq_ok, compileAll_eq_ok]

/-! ## Terms of one kind -/

/-- A kind found earlier stands for the terms that had it. -/
def Agrees (kind? : Option Kind) (kind : Kind) : Prop := kind? = none ∨ kind? = some kind

theorem commonKind_of_agrees {kind? : Option Kind} {kind : Kind} (hkind : Agrees kind? kind)
    {terms : List (Kind × String)} (h : ∀ t ∈ terms, t.1 = kind) :
    ∃ result, commonKind kind? terms = .ok result ∧ Agrees result kind := by
  induction terms generalizing kind? with
  | nil => exact ⟨kind?, rfl, hkind⟩
  | cons t terms ih =>
    have ht : t.1 = kind := h t List.mem_cons_self
    rw [commonKind, ht, if_pos (show kind? = none ∨ kind? = some kind from hkind)]
    exact ih (Or.inr rfl) fun other hother => h other (List.mem_cons_of_mem t hother)

theorem commonKind_eq_ok {kind? result : Option Kind} {terms : List (Kind × String)}
    (h : commonKind kind? terms = .ok result) :
    (∀ t ∈ terms, result = some t.1) ∧ ∀ kind, kind? = some kind → result = some kind := by
  induction terms generalizing kind? with
  | nil =>
    have hresult : kind? = result := by simpa [commonKind] using h
    subst hresult
    exact ⟨fun t ht => absurd ht List.not_mem_nil, fun kind hkind => hkind⟩
  | cons t terms ih =>
    obtain ⟨kind, text⟩ := t
    rw [commonKind] at h
    split at h
    · next hagrees =>
      -- the rest was checked with this kind, so its result can only be this kind
      obtain ⟨hterms, hstart⟩ := ih h
      have hresult : result = some kind := hstart kind rfl
      refine ⟨fun t ht => ?_, fun earlier hearlier => ?_⟩
      · rcases List.mem_cons.mp ht with rfl | ht
        · exact hresult
        · exact hterms t ht
      · rcases hagrees with hnone | hsome
        · rw [hnone] at hearlier
          cases hearlier
        · rw [hresult, ← hsome, hearlier]
    · cases h

/-- A disjunction of terms keeps their texts; its kind is that of every term. -/
theorem disjunction_eq_ok {terms : List (Kind × String)} {p : Predicate}
    (h : disjunction terms = .ok p) :
    ∃ kind, (∀ t ∈ terms, t.1 = kind) ∧ p = .anyOf kind (terms.map Prod.snd) := by
  simp only [disjunction, bind_eq_ok, pure_eq_ok] at h
  obtain ⟨result, hresult, rfl⟩ := h
  refine ⟨result.getD .facet, fun t ht => ?_, rfl⟩
  rw [(commonKind_eq_ok hresult).1 t ht]
  rfl

theorem disjunction_succeeds {terms : List (Kind × String)} {kind : Kind}
    (h : ∀ t ∈ terms, t.1 = kind) : ∃ p, disjunction terms = .ok p := by
  obtain ⟨result, hresult, _⟩ := commonKind_of_agrees (Or.inl rfl : Agrees none kind) h
  refine ⟨.anyOf (result.getD .facet) (terms.map Prod.snd), ?_⟩
  simp only [disjunction, bind_eq_ok, pure_eq_ok]
  exact ⟨result, hresult, rfl⟩

/-! ## Groups -/

/-- The clauses that a member adds to a conjunction, if it may stand in one. -/
def clausesOf? : Predicate → Option (List String)
  | .query _ => none
  | .geo _ => none
  | .allOf clauses => some clauses
  | .atom _ expression => some [expression]
  | .anyOf kind terms => some (Predicate.expression? (.anyOf kind terms)).toList

theorem clauses_eq_ok {members : List Predicate} {result : List String} :
    clauses members = .ok result ↔
      ∃ parts, Forall₂ (fun p part => clausesOf? p = some part) members parts
        ∧ result = parts.flatten := by
  induction members generalizing result with
  | nil => simp [clauses, eq_comm]
  | cons p members ih =>
    cases p with
    | query text => simp [clauses, clausesOf?, List.forall₂_cons_left_iff]
    | geo parameters => simp [clauses, clausesOf?, List.forall₂_cons_left_iff]
    | _ =>
      simp only [clauses, clausesOf?, bind_eq_ok, pure_eq_ok, ih, List.forall₂_cons_left_iff,
        Option.some.injEq, Predicate.expression?, Option.toList_some]
      constructor
      · rintro ⟨outer, ⟨parts, hparts, rfl⟩, rfl⟩
        exact ⟨_, ⟨_, parts, rfl, hparts, rfl⟩, rfl⟩
      · rintro ⟨_, ⟨_, parts, rfl, hparts, rfl⟩, rfl⟩
        exact ⟨_, ⟨parts, hparts, rfl⟩, rfl⟩

theorem group_conjunction_eq_ok {members : List Predicate} {p : Predicate} :
    group .conjunction members = .ok p ↔
      members ≠ [] ∧ ∃ parts,
        Forall₂ (fun p part => clausesOf? p = some part) members parts
          ∧ p = .allOf parts.flatten := by
  cases members with
  | nil => simp [group]
  | cons first members =>
    simp only [group, List.isEmpty_cons, Bool.false_eq_true, ↓reduceIte, bind_eq_ok, pure_eq_ok,
      clauses_eq_ok]
    constructor
    · rintro ⟨_, ⟨parts, hparts, rfl⟩, rfl⟩
      exact ⟨by simp, parts, hparts, rfl⟩
    · rintro ⟨_, parts, hparts, rfl⟩
      exact ⟨_, ⟨parts, hparts, rfl⟩, rfl⟩

theorem terms_eq_ok {kind? : Option Kind} {members : List Predicate}
    {result : List (Kind × String)} (h : terms kind? members = .ok result) :
    ∃ parts, Forall₂ (fun p part => termsOf p = .ok part) members parts
      ∧ result = parts.flatten := by
  induction members generalizing kind? result with
  | nil =>
    have hresult : result = [] := by simpa [terms, eq_comm] using h
    exact ⟨[], .nil, hresult⟩
  | cons p members ih =>
    simp only [terms, bind_eq_ok, pure_eq_ok] at h
    obtain ⟨first, hfirst, _, _, others, hothers, rfl⟩ := h
    obtain ⟨parts, hparts, rfl⟩ := ih hothers
    exact ⟨first :: parts, .cons hfirst hparts, rfl⟩

theorem terms_succeeds {members : List Predicate} {parts : List (List (Kind × String))}
    (hparts : Forall₂ (fun p part => termsOf p = .ok part) members parts) {kind : Kind}
    (hkind : ∀ t ∈ parts.flatten, t.1 = kind) {kind? : Option Kind} (h : Agrees kind? kind) :
    terms kind? members = .ok parts.flatten := by
  induction hparts generalizing kind? with
  | nil => rfl
  | @cons p part members parts hp _ ih =>
    rw [List.flatten_cons, List.forall_mem_append] at hkind
    obtain ⟨result, hresult, hagrees⟩ := commonKind_of_agrees h hkind.1
    simp only [terms, bind_eq_ok, pure_eq_ok]
    exact ⟨part, hp, result, hresult, _, ih hkind.2 hagrees, rfl⟩

/-- **What a disjunction compiles to**: the terms of its members one after the other, all of
one kind. -/
theorem eq_anyOf_of_group_disjunction {members : List Predicate} {p : Predicate}
    (h : group .disjunction members = .ok p) :
    members ≠ [] ∧ ∃ parts kind,
      Forall₂ (fun p part => termsOf p = .ok part) members parts
        ∧ (∀ t ∈ parts.flatten, t.1 = kind)
        ∧ p = .anyOf kind (parts.flatten.map Prod.snd) := by
  cases members with
  | nil => simp [group] at h
  | cons first members =>
    simp only [group, List.isEmpty_cons, Bool.false_eq_true, ↓reduceIte, bind_eq_ok] at h
    obtain ⟨result, hresult, hp⟩ := h
    obtain ⟨parts, hparts, rfl⟩ := terms_eq_ok hresult
    obtain ⟨kind, hkind, rfl⟩ := disjunction_eq_ok hp
    exact ⟨by simp, parts, kind, hparts, hkind, rfl⟩

theorem group_disjunction_succeeds {members : List Predicate} (hne : members ≠ [])
    {parts : List (List (Kind × String))}
    (hparts : Forall₂ (fun p part => termsOf p = .ok part) members parts) {kind : Kind}
    (hkind : ∀ t ∈ parts.flatten, t.1 = kind) : ∃ p, group .disjunction members = .ok p := by
  obtain ⟨p, hp⟩ := disjunction_succeeds hkind
  refine ⟨p, ?_⟩
  have hempty : members.isEmpty = false := by simpa using hne
  simp only [group, hempty, Bool.false_eq_true, ↓reduceIte, bind_eq_ok]
  exact ⟨_, terms_succeeds hparts hkind (Or.inl rfl), hp⟩

/-! ## Leaves -/

/-- An ordering compiles exactly when its value has a text to compare with. -/
theorem ordering_eq_ok {field : String} {comparison : Comparison} {value : Json}
    {atom : Kind × String} :
    ordering field comparison value = .ok atom ↔ ∃ number, numericText? value = some number
      ∧ atom = (.numeric, field ++ " " ++ comparison.symbol ++ " " ++ number) := by
  unfold ordering
  cases numericText? value with
  | none => simp
  | some number => simp [eq_comm]

/-- What a condition that is no group compiles to: one case for each outcome, with the check that
it has passed. -/
inductive FromLeaf : Condition → Predicate → Prop
  | search (query : String) : FromLeaf (.search query) (.query query)
  | identifier (id : String) :
      FromLeaf (.identifier id) (.atom .facet (identifierField ++ ":" ++ Text.quote id))
  | compare {field : String} {comparison : Comparison} {value : Json} {atom : Kind × String} :
      comparisonAtom field comparison value = .ok atom →
      FromLeaf (.compare field comparison value) (.atom atom.1 atom.2)
  | among {field : String} {values : List Json} {kind : Kind} : values ≠ [] →
      (∀ t ∈ values.map (equality field), t.1 = kind) →
      FromLeaf (.member field .among values)
        (.anyOf kind ((values.map (equality field)).map Prod.snd))
  | notOne (field : String) (value : Json) :
      FromLeaf (.member field .notAmong [value])
        (.atom (inequality field value).1 (inequality field value).2)
  | notAmong {field : String} {values : List Json} : 2 ≤ values.length →
      FromLeaf (.member field .notAmong values)
        (.allOf (values.map fun value => (inequality field value).2))
  | near (field : String) (lat lng distance : Float) :
      FromLeaf (.near field lat lng distance) (.geo (nearParameters lat lng distance))
  | within (field : String) (box : BoundingBox) :
      FromLeaf (.within field box) (.geo (boxParameters box))

theorem fromLeaf_of_compile {c : Condition}
    (hleaf : ∀ connective members, c ≠ .group connective members) {p : Predicate}
    (h : compile c = .ok p) : FromLeaf c p := by
  match c with
  | .search query =>
    cases h
    exact .search query
  | .identifier id =>
    cases h
    exact .identifier id
  | .compare field comparison value =>
    simp only [compile, bind_eq_ok, pure_eq_ok] at h
    obtain ⟨atom, hatom, rfl⟩ := h
    exact .compare hatom
  | .member field .among [] => cases h
  | .member field .among (value :: values) =>
    have hdisjunction : disjunction ((value :: values).map (equality field)) = .ok p := by
      simpa [compile, memberPredicate] using h
    obtain ⟨kind, hkind, rfl⟩ := disjunction_eq_ok hdisjunction
    exact .among (by simp) hkind
  | .member field .notAmong [] => cases h
  | .member field .notAmong [value] =>
    cases h
    exact .notOne field value
  | .member field .notAmong (value :: next :: values) =>
    cases h
    exact .notAmong (by simp)
  | .near field lat lng distance =>
    cases h
    exact .near field lat lng distance
  | .within field box =>
    cases h
    exact .within field box
  | .group connective members => exact absurd rfl (hleaf connective members)

/-! ## Shapes -/

/-- What a group sees of a compiled member. -/
inductive Shape where
  | words
  | place
  | atom
  | anyOf
  | allOf
  deriving Repr, DecidableEq

def Predicate.shape : Predicate → Shape
  | .query _ => .words
  | .geo _ => .place
  | .atom _ _ => .atom
  | .anyOf _ _ => .anyOf
  | .allOf _ => .allOf

/-- The shape of what a condition compiles to, by the condition alone. -/
def shapeOf : Condition → Shape
  | .search _ => .words
  | .near _ _ _ _ => .place
  | .within _ _ => .place
  | .identifier _ => .atom
  | .compare _ _ _ => .atom
  | .member _ .among _ => .anyOf
  | .member _ .notAmong values => if 2 ≤ values.length then .allOf else .atom
  | .group .conjunction _ => .allOf
  | .group .disjunction _ => .anyOf

theorem FromLeaf.shape_eq {c : Condition} {p : Predicate} (h : FromLeaf c p) :
    p.shape = shapeOf c := by
  cases h with
  | notAmong hlength => exact (if_pos hlength).symm
  | _ => rfl

theorem shape_of_compile {c : Condition} {p : Predicate} (h : compile c = .ok p) :
    p.shape = shapeOf c := by
  cases c with
  | group connective members =>
    obtain ⟨ps, _, hgroup⟩ := compile_group.mp h
    cases connective with
    | conjunction =>
      obtain ⟨_, parts, _, rfl⟩ := group_conjunction_eq_ok.mp hgroup
      rfl
    | disjunction =>
      obtain ⟨_, parts, kind, _, _, rfl⟩ := eq_anyOf_of_group_disjunction hgroup
      rfl
  | _ => exact (fromLeaf_of_compile (by rintro _ _ ⟨⟩) h).shape_eq

/-- **Words come from searches**, and from these alone. -/
theorem eq_query_iff {c : Condition} {p : Predicate} (h : compile c = .ok p) {text : String} :
    p = .query text ↔ c = .search text := by
  constructor
  · rintro rfl
    cases c with
    | search query =>
      cases h
      rfl
    | group connective members => cases connective <;> cases shape_of_compile h
    | _ => cases fromLeaf_of_compile (by rintro _ _ ⟨⟩) h
  · rintro rfl
    cases h
    rfl

theorem shapeOf_ne_words_place {c : Condition} :
    shapeOf c ≠ .words ∧ shapeOf c ≠ .place ↔ c.isSearch = false ∧ c.isGeo = false := by
  match c with
  | .member _ .notAmong values => by_cases h : 2 ≤ values.length <;>
      simp [shapeOf, Condition.isSearch, Condition.isGeo, h]
  | .search _ | .near _ _ _ _ | .within _ _ | .identifier _ | .compare _ _ _
  | .member _ .among _ | .group .conjunction _ | .group .disjunction _ =>
    simp [shapeOf, Condition.isSearch, Condition.isGeo]

/-- A compiled condition may stand in a conjunction unless it is a search or a place. -/
theorem clausesOf?_isSome_iff {c : Condition} {p : Predicate} (h : compile c = .ok p) :
    (∃ part, clausesOf? p = some part) ↔ c.isSearch = false ∧ c.isGeo = false := by
  rw [← shapeOf_ne_words_place, ← shape_of_compile h]
  cases p <;> simp [clausesOf?, Predicate.shape]

/-- A compiled condition has a text exactly when it has clauses. -/
theorem expression?_eq_none {p : Predicate} : p.expression? = none ↔ clausesOf? p = none := by
  cases p <;> simp [clausesOf?, Predicate.expression?]

/-- A compiled condition has a text unless it is a search or a place. -/
theorem expression?_isSome_iff {c : Condition} {p : Predicate} (h : compile c = .ok p) :
    (∃ clause, p.expression? = some clause) ↔ c.isSearch = false ∧ c.isGeo = false := by
  rw [← clausesOf?_isSome_iff h, ← Option.ne_none_iff_exists', ← Option.ne_none_iff_exists',
    ne_eq, expression?_eq_none]

end Metasearch.Filter.Algolia
