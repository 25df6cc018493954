import Mathlib.Data.List.Forall2
import Mathlib.Data.List.Sigma

set_option autoImplicit false

/-! # Stable sorting

Hits are compared by scores that only form a preorder, and only as far as they are numbers: what
is known of a comparison is known of the items of one list. `TotalPreorderOn` says that it is a
total preorder there, and this suffices for everything said about the sorted list.

A stable order of a list is a rearrangement of its *numbered* items (`StableOrder`), so that two
equal items at different positions are told apart. There is exactly one, and sorting the list
gives its items.

What comes out of two orders of the same items differs only among items that compare alike: an
item's place is given by the number of items that must stand before it (`countBefore`), and this
does not depend on their order (`forall₂_mergeSort_of_perm`).
-/

namespace Metasearch

variable {α : Type} {le : α → α → Bool} {items : List α}

/-- A comparison is a total preorder on the items of a list. -/
structure TotalPreorderOn (le : α → α → Bool) (items : List α) : Prop where
  total : ∀ a ∈ items, ∀ b ∈ items, le a b = true ∨ le b a = true
  trans : ∀ a ∈ items, ∀ b ∈ items, ∀ c ∈ items, le a b = true → le b c = true → le a c = true

namespace TotalPreorderOn

instance : Decidable (TotalPreorderOn le items) :=
  decidable_of_iff
    ((∀ a ∈ items, ∀ b ∈ items, le a b = true ∨ le b a = true)
      ∧ ∀ a ∈ items, ∀ b ∈ items, ∀ c ∈ items, le a b = true → le b c = true → le a c = true)
    ⟨fun h => ⟨h.1, h.2⟩, fun h => ⟨h.total, h.trans⟩⟩

/-- Items that are compared by what they show. -/
theorem comap {β : Type} (h : TotalPreorderOn le items) {f : β → α} {others : List β}
    (hmem : ∀ b ∈ others, f b ∈ items) :
    TotalPreorderOn (fun a b => le (f a) (f b)) others :=
  ⟨fun a ha b hb => h.total _ (hmem a ha) _ (hmem b hb),
    fun a ha b hb c hc => h.trans _ (hmem a ha) _ (hmem b hb) _ (hmem c hc)⟩

theorem mono (h : TotalPreorderOn le items) {others : List α} (hsub : others ⊆ items) :
    TotalPreorderOn le others :=
  h.comap (f := id) fun _ hb => hsub hb

theorem refl (h : TotalPreorderOn le items) {a : α} (ha : a ∈ items) : le a a = true :=
  (h.total a ha a ha).elim id id

end TotalPreorderOn

/-! ## A comparison of all items

The library's lemmas about sorting ask for a comparison that is a total preorder everywhere. On
the items of a list it may be replaced by one: all other items come last. -/

open Classical in
/-- The comparison on the items of a list, with all others behind them. -/
noncomputable def comparisonOn (le : α → α → Bool) (items : List α) (a b : α) : Bool :=
  decide (b ∈ items → a ∈ items ∧ le a b = true)

theorem comparisonOn_eq_true {a b : α} :
    comparisonOn le items a b = true ↔ (b ∈ items → a ∈ items ∧ le a b = true) := by
  simp [comparisonOn]

theorem comparisonOn_of_mem {a b : α} (ha : a ∈ items) (hb : b ∈ items) :
    comparisonOn le items a b = le a b := by
  simp [comparisonOn, ha, hb]

theorem comparisonOn_total (h : TotalPreorderOn le items) (a b : α) :
    (comparisonOn le items a b || comparisonOn le items b a) = true := by
  simp only [Bool.or_eq_true, comparisonOn_eq_true]
  by_cases ha : a ∈ items
  · by_cases hb : b ∈ items
    · exact (h.total a ha b hb).imp (fun hab _ => ⟨ha, hab⟩) (fun hba _ => ⟨hb, hba⟩)
    · exact Or.inl fun hb' => absurd hb' hb
  · exact Or.inr fun ha' => absurd ha' ha

theorem comparisonOn_trans (h : TotalPreorderOn le items) (a b c : α)
    (hab : comparisonOn le items a b = true) (hbc : comparisonOn le items b c = true) :
    comparisonOn le items a c = true := by
  rw [comparisonOn_eq_true] at hab hbc ⊢
  intro hc
  obtain ⟨hb, hbc⟩ := hbc hc
  obtain ⟨ha, hab⟩ := hab hb
  exact ⟨ha, h.trans a ha b hb c hc hab hbc⟩

/-- Sorting does not see the difference. -/
theorem mergeSort_comparisonOn {others : List α} (hsub : others ⊆ items) :
    others.mergeSort (comparisonOn le items) = others.mergeSort le := by
  have hsame : (others.mergeSort (comparisonOn le items)).map id = (others.map id).mergeSort le :=
    List.map_mergeSort fun a ha b hb => comparisonOn_of_mem (hsub ha) (hsub hb)
  simpa only [List.map_id] using hsame

/-- The sorted list is sorted. -/
theorem pairwise_mergeSort (h : TotalPreorderOn le items) :
    (items.mergeSort le).Pairwise fun a b => le a b = true := by
  have hsorted := List.pairwise_mergeSort (comparisonOn_trans h) (comparisonOn_total h) items
  rw [mergeSort_comparisonOn (List.Subset.refl items)] at hsorted
  refine hsorted.imp_of_mem fun {a b} ha hb hab => ?_
  rwa [comparisonOn_of_mem (List.mem_mergeSort.mp ha) (List.mem_mergeSort.mp hb)] at hab

/-! ## The stable order -/

/-- A stable order of a list: its items with their positions, rearranged so that the comparison
goes up and items that compare alike stay in the order of their positions. -/
structure StableOrder (le : α → α → Bool) (items : List α) (order : List (α × Nat)) :
    Prop where
  perm : order.Perm items.zipIdx
  sorted : order.Pairwise fun a b => le a.1 b.1 = true
  stable : order.Pairwise fun a b => le b.1 a.1 = true → a.2 < b.2

namespace StableOrder

variable {order other : List (α × Nat)}

/-- **There is at most one stable order.** -/
theorem unique (h : StableOrder le items order) (h' : StableOrder le items other) :
    other = order := by
  -- no two numbered items can stand both ways
  have hboth {order : List (α × Nat)} (h : StableOrder le items order) :
      order.Pairwise fun a b => le a.1 b.1 = true ∧ (le b.1 a.1 = true → a.2 < b.2) :=
    h.sorted.and h.stable
  refine List.Perm.eq_of_pairwise (fun a b _ _ hab hba => ?_) (hboth h') (hboth h)
    (h'.perm.trans h.perm.symm)
  exact absurd (hab.2 hba.1) (Nat.lt_asymm (hba.2 hab.1))

end StableOrder

/-- **There is a stable order, and sorting gives its items.** -/
theorem exists_stableOrder (h : TotalPreorderOn le items) :
    ∃ order, StableOrder le items order ∧ order.map Prod.fst = items.mergeSort le := by
  have hsorted := List.pairwise_mergeSort (List.zipIdxLE_trans (comparisonOn_trans h))
    (List.zipIdxLE_total (comparisonOn_total h)) items.zipIdx
  have hperm := List.mergeSort_perm items.zipIdx (List.zipIdxLE (comparisonOn le items))
  have hitems : (items.zipIdx.mergeSort (List.zipIdxLE (comparisonOn le items))).map Prod.fst
      = items.mergeSort le :=
    List.mergeSort_zipIdx.trans (mergeSort_comparisonOn (List.Subset.refl items))
  generalize items.zipIdx.mergeSort (List.zipIdxLE (comparisonOn le items)) = order
    at hsorted hperm hitems
  have hmem : ∀ a ∈ order, a.1 ∈ items := fun a ha =>
    List.fst_mem_of_mem_zipIdx (hperm.mem_iff.mp ha)
  have hdistinct : order.Pairwise fun a b => a.2 ≠ b.2 :=
    List.pairwise_map.mp ((hperm.map Prod.snd).nodup_iff.mpr
      (List.nodup_zipIdx_map_snd items))
  refine ⟨order, ⟨hperm, ?_, ?_⟩, hitems⟩
  · refine hsorted.imp_of_mem fun {a b} ha hb hab => ?_
    rw [List.zipIdxLE, comparisonOn_of_mem (hmem a ha) (hmem b hb)] at hab
    grind
  · refine (hsorted.and hdistinct).imp_of_mem fun {a b} ha hb hab hba => ?_
    obtain ⟨hle, hne⟩ := hab
    rw [List.zipIdxLE, comparisonOn_of_mem (hmem a ha) (hmem b hb),
      comparisonOn_of_mem (hmem b hb) (hmem a ha), if_pos hba] at hle
    grind

/-- Sorting gives the items of a stable order. -/
theorem StableOrder.mergeSort_eq (h : TotalPreorderOn le items) {order : List (α × Nat)}
    (horder : StableOrder le items order) : items.mergeSort le = order.map Prod.fst := by
  obtain ⟨other, hother, hitems⟩ := exists_stableOrder h
  rw [← hitems, horder.unique hother]

/-! ## Sorting another order of the items -/

/-- How many items must stand before an item: those that it may not stand before. -/
def countBefore (le : α → α → Bool) (items : List α) (a : α) : Nat :=
  items.countP fun b => !le a b

/-- A stricter test that leaves an item out passes fewer items. -/
theorem countP_lt_countP {p q : α → Bool} (himp : ∀ b ∈ items, p b = true → q b = true) {a : α}
    (ha : a ∈ items) (hp : p a = false) (hq : q a = true) : items.countP p < items.countP q := by
  obtain ⟨before, behind, rfl⟩ := List.append_of_mem ha
  have hbefore : before.countP p ≤ before.countP q :=
    List.countP_mono_left fun b hb => himp b (by simp [hb])
  have hbehind : behind.countP p ≤ behind.countP q :=
    List.countP_mono_left fun b hb => himp b (by simp [hb])
  rw [List.countP_append, List.countP_append, List.countP_cons_of_neg (by simp [hp]),
    List.countP_cons_of_pos hq]
  omega

/-- The number of items before an item says where it stands. -/
theorem countBefore_le_iff (h : TotalPreorderOn le items) {a b : α} (ha : a ∈ items)
    (hb : b ∈ items) : countBefore le items a ≤ countBefore le items b ↔ le a b = true := by
  constructor
  · intro hcount
    by_contra hab
    have hba : le b a = true := (h.total a ha b hb).resolve_left hab
    -- what must stand before `b` must stand before `a`, and so must `b` itself
    have hlt : countBefore le items b < countBefore le items a := by
      refine countP_lt_countP (fun c hc hbc => ?_) hb (by simp [h.refl hb]) (by simp [hab])
      rw [Bool.not_eq_true', Bool.eq_false_iff] at hbc ⊢
      exact fun hac => hbc (h.trans b hb a ha c hc hba hac)
    omega
  · intro hab
    refine List.countP_mono_left fun c hc hac => ?_
    rw [Bool.not_eq_true', Bool.eq_false_iff] at hac ⊢
    exact fun hbc => hac (h.trans a ha b hb c hc hab hbc)

/-- In the sorted list the numbers of items before an item do not fall. -/
theorem pairwise_countBefore (h : TotalPreorderOn le items) {others : List α}
    (hperm : items.Perm others) :
    ((others.mergeSort le).map (countBefore le items)).Pairwise (· ≤ ·) := by
  have hmem : ∀ a ∈ others.mergeSort le, a ∈ items := fun a ha =>
    hperm.mem_iff.mpr (List.mem_mergeSort.mp ha)
  refine List.pairwise_map.mpr ?_
  refine (pairwise_mergeSort (h.mono hperm.symm.subset)).imp_of_mem fun {a b} ha hb hab => ?_
  exact (countBefore_le_iff h (hmem a ha) (hmem b hb)).mpr hab

/-- **Sorting two orders of the same items gives items that compare alike.** -/
theorem forall₂_mergeSort_of_perm (h : TotalPreorderOn le items) {others : List α}
    (hperm : items.Perm others) :
    List.Forall₂ (fun a b => le a b = true ∧ le b a = true) (items.mergeSort le)
      (others.mergeSort le) := by
  have hsorted : (items.mergeSort le).Perm (others.mergeSort le) :=
    (List.mergeSort_perm items le).trans (hperm.trans (List.mergeSort_perm others le).symm)
  -- a list of numbers has one order in which they do not fall
  have hcounts : (items.mergeSort le).map (countBefore le items)
      = (others.mergeSort le).map (countBefore le items) :=
    List.Perm.eq_of_pairwise (fun _ _ _ _ => Nat.le_antisymm)
      (pairwise_countBefore h (List.Perm.refl items)) (pairwise_countBefore h hperm)
      (hsorted.map (countBefore le items))
  rw [← List.forall₂_eq_eq_eq, List.forall₂_map_left_iff, List.forall₂_map_right_iff] at hcounts
  refine List.forall₂_iff_get.mpr ⟨hcounts.length_eq, fun place hleft hright => ?_⟩
  have ha : (items.mergeSort le).get ⟨place, hleft⟩ ∈ items :=
    List.mem_mergeSort.mp (List.get_mem _ _)
  have hb : (others.mergeSort le).get ⟨place, hright⟩ ∈ items :=
    hperm.mem_iff.mpr (List.mem_mergeSort.mp (List.get_mem _ _))
  have hcount := hcounts.get hleft hright
  exact ⟨(countBefore_le_iff h ha hb).mp (Nat.le_of_eq hcount),
    (countBefore_le_iff h hb ha).mp (Nat.le_of_eq hcount.symm)⟩

/-! ## Sorting a part of a list -/

/-- Where a list falls into two parts by a test, it does so in one way. -/
theorem append_inj_of_test {q : α → Bool} {xs ys xs' ys' : List α} (h : xs ++ ys = xs' ++ ys')
    (hxs : ∀ a ∈ xs, q a = true) (hys : ∀ a ∈ ys, q a = false)
    (hxs' : ∀ a ∈ xs', q a = true) (hys' : ∀ a ∈ ys', q a = false) : xs = xs' ∧ ys = ys' := by
  have hfilter := congrArg (List.filter q) h
  rw [List.filter_append, List.filter_append, List.filter_eq_self.mpr hxs,
    List.filter_eq_self.mpr hxs', List.filter_eq_nil_iff.mpr (by simpa using hys),
    List.filter_eq_nil_iff.mpr (by simpa using hys'), List.append_nil, List.append_nil] at hfilter
  subst hfilter
  exact ⟨rfl, List.append_cancel_left h⟩

section Total

variable (trans : ∀ a b c, le a b = true → le b c = true → le a c = true)
  (total : ∀ a b, (le a b || le b a) = true)

include trans total

/-- The first item of a list is sorted in before the items that it may stand before. -/
theorem mergeSort_cons_split (a : α) (items : List α) :
    ∃ before behind, (a :: items).mergeSort le = before ++ a :: behind
      ∧ items.mergeSort le = before ++ behind
      ∧ (∀ b ∈ before, le a b = false) ∧ ∀ b ∈ behind, le a b = true := by
  obtain ⟨before, behind, hall, hrest, hbefore⟩ := List.mergeSort_cons trans total a items
  have hsorted := List.pairwise_mergeSort trans total (a :: items)
  rw [hall, List.pairwise_append, List.pairwise_cons] at hsorted
  exact ⟨before, behind, hall, hrest, by simpa using hbefore, hsorted.2.1.1⟩

theorem mergeSort_filter_of_total (p : α → Bool) (items : List α) :
    (items.filter p).mergeSort le = (items.mergeSort le).filter p := by
  induction items with
  | nil => simp
  | cons a items ih =>
    obtain ⟨before, behind, hall, hrest, hbefore, hbehind⟩ :=
      mergeSort_cons_split trans total a items
    rw [hrest, List.filter_append] at ih
    rw [hall, List.filter_append]
    cases hp : p a with
    | false =>
      rw [List.filter_cons_of_neg (by simp [hp]), List.filter_cons_of_neg (by simp [hp]), ih]
    | true =>
      -- the item is sorted into the shorter list at the place it has in the longer one
      obtain ⟨before', behind', hall', hrest', hbefore', hbehind'⟩ :=
        mergeSort_cons_split trans total a (items.filter p)
      obtain ⟨rfl, rfl⟩ := append_inj_of_test (q := fun b => !le a b) (hrest'.symm.trans ih)
        (by simpa using hbefore') (by simpa using hbehind')
        (fun b hb => by simpa using hbefore b (List.mem_of_mem_filter hb))
        (fun b hb => by simpa using hbehind b (List.mem_of_mem_filter hb))
      rw [List.filter_cons_of_pos hp, List.filter_cons_of_pos hp, hall']

end Total

/-- **Sorting and leaving out commute.** -/
theorem mergeSort_filter (h : TotalPreorderOn le items) (p : α → Bool) :
    (items.filter p).mergeSort le = (items.mergeSort le).filter p := by
  have hall : items.mergeSort (comparisonOn le items) = items.mergeSort le :=
    mergeSort_comparisonOn (List.Subset.refl items)
  rw [← mergeSort_comparisonOn (List.filter_sublist.subset), ← hall]
  exact mergeSort_filter_of_total (comparisonOn_trans h) (comparisonOn_total h) p items

end Metasearch
