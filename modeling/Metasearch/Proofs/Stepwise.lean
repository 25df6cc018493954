import Mathlib.Data.List.Forall2

set_option autoImplicit false

/-! # Results of steps

A compiler that may fail goes over a list and stops at the first item that fails. What is known
of a run that did not stop is a relation between the items and their results, `List.Forall₂`.
The lemmas here take such runs apart and put them together again.
-/

namespace Metasearch

/-- A sequence of two steps succeeds exactly when both do. -/
theorem bind_eq_ok {ε α β : Type} {x : Except ε α} {f : α → Except ε β} {b : β} :
    x >>= f = .ok b ↔ ∃ a, x = .ok a ∧ f a = .ok b := by
  cases x with
  | error e => simp [bind, Except.bind]
  | ok a => simp [bind, Except.bind]

theorem pure_eq_ok {ε α : Type} {a b : α} : (pure a : Except ε α) = .ok b ↔ a = b := by
  simp [pure, Except.pure]

theorem map_eq_ok {ε α β : Type} {x : Except ε α} {f : α → β} {b : β} :
    x.map f = .ok b ↔ ∃ a, x = .ok a ∧ f a = b := by
  cases x with
  | error e => simp [Except.map]
  | ok a => simp [Except.map]

/-- A result that is given up under a condition is there if the condition fails. -/
theorem guarded_eq_ok {ε α : Type} {p : Prop} [Decidable p] {e : ε} {a b : α} :
    (if p then (throw e : Except ε PUnit) >>= fun _ => pure a else pure a) = .ok b
      ↔ ¬ p ∧ a = b := by
  by_cases hp : p
  · rw [if_pos hp]
    exact iff_of_false (fun h => by cases h) fun h => h.1 hp
  · rw [if_neg hp, pure_eq_ok]
    exact (and_iff_right hp).symm

/-- What `f` shows of a result carries over a further step if the step keeps to it. -/
theorem map_bind_congr {ε α β : Type} {f : α → β} {x y : Except ε α} {g g' : α → Except ε α}
    (h : x.map f = y.map f) (hstep : ∀ a b, f a = f b → (g a).map f = (g' b).map f) :
    (x >>= g).map f = (y >>= g').map f := by
  cases x with
  | error e =>
    cases y with
    | error e' => exact congrArg Except.error (Except.error.inj h)
    | ok b => cases h
  | ok a =>
    cases y with
    | error e' => cases h
    | ok b => exact hstep a b (Except.ok.inj h)

/-- **A run over a list** that stops at the first item that fails, whatever a step is, has results
exactly if every step has one. -/
theorem itemwise_eq_ok {ε α β : Type} (step : α → Except ε β) (run : List α → Except ε (List β))
    (hnil : run [] = .ok [])
    (hcons : ∀ x xs, run (x :: xs) = step x >>= fun y => run xs >>= fun ys => pure (y :: ys))
    {xs : List α} {ys : List β} :
    run xs = .ok ys ↔ List.Forall₂ (fun x y => step x = .ok y) xs ys := by
  induction xs generalizing ys with
  | nil =>
    rw [hnil, List.forall₂_nil_left_iff, Except.ok.injEq]
    exact eq_comm
  | cons x xs ih =>
    simp only [hcons, bind_eq_ok, pure_eq_ok, ih, List.forall₂_cons_left_iff]
    constructor
    · rintro ⟨y, hy, ys, hys, rfl⟩
      exact ⟨y, ys, hy, hys, rfl⟩
    · rintro ⟨y, ys, hy, hys, rfl⟩
      exact ⟨y, hy, ys, hys, rfl⟩

/-- If every item is read back from its written form, so is a list of them. -/
theorem mapM_map_eq_some {α β : Type} {read : β → Option α} {write : α → β} {items : List α}
    (h : ∀ item ∈ items, read (write item) = some item) :
    (items.map write).mapM read = some items := by
  induction items with
  | nil => rfl
  | cons item items ih =>
    obtain ⟨hitem, hitems⟩ := List.forall_mem_cons.mp h
    rw [List.map_cons, List.mapM_cons, hitem, ih hitems]
    rfl

/-- What `f` determines item by item it determines for whole lists. -/
theorem map_eq_map_of_determines {α β γ : Type} {f : α → β} {g : α → γ} {xs ys : List α}
    (h : xs.map f = ys.map f) (hdetermines : ∀ x ∈ xs, ∀ y ∈ ys, f x = f y → g x = g y) :
    xs.map g = ys.map g := by
  induction xs generalizing ys with
  | nil =>
    have hnil : ys = [] := List.map_eq_nil_iff.mp h.symm
    rw [hnil]
  | cons x xs ih =>
    cases ys with
    | nil => cases h
    | cons y ys =>
      obtain ⟨hfirst, hrest⟩ := List.cons.inj h
      rw [List.map_cons, List.map_cons,
        hdetermines x List.mem_cons_self y List.mem_cons_self hfirst,
        ih hrest fun a ha b hb =>
          hdetermines a (List.mem_cons_of_mem x ha) b (List.mem_cons_of_mem y hb)]

/-- The first result over a list depends on the results of its items. -/
theorem findSome?_congr {α β : Type} {f g : α → Option β} {items : List α}
    (h : ∀ item ∈ items, f item = g item) : items.findSome? f = items.findSome? g := by
  induction items with
  | nil => rfl
  | cons item items ih =>
    obtain ⟨hitem, hitems⟩ := List.forall_mem_cons.mp h
    rw [List.findSome?_cons, List.findSome?_cons, hitem, ih hitems]

/-- The first result among the items that become something is the first among those that do
so by some other test. -/
theorem findSome?_filterMap_eq {α β γ : Type} {f : α → Option β} {g : β → Option γ}
    {p : α → Bool} {g' : α → Option γ} {items : List α}
    (h : ∀ item ∈ items, (f item).bind g = if p item then g' item else none) :
    (items.filterMap f).findSome? g = (items.filter p).findSome? g' := by
  induction items with
  | nil => rfl
  | cons item items ih =>
    obtain ⟨hitem, hitems⟩ := List.forall_mem_cons.mp h
    have hrest := ih hitems
    cases hf : f item with
    | none =>
      rw [List.filterMap_cons_none hf, hrest]
      grind
    | some entry =>
      rw [List.filterMap_cons_some hf, List.findSome?_cons, hrest]
      grind

section Forall₂

variable {α β : Type} {R : α → β → Prop}

theorem forall₂_exists_right {xs : List α} {ys : List β} (h : List.Forall₂ R xs ys) :
    ∀ x ∈ xs, ∃ y ∈ ys, R x y := by
  induction h with
  | nil =>
    intro x hx
    cases hx
  | @cons x y xs ys hxy _ ih =>
    intro a ha
    rcases List.mem_cons.mp ha with rfl | ha
    · exact ⟨y, List.mem_cons_self, hxy⟩
    · obtain ⟨b, hb, hab⟩ := ih a ha
      exact ⟨b, List.mem_cons_of_mem y hb, hab⟩

theorem forall₂_exists_left {xs : List α} {ys : List β} (h : List.Forall₂ R xs ys) :
    ∀ y ∈ ys, ∃ x ∈ xs, R x y := forall₂_exists_right h.flip

/-- If every item has a result, the list has results. -/
theorem exists_forall₂ {xs : List α} (h : ∀ x ∈ xs, ∃ y, R x y) :
    ∃ ys, List.Forall₂ R xs ys := by
  induction xs with
  | nil => exact ⟨[], .nil⟩
  | cons x xs ih =>
    obtain ⟨y, hy⟩ := h x List.mem_cons_self
    obtain ⟨ys, hys⟩ := ih fun a ha => h a (List.mem_cons_of_mem x ha)
    exact ⟨y :: ys, .cons hy hys⟩

/-- Two runs, the second over the results of the first, are one run. -/
theorem forall₂_comp {γ : Type} {S : β → γ → Prop} {xs : List α} {ys : List β} {zs : List γ}
    (h : List.Forall₂ R xs ys) (h' : List.Forall₂ S ys zs) :
    List.Forall₂ (fun x z => ∃ y, R x y ∧ S y z) xs zs := by
  induction h generalizing zs with
  | nil =>
    cases h'
    exact .nil
  | @cons x y xs ys hxy _ ih =>
    cases h' with
    | cons hyz hrest => exact .cons ⟨y, hxy, hyz⟩ (ih hrest)

/-- What can be found for each item and its result can be found for all of them at once. -/
theorem forall₂_choose {γ : Type} {S : α → γ → Prop} {T : β → γ → Prop} {xs : List α}
    {ys : List β} (h : List.Forall₂ R xs ys)
    (hchoose : ∀ x ∈ xs, ∀ y, R x y → ∃ z, S x z ∧ T y z) :
    ∃ zs, List.Forall₂ S xs zs ∧ List.Forall₂ T ys zs := by
  induction h with
  | nil => exact ⟨[], .nil, .nil⟩
  | @cons x y xs ys hxy _ ih =>
    obtain ⟨z, hxz, hyz⟩ := hchoose x List.mem_cons_self y hxy
    obtain ⟨zs, hxzs, hyzs⟩ := ih fun a ha => hchoose a (List.mem_cons_of_mem x ha)
    exact ⟨z :: zs, .cons hxz hxzs, .cons hyz hyzs⟩

/-- Some of the items have some of the results. -/
theorem forall₂_sublist {xs xs' : List α} {ys : List β} (h : List.Forall₂ R xs ys)
    (hsub : xs'.Sublist xs) : ∃ ys', ys'.Sublist ys ∧ List.Forall₂ R xs' ys' := by
  induction hsub generalizing ys with
  | slnil => exact ⟨[], List.nil_sublist ys, .nil⟩
  | cons x _ ih =>
    cases h with
    | cons _ hrest =>
      obtain ⟨ys', hys, hmatch⟩ := ih hrest
      exact ⟨ys', hys.cons _, hmatch⟩
  | cons_cons x _ ih =>
    cases h with
    | cons hx hrest =>
      obtain ⟨ys', hys, hmatch⟩ := ih hrest
      exact ⟨_ :: ys', hys.cons_cons _, .cons hx hmatch⟩

/-- Two results that are made of the same pairs are related as they are pair by pair. -/
theorem forall₂_zipWith {γ δ : Type} {f : γ → δ → α} {g : γ → δ → β} {xs : List γ}
    (h : ∀ x ∈ xs, ∀ y, R (f x y) (g x y)) (ys : List δ) :
    List.Forall₂ R (List.zipWith f xs ys) (List.zipWith g xs ys) := by
  induction xs generalizing ys with
  | nil => exact .nil
  | cons x xs ih =>
    obtain ⟨hx, hxs⟩ := List.forall_mem_cons.mp h
    cases ys with
    | nil => exact .nil
    | cons y ys => exact .cons (hx y) (ih hxs ys)

/-- Results that are a function of something else form the list of its values. -/
theorem eq_map_of_forall₂ {f : β → α} {xs : List α} {ys : List β}
    (h : List.Forall₂ (fun x y => x = f y) xs ys) : xs = ys.map f := by
  induction h with
  | nil => rfl
  | cons heq _ ih => rw [heq, ih, List.map_cons]

/-- Items that are kept stay matched with their results, if exactly these have something to pass
on. -/
theorem forall₂_filter_filterMap {γ : Type} {S : α → γ → Prop} {p : α → Bool} {g : β → Option γ}
    {xs : List α} {ys : List β} (h : List.Forall₂ R xs ys)
    (hmatch : ∀ x y, R x y → p x = false ∧ g y = none ∨ p x = true ∧ ∃ z, g y = some z ∧ S x z) :
    List.Forall₂ S (xs.filter p) (ys.filterMap g) := by
  induction h with
  | nil => exact .nil
  | @cons x y xs ys hxy _ ih =>
    rcases hmatch x y hxy with ⟨hdropped, hnone⟩ | ⟨hkept, z, hz, hxz⟩
    · rw [List.filter_cons_of_neg (by simp [hdropped]), List.filterMap_cons_none hnone]
      exact ih
    · rw [List.filter_cons_of_pos hkept, List.filterMap_cons_some hz]
      exact .cons hxz ih

/-- What each item and its result have in common their lists have in common. -/
theorem filterMap_eq_of_forall₂ {γ : Type} {f : α → Option γ} {g : β → Option γ} {xs : List α}
    {ys : List β} (h : List.Forall₂ R xs ys) (heq : ∀ x y, R x y → f x = g y) :
    xs.filterMap f = ys.filterMap g := by
  induction h with
  | nil => rfl
  | @cons x y xs ys hxy _ ih => rw [List.filterMap_cons, List.filterMap_cons, heq x y hxy, ih]

end Forall₂

end Metasearch
