import Mathlib.Data.List.Nodup

set_option autoImplicit false

/-! # Items in first-seen order

Names that come from several lists are shown once each, where they were first mentioned. What
that means is said here without a loop: no name twice, the same names, and of two names the one
that is first mentioned earlier comes first. Mentioning one more name either changes nothing or
puts that name last.
-/

namespace Metasearch

variable {α : Type} [DecidableEq α]

/-- `items` are the mentioned items, each once, in the order of their first mention. -/
structure FirstSeen (mentioned items : List α) : Prop where
  nodup : items.Nodup
  mem_iff : ∀ a, a ∈ items ↔ a ∈ mentioned
  ordered : items.Pairwise fun a b => mentioned.idxOf a < mentioned.idxOf b

namespace FirstSeen

variable {mentioned items : List α} {a : α}

theorem nil : FirstSeen ([] : List α) [] := ⟨List.nodup_nil, fun _ => Iff.rfl, List.Pairwise.nil⟩

/-- Positions of items do not change when something is mentioned after them. -/
theorem ordered_append (h : FirstSeen mentioned items) (later : List α) :
    items.Pairwise fun a b => (mentioned ++ later).idxOf a < (mentioned ++ later).idxOf b := by
  refine h.ordered.imp_of_mem fun {a b} ha hb hab => ?_
  rwa [List.idxOf_append_of_mem ((h.mem_iff a).mp ha),
    List.idxOf_append_of_mem ((h.mem_iff b).mp hb)]

theorem concat_of_mem (h : FirstSeen mentioned items) (ha : a ∈ mentioned) :
    FirstSeen (mentioned ++ [a]) items where
  nodup := h.nodup
  mem_iff b := by
    rw [h.mem_iff, List.mem_append, List.mem_singleton]
    exact ⟨Or.inl, fun hb => hb.elim id fun heq => heq ▸ ha⟩
  ordered := h.ordered_append [a]

theorem concat_of_not_mem (h : FirstSeen mentioned items) (ha : a ∉ mentioned) :
    FirstSeen (mentioned ++ [a]) (items ++ [a]) where
  nodup := by
    have hnew : a ∉ items := fun hmem => ha ((h.mem_iff a).mp hmem)
    exact List.nodup_append.mpr ⟨h.nodup, List.nodup_singleton a, fun b hb c hc heq => by
      rw [List.mem_singleton.mp hc] at heq
      exact hnew (heq ▸ hb)⟩
  mem_iff b := by rw [List.mem_append, List.mem_append, h.mem_iff]
  ordered := by
    refine List.pairwise_append.mpr ⟨h.ordered_append [a], List.pairwise_singleton _ a, ?_⟩
    -- the new item stands behind everything that was mentioned before
    intro b hb c hc
    have hbefore := (h.mem_iff b).mp hb
    rw [List.mem_singleton.mp hc, List.idxOf_append_of_mem hbefore,
      List.idxOf_append_of_notMem ha]
    exact Nat.lt_of_lt_of_le (List.idxOf_lt_length_of_mem hbefore) (Nat.le_add_right _ _)

end FirstSeen

end Metasearch
