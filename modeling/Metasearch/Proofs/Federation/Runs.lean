import Metasearch.Federation.Fanout
import Mathlib.Data.List.Perm.Basic
import Mathlib.Logic.Relation

set_option autoImplicit false

/-! # Runs of a fan-out

The searches of a fan-out run side by side. A step starts one that waits, hands over the answer of
one that is in time, or gives up one that is not. Steps come in any order: what holds of all runs
holds of those whose order the delays dictate.

The law is that the searches asked for are those that have been started, each as often as it
stands in the list, and that a search which is settled has the result it would have by itself
(`Lawful`). Each step keeps to it, so a finished run has asked for every search once and its
outcome does not depend on the order of the steps (`outcome_of_finished`). Every run can be
finished, and none goes on for ever (`wellFounded_step`).
-/

namespace Metasearch.Federation

/-- How far a search has come. -/
inductive Progress where
  | waiting
  | running
  | settled (result : Except Failure (List Hit))

/-- A search of a fan-out that is under way. -/
structure Slot where
  entry : Entry
  progress : Progress

namespace Slot

/-- Whether the provider has been asked. -/
def asked (slot : Slot) : Bool :=
  match slot.progress with
  | .waiting => false
  | _ => true

@[simp] theorem asked_waiting (entry : Entry) : asked ⟨entry, .waiting⟩ = false := rfl

@[simp] theorem asked_running (entry : Entry) : asked ⟨entry, .running⟩ = true := rfl

@[simp] theorem asked_settled (entry : Entry) (result : Except Failure (List Hit)) :
    asked ⟨entry, .settled result⟩ = true := rfl

/-- The search with its result, if it has one. -/
def result? (slot : Slot) : Option (Entry × Except Failure (List Hit)) :=
  match slot.progress with
  | .settled result => some (slot.entry, result)
  | _ => none

/-- The number of steps that are left. -/
def remaining (slot : Slot) : Nat :=
  match slot.progress with
  | .waiting => 2
  | .running => 1
  | .settled _ => 0

end Slot

/-- A fan-out under way: its searches in the order of the entries, and the payloads that the
provider has been asked for, in the order of asking. -/
structure Run where
  slots : List Slot
  log : List Fields

namespace Run

/-- All searches wait. -/
def initial (entries : List Entry) : Run := ⟨entries.map fun entry => ⟨entry, .waiting⟩, []⟩

/-- All searches have a result. -/
def Finished (run : Run) : Prop := ∀ slot ∈ run.slots, slot.result?.isSome = true

/-- What is made of the results there are. -/
def outcome (minimum : Float) (payload : FederatedPayload) (run : Run) :
    Except Failure (List Hit) :=
  gather minimum payload (run.slots.filterMap Slot.result?)

/-- The number of steps that are left. -/
def remaining (run : Run) : Nat :=
  run.slots.foldr (fun slot others => slot.remaining + others) 0

/-- One step of one search. -/
inductive Step (search : Fields → Timed (List Hit)) (deadline : Nat) : Run → Run → Prop
  | start (before after : List Slot) (entry : Entry) (log : List Fields) :
    Step search deadline ⟨before ++ ⟨entry, .waiting⟩ :: after, log⟩
      ⟨before ++ ⟨entry, .running⟩ :: after, log ++ [entry.payload]⟩
  | answer (before after : List Slot) (entry : Entry) (log : List Fields)
      (inTime : (search entry.payload).delay ≤ deadline) :
    Step search deadline ⟨before ++ ⟨entry, .running⟩ :: after, log⟩
      ⟨before ++ ⟨entry, .settled (search entry.payload).result⟩ :: after, log⟩
  | expire (before after : List Slot) (entry : Entry) (log : List Fields)
      (late : deadline < (search entry.payload).delay) :
    Step search deadline ⟨before ++ ⟨entry, .running⟩ :: after, log⟩
      ⟨before ++ ⟨entry, .settled (.error (.timeout deadline))⟩ :: after, log⟩

/-- Any number of steps. -/
abbrev Reaches (search : Fields → Timed (List Hit)) (deadline : Nat) : Run → Run → Prop :=
  Relation.ReflTransGen (Step search deadline)

variable {search : Fields → Timed (List Hit)} {deadline : Nat} {run next : Run}

/-! ## The law -/

/-- The law of a fan-out over some entries. -/
structure Lawful (search : Fields → Timed (List Hit)) (deadline : Nat) (entries : List Entry)
    (run : Run) : Prop where
  /-- The searches are those of the entries, in their order. -/
  entries : run.slots.map Slot.entry = entries
  /-- The provider has been asked once for each search that does not wait. -/
  asked : run.log.Perm ((run.slots.filter Slot.asked).map fun slot => slot.entry.payload)
  /-- A result is that of the search by itself. -/
  results : ∀ slot ∈ run.slots, ∀ result, slot.progress = .settled result →
    result = (search slot.entry.payload).within deadline

theorem lawful_initial (entries : List Entry) :
    Lawful search deadline entries (initial entries) := by
  refine ⟨?_, ?_, ?_⟩
  · rw [initial, List.map_map]
    exact List.map_id _
  · have hnone : (initial entries).slots.filter Slot.asked = [] := by
      rw [initial, List.filter_map, List.map_eq_nil_iff, List.filter_eq_nil_iff]
      exact fun entry _ => Bool.false_ne_true
    rw [hnone]
    exact .nil
  · intro slot hslot result hresult
    obtain ⟨entry, _, rfl⟩ := List.mem_map.mp hslot
    cases hresult

/-- A search that is settled does not change the searches, nor what has been asked for. -/
theorem Lawful.settle {entries : List Entry} {before after : List Slot} {entry : Entry}
    {log : List Fields}
    (h : Lawful search deadline entries ⟨before ++ ⟨entry, .running⟩ :: after, log⟩) :
    Lawful search deadline entries
      ⟨before ++ ⟨entry, .settled ((search entry.payload).within deadline)⟩ :: after, log⟩ := by
  obtain ⟨hentries, hasked, hresults⟩ := h
  refine ⟨?_, ?_, ?_⟩
  · simpa using hentries
  · simpa [List.filter_append, List.filter_cons] using hasked
  · intro slot hslot result hresult
    rw [List.mem_append, List.mem_cons] at hslot
    rcases hslot with hslot | rfl | hslot
    · exact hresults slot (List.mem_append_left _ hslot) result hresult
    · exact (Progress.settled.inj hresult).symm
    · exact hresults slot (List.mem_append_right _ (List.mem_cons_of_mem _ hslot)) result hresult

/-- **A step keeps to the law.** -/
theorem Step.lawful {entries : List Entry} (step : Step search deadline run next)
    (h : Lawful search deadline entries run) : Lawful search deadline entries next := by
  cases step with
  | start before after entry log =>
    obtain ⟨hentries, hasked, hresults⟩ := h
    refine ⟨?_, ?_, ?_⟩
    · simpa using hentries
    · -- the payload asked for last belongs to a search in the middle of the list
      have hlog : (log ++ [entry.payload]).Perm (entry.payload :: log) :=
        List.perm_append_singleton _ _
      refine hlog.trans ((hasked.cons entry.payload).trans ?_)
      simp only [List.filter_append, List.filter_cons, Slot.asked_waiting, Slot.asked_running,
        List.map_append, if_pos, List.map_cons]
      exact List.perm_middle.symm
    · intro slot hslot result hresult
      rw [List.mem_append, List.mem_cons] at hslot
      rcases hslot with hslot | rfl | hslot
      · exact hresults slot (List.mem_append_left _ hslot) result hresult
      · cases hresult
      · exact hresults slot (List.mem_append_right _ (List.mem_cons_of_mem _ hslot)) result hresult
  | answer before after entry log inTime =>
    have hresult : (search entry.payload).within deadline = (search entry.payload).result :=
      if_neg (Nat.not_lt.mpr inTime)
    exact hresult ▸ h.settle
  | expire before after entry log late =>
    have hresult : (search entry.payload).within deadline = .error (.timeout deadline) :=
      if_pos late
    exact hresult ▸ h.settle

/-- **Every run keeps to the law.** -/
theorem lawful_of_reaches {entries : List Entry}
    (reaches : Reaches search deadline (initial entries) run) :
    Lawful search deadline entries run := by
  induction reaches with
  | refl => exact lawful_initial entries
  | tail _ step ih => exact step.lawful ih

/-! ## Finished runs -/

theorem Lawful.result?_of_finished {entries : List Entry} (h : Lawful search deadline entries run)
    (hfinished : run.Finished) {slot : Slot} (hslot : slot ∈ run.slots) :
    slot.result? = some (slot.entry, (search slot.entry.payload).within deadline)
      ∧ slot.asked = true := by
  have hsettled := hfinished slot hslot
  obtain ⟨entry, progress⟩ := slot
  cases progress with
  | settled result =>
    have hresult : result = (search entry.payload).within deadline := h.results _ hslot result rfl
    exact ⟨congrArg (fun result => some (entry, result)) hresult, rfl⟩
  | _ => cases hsettled

/-- **A finished run** has asked the provider for every entry once, and its outcome is that of the
entries in their order, whatever the order of the steps. -/
theorem outcome_of_finished {payload : FederatedPayload}
    (reaches : Reaches search deadline (initial (entriesOf payload)) run)
    (hfinished : run.Finished) (minimum : Float) :
    run.log.Perm ((entriesOf payload).map Entry.payload)
      ∧ run.outcome minimum payload = federatePayload search deadline minimum payload := by
  have hlawful := lawful_of_reaches reaches
  constructor
  · have hall : run.slots.filter Slot.asked = run.slots := List.filter_eq_self.mpr
      fun slot hslot => (hlawful.result?_of_finished hfinished hslot).2
    have hpayloads : run.slots.map (fun slot => slot.entry.payload)
        = (entriesOf payload).map Entry.payload := by
      rw [← hlawful.entries, List.map_map]
      rfl
    have hasked := hlawful.asked
    rwa [hall, hpayloads] at hasked
  · have hresults : run.slots.filterMap Slot.result? = (entriesOf payload).map
        fun entry => (entry, (search entry.payload).within deadline) := by
      rw [← hlawful.entries, List.map_map, ← List.filterMap_eq_map]
      exact List.filterMap_congr
        fun slot hslot => (hlawful.result?_of_finished hfinished hslot).1
    rw [outcome, hresults, federatePayload]

/-! ## The end of a run -/

theorem remaining_append_cons (before after : List Slot) (slot : Slot) (log : List Fields) :
    remaining ⟨before ++ slot :: after, log⟩
      = slot.remaining + remaining ⟨before ++ after, log⟩ := by
  induction before with
  | nil => rfl
  | cons first before ih =>
    simp only [remaining, List.cons_append, List.foldr_cons] at ih ⊢
    omega

/-- Each step leaves one less. -/
theorem Step.remaining (step : Step search deadline run next) :
    next.remaining + 1 = run.remaining := by
  cases step with
  | _ =>
    rw [remaining_append_cons, remaining_append_cons]
    simp only [Slot.remaining, Run.remaining]
    omega

/-- While a run is not finished, some step can be taken. -/
theorem exists_step_of_not_finished (search : Fields → Timed (List Hit)) (deadline : Nat)
    (h : ¬ run.Finished) : ∃ next, Step search deadline run next := by
  obtain ⟨slots, log⟩ := run
  simp only [Finished, not_forall] at h
  obtain ⟨slot, hslot, hopen⟩ := h
  obtain ⟨before, after, rfl⟩ := List.append_of_mem hslot
  obtain ⟨entry, progress⟩ := slot
  cases progress with
  | waiting => exact ⟨_, .start before after entry log⟩
  | running =>
    by_cases hlate : deadline < (search entry.payload).delay
    · exact ⟨_, .expire before after entry log hlate⟩
    · exact ⟨_, .answer before after entry log (Nat.not_lt.mp hlate)⟩
  | settled result => exact absurd rfl hopen

/-- **No run goes on for ever**: each step leaves fewer. -/
theorem wellFounded_step (search : Fields → Timed (List Hit)) (deadline : Nat) :
    WellFounded fun next run => Step search deadline run next := by
  refine Subrelation.wf (fun step => ?_) (measure Run.remaining).wf
  exact Nat.lt_of_succ_le (Nat.le_of_eq step.remaining)

/-- **Every run can be finished.** -/
theorem exists_finished (search : Fields → Timed (List Hit)) (deadline : Nat) (run : Run) :
    ∃ last, Reaches search deadline run last ∧ last.Finished := by
  induction run using (wellFounded_step search deadline).induction with
  | _ run ih =>
    by_cases hfinished : run.Finished
    · exact ⟨run, .refl, hfinished⟩
    · obtain ⟨next, step⟩ := exists_step_of_not_finished search deadline hfinished
      obtain ⟨last, reaches, hlast⟩ := ih next step
      exact ⟨last, .head step reaches, hlast⟩

end Run

end Metasearch.Federation
