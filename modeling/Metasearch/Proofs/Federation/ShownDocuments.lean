import Metasearch.Proofs.Federation.Merge
import Metasearch.Proofs.Json.Unordered

set_option autoImplicit false

/-! # The documents of a blend

A blended hit is shown as its document with one score at the end. A score field that the engine
has put into the document is taken out before, and what this does to the others depends on its
place: the fields in front of it stay where they are, but the last of those behind it moves into
the hole (`Fields.erase_eq`). No field is lost or changed, and the fields are in the order of the
engine exactly if no more than one stands behind the score field (`documents_of_blend`).
-/

namespace Metasearch

/-! ## Documents with a score -/

/-- The entry that shows a score. -/
def scoreEntry (score : Float) : String × Json := (Hit.scoreField, .ofFloat score)

/-- What is shown of a document with a score: its fields, without a score field of its own, and
the score behind them. -/
structure Shows (fields : Fields) (score : Float) (shown : Fields) : Prop where
  /-- The last field moves to where the engine had a score. -/
  parts : shown = fields.before Hit.scoreField ++ lastFirst (fields.behind Hit.scoreField)
    ++ [scoreEntry score]
  /-- No field is lost or changed. -/
  perm : shown.Perm (fields.without Hit.scoreField ++ [scoreEntry score])
  distinct : shown.Distinct
  inOrder : shown = fields.without Hit.scoreField ++ [scoreEntry score]
    ↔ (fields.behind Hit.scoreField).length ≤ 1

theorem shows_setScore {hit : Hit} (h : Fields.Distinct hit.fields) (score : Float) :
    Shows hit.fields score (Fields.erase hit.fields Hit.scoreField ++ [scoreEntry score]) where
  parts := by rw [Fields.erase_eq]
  perm := (Fields.erase_perm_without h Hit.scoreField).append_right [scoreEntry score]
  distinct := by
    have hscore : Fields.get? (Fields.erase hit.fields Hit.scoreField) Hit.scoreField = none := by
      rw [Fields.get?_erase h, if_pos rfl]
    refine Fields.distinct_append (Fields.distinct_erase h Hit.scoreField)
      (List.nodup_singleton Hit.scoreField) fun key hkey => ?_
    obtain rfl : key = Hit.scoreField := List.mem_singleton.mp hkey
    exact Fields.get?_eq_none.mp hscore
  inOrder := by
    rw [List.append_cancel_right_eq, Fields.erase_eq_without_iff h]

theorem toJson_setScore (hit : Hit) (score : Float) :
    (hit.setScore score).toJson
      = .object (Fields.erase hit.fields Hit.scoreField ++ [scoreEntry score]) := rfl

namespace Federation

/-- A hit of a page is a hit of a pool with the score of its rank. -/
theorem mem_blend {spec : FederationSpec} {fallback : Nat} {pools : List RankedPool} {shown : Hit}
    (h : shown ∈ blend spec fallback pools) :
    ∃ pool ∈ pools, ∃ (rank : Nat) (hit : Hit), pool.hits[rank]? = some hit
      ∧ shown = hit.setScore (reciprocalRank (spec.weight pool.index) rank) := by
  have hmerged : shown ∈ merged spec pools := List.mem_of_mem_drop (List.mem_of_mem_take h)
  rw [merged, List.mem_mergeSort, flatMap_scoredPool, scoredHits, List.mem_flatMap] at hmerged
  obtain ⟨pool, hpool, hshown⟩ := hmerged
  obtain ⟨rank, hrank, rfl⟩ := List.mem_mapIdx.mp hshown
  exact ⟨pool, hpool, rank, pool.hits[rank], List.getElem?_eq_getElem hrank, rfl⟩

/-- **A blend shows the documents as the engine sent them, but for the place of the last field.**
Whatever score a hit is given, it is shown with its own fields, each key once, and the score at
the end; and so is every hit of a page. -/
theorem documents_of_blend (spec : FederationSpec) (fallback : Nat) (pools : List RankedPool)
    (h : ∀ pool ∈ pools, ∀ hit ∈ pool.hits, Fields.Distinct hit.fields) :
    (∀ hit : Hit, Fields.Distinct hit.fields → ∀ score,
      ∃ fields, (hit.setScore score).toJson = .object fields ∧ Shows hit.fields score fields)
    ∧ ∀ shown ∈ blend spec fallback pools,
      ∃ pool ∈ pools, ∃ (rank : Nat) (hit : Hit), pool.hits[rank]? = some hit
        ∧ ∃ fields, shown.toJson = .object fields
          ∧ Shows hit.fields (reciprocalRank (spec.weight pool.index) rank) fields := by
  constructor
  · intro hit hdistinct score
    exact ⟨_, toJson_setScore hit score, shows_setScore hdistinct score⟩
  · intro shown hshown
    obtain ⟨pool, hpool, rank, hit, hhit, rfl⟩ := mem_blend hshown
    have hdistinct : Fields.Distinct hit.fields := h pool hpool hit (List.mem_of_getElem? hhit)
    exact ⟨pool, hpool, rank, hit, hhit, _, toJson_setScore hit _, shows_setScore hdistinct _⟩

/-! ### A book with a score of its own -/

def title : String × Json := ("title", .string "Solaris")

def year : String × Json := ("year", .ofNat 1961)

/-- The engine has put a score into the document. -/
def scoredBook (before behind : Fields) : Hit :=
  ⟨before ++ (Hit.scoreField, .ofNat 9) :: behind, none, none⟩

/-- One field behind the score stays where it is. -/
theorem year_stays_behind_title :
    Fields.Distinct (scoredBook [title] [year]).fields
      ∧ (∀ score, ((scoredBook [title] [year]).setScore score).toJson
        = .object [title, year, scoreEntry score])
      ∧ ∀ shown ∈ blend .empty 20 [⟨"books", [scoredBook [title] [year]]⟩],
        ∃ score, shown.toJson = .object [title, year, scoreEntry score] := by
  have hdistinct : Fields.Distinct (scoredBook [title] [year]).fields := by decide
  have hinOrder : ∀ {score fields}, Shows (scoredBook [title] [year]).fields score fields →
      fields = [title, year, scoreEntry score] := fun hshows => hshows.inOrder.mpr (by decide)
  obtain ⟨hscored, hblended⟩ := documents_of_blend .empty 20
    [⟨"books", [scoredBook [title] [year]]⟩] (by simpa using hdistinct)
  refine ⟨hdistinct, fun score => ?_, fun shown hshown => ?_⟩
  · obtain ⟨fields, hfields, hshows⟩ := hscored _ hdistinct score
    rw [hfields, hinOrder hshows]
  · obtain ⟨pool, hpool, rank, hit, hhit, fields, hfields, hshows⟩ := hblended shown hshown
    obtain rfl := List.mem_singleton.mp hpool
    obtain rfl := List.mem_singleton.mp (List.mem_of_getElem? hhit)
    exact ⟨_, by rw [hfields, hinOrder hshows]⟩

/-- **Of two fields behind the score the last comes first**, in a blend as anywhere else. -/
theorem year_moves_before_title :
    Fields.Distinct (scoredBook [] [title, year]).fields
      ∧ blend .empty 20 [⟨"books", [scoredBook [] [title, year]]⟩]
        = [(scoredBook [] [title, year]).setScore (reciprocalRank 1.0 0)]
      ∧ ∀ score, ((scoredBook [] [title, year]).setScore score).toJson
          = .object [year, title, scoreEntry score]
        ∧ ((scoredBook [] [title, year]).setScore score).toJson
          ≠ .object ((scoredBook [] [title, year]).fields.without Hit.scoreField
              ++ [scoreEntry score]) := by
  refine ⟨by decide, ?_, fun score => ⟨rfl, fun heq => ?_⟩⟩
  · rw [blend, merged, flatMap_scoredPool]
    exact congrArg _ (List.mergeSort_singleton _)
  · have hkeys : ["year", "title", "_score"] = ["title", "year", "_score"] :=
      congrArg Fields.keys (Json.object.inj heq)
    exact absurd hkeys (by decide)

end Federation

end Metasearch
