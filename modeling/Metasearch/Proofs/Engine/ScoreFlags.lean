import Metasearch.Engine.Searcher
import Metasearch.Proofs.Engine.Sources

set_option autoImplicit false

/-! # Whose wish for scores counts

In a search over several indexes an entry may wish for scores, or refuse them, and the federation
options may wish for scores on behalf of all entries that say nothing of their own. So an entry
should be judged by its own wish and, if it has none, by that of the options (`wishOf`). Either may
use either name for the wish, and a name with the value `null` says nothing.

Three searches settle the flag by which the floor then drops an entry's hits, in two ways. The
fan-out asks for scores in an entry that *mentions* no name. The two engines add the options *key
by key* and then read the result. Both ways look at keys where they should look at wishes. So a
`null` counts as an answer (`KeptOut`), a default under the first name hides an own wish under the
second (`Hides`), and a `null` under the first name may bring the wrong default forward (`Skips`).
Elsewhere the three flags are the wish of the entry (`flags_agree_iff`).
-/

namespace Metasearch

namespace Alias

/-- What a value under a name for the wish says. -/
def wish? (value : Option Json) : Option Bool := (value.filter fun given => !given.isNull).map isOn

/-- A request's own wish: that of the first name with a value. -/
def ownWish? (entries : Fields) : Option Bool :=
  (scoreKeys.findSome? (Fields.getSet? entries)).map isOn

theorem ownWish?_eq (entries : Fields) :
    ownWish? entries = (wish? (Fields.get? entries "showRankingScore")).or
      (wish? (Fields.get? entries "getRankingInfo")) := by
  have hfirst : ∀ key, wish? (Fields.get? entries key) = (Fields.getSet? entries key).map isOn :=
    fun _ => rfl
  rw [hfirst, hfirst, ownWish?, scoreKeys, List.findSome?_cons, List.findSome?_cons,
    List.findSome?_nil]
  cases Fields.getSet? entries "showRankingScore" with
  | some value => rfl
  | none => cases Fields.getSet? entries "getRankingInfo" <;> rfl

theorem wantsScores_eq (entries : Fields) : wantsScores entries = (ownWish? entries).getD false :=
  rfl

@[simp] theorem wish?_none : wish? none = none := rfl

@[simp] theorem wish?_null : wish? (some .null) = none := rfl

/-- What says something is a value. -/
theorem exists_of_wish? {value : Option Json} (h : wish? value ≠ none) :
    ∃ given wish, value = some given ∧ wish? (some given) = some wish := by
  cases value with
  | none => exact absurd rfl h
  | some given =>
    obtain ⟨wish, hwish⟩ := Option.ne_none_iff_exists'.mp h
    exact ⟨given, wish, rfl, hwish⟩

/-- What says nothing is absent or `null`. -/
theorem wish?_eq_none {value : Option Json} (h : wish? value = none) :
    value = none ∨ value = some .null := by
  cases value with
  | none => exact .inl rfl
  | some given =>
    cases given with
    | null => exact .inr rfl
    | _ => cases h

/-- A request mentions a name for the wish, with a value or without. -/
def Mentions (entries : Fields) : Prop := ∃ key ∈ scoreKeys, Fields.contains entries key = true

theorem all_not_contains_iff (entries : Fields) :
    scoreKeys.all (fun key => !Fields.contains entries key) = true ↔ ¬ Mentions entries := by
  simp [Mentions]

theorem get?_of_not_mentions {entries : Fields} (h : ¬ Mentions entries) :
    ∀ key ∈ scoreKeys, Fields.get? entries key = none := by
  intro key hkey
  by_contra hpresent
  exact h ⟨key, hkey, Option.isSome_iff_ne_none.mpr hpresent⟩

/-- A request that mentions no name has no wish of its own. -/
theorem ownWish?_of_not_mentions {entries : Fields} (h : ¬ Mentions entries) :
    ownWish? entries = none := by
  rw [ownWish?_eq, get?_of_not_mentions h _ (by decide), get?_of_not_mentions h _ (by decide)]
  rfl

end Alias

/-- The wish that an entry should be judged by: its own, or else that of the options. -/
def FederationSpec.wishOf (spec : FederationSpec) (entry : Fields) : Bool :=
  (Alias.ownWish? entry).getD (Alias.wantsScores spec.extra)

/-- The wish of the options does not reach an entry that mentions a name without a value. -/
structure FederationSpec.KeptOut (spec : FederationSpec) (entry : Fields) : Prop where
  mentioned : Alias.Mentions entry
  silent : Alias.ownWish? entry = none
  wished : Alias.wantsScores spec.extra = true

/-- A default under the first name hides an entry's own wish under the second, which is another. -/
@[mk_iff hides_iff]
structure FederationSpec.Hides (spec : FederationSpec) (entry : Fields) : Prop where
  absent : Fields.get? entry "showRankingScore" = none
  own : Alias.wish? (Fields.get? entry "getRankingInfo") ≠ none
  default : Alias.wish? (Fields.get? spec.extra "showRankingScore") ≠ none
  differ : Alias.wish? (Fields.get? entry "getRankingInfo")
    ≠ Alias.wish? (Fields.get? spec.extra "showRankingScore")

/-- A first name without a value takes the place of a default that refuses scores, so that the
default under the second name, which asks for them, is the one that counts. -/
@[mk_iff skips_iff]
structure FederationSpec.Skips (spec : FederationSpec) (entry : Fields) : Prop where
  null : Fields.get? entry "showRankingScore" = some .null
  absent : Fields.get? entry "getRankingInfo" = none
  refused : Alias.wish? (Fields.get? spec.extra "showRankingScore") = some false
  asked : Alias.wish? (Fields.get? spec.extra "getRankingInfo") = some true

/-! ## The fan-out -/

namespace Federation

/-- Scores are asked for in a payload that mentions no name for the wish, and elsewhere the wish
stays what it is. -/
theorem wantsScores_requestScores (payload : Fields) :
    Alias.wantsScores (requestScores payload)
      = (Alias.scoreKeys.all (fun key => !Fields.contains payload key)
          || Alias.wantsScores payload) := by
  unfold requestScores
  split
  · next hsilent =>
    have hasked : Alias.wish? (Fields.get? (Fields.insert payload "showRankingScore" (.bool true))
        "showRankingScore") = some true := by
      rw [Fields.get?_insert, if_pos rfl]
      rfl
    rw [hsilent, Bool.true_or, Alias.wantsScores_eq, Alias.ownWish?_eq, hasked]
    rfl
  · next hmentions =>
    rw [Bool.not_eq_true] at hmentions
    rw [hmentions, Bool.false_or]

variable {payload : FederatedPayload} {query : Fields} {entry : Entry}

/-- **The flag of an entry in a fan-out.** -/
theorem showScores_of_entryOf? (hdistinct : Fields.Distinct query)
    (h : entryOf? payload query = some entry) :
    entry.showScores
      = if Alias.wantsScores payload.federation.extra then
          Alias.scoreKeys.all (fun key => !Fields.contains query key) || Alias.wantsScores query
        else Alias.wantsScores query := by
  obtain ⟨⟨index, single⟩, hexpand, rfl⟩ := Option.map_eq_some_iff.mp h
  have hget : ∀ key ∈ Alias.scoreKeys, Fields.get? single key = Fields.get? query key := by
    have hplain : ∀ key ∈ Alias.scoreKeys, key ∉ FederatedPayload.settledKeys := by decide
    exact fun key hkey =>
      FederatedPayload.get?_expand_of_not_mem hdistinct hexpand (hplain key hkey)
  have hmentions : Alias.scoreKeys.all (fun key => !Fields.contains single key)
      = Alias.scoreKeys.all fun key => !Fields.contains query key := by
    simp only [Alias.scoreKeys, List.all_cons, List.all_nil, Fields.contains]
    rw [hget _ (by decide), hget _ (by decide)]
  dsimp only
  split
  · rw [wantsScores_requestScores, hmentions, Alias.wantsScores_congr hget]
  · exact Alias.wantsScores_congr hget

/-- In a fan-out the flag is the wish of the entry, but where the wish of the options is kept
out. -/
theorem showScores_eq_wishOf_iff (hdistinct : Fields.Distinct query)
    (h : entryOf? payload query = some entry) :
    entry.showScores = payload.federation.wishOf query ↔ ¬ payload.federation.KeptOut query := by
  rw [showScores_of_entryOf? hdistinct h, FederationSpec.wishOf, Alias.wantsScores_eq query]
  by_cases hmentioned : Alias.Mentions query
  · have hmentions : Alias.scoreKeys.all (fun key => !Fields.contains query key) = false :=
      Bool.eq_false_iff.mpr fun hall => (Alias.all_not_contains_iff query).mp hall hmentioned
    rw [hmentions, Bool.false_or, ite_self]
    cases hown : Alias.ownWish? query with
    | some wish =>
      have hspeaks : ¬ payload.federation.KeptOut query := fun hkept => by
        rw [hkept.silent] at hown
        cases hown
      exact ⟨fun _ => hspeaks, fun _ => rfl⟩
    | none =>
      -- the entry has no wish, so it is kept out exactly if the options wish for scores
      rw [Option.getD_none, Option.getD_none]
      constructor
      · intro hflag hkept
        rw [hkept.wished] at hflag
        cases hflag
      · intro hkept
        have hwished : Alias.wantsScores payload.federation.extra ≠ true := fun hwished =>
          hkept ⟨hmentioned, hown, hwished⟩
        exact (Bool.eq_false_iff.mpr hwished).symm
  · rw [(Alias.all_not_contains_iff query).mpr hmentioned, Bool.true_or,
      Alias.ownWish?_of_not_mentions hmentioned]
    refine ⟨fun _ hkept => hmentioned hkept.mentioned, fun _ => ?_⟩
    cases Alias.wantsScores payload.federation.extra <;> rfl

end Federation

/-! ## The engines -/

/-- The wish of an entry with the defaults, in terms of what stands under the two names. -/
theorem FederationSpec.ownWish?_applyDefaults (spec : FederationSpec) (entry : Fields) :
    Alias.ownWish? (spec.applyDefaults entry)
      = (Alias.wish? ((Fields.get? entry "showRankingScore").or
          (Fields.get? spec.extra "showRankingScore"))).or
        (Alias.wish? ((Fields.get? entry "getRankingInfo").or
          (Fields.get? spec.extra "getRankingInfo"))) := by
  rw [Alias.ownWish?_eq, applyDefaults, Fields.get?_insertAllNew, Fields.get?_insertAllNew]

namespace FederationSpec

variable {spec : FederationSpec} {entry : Fields}

/-- An own wish under the first name counts. -/
theorem wantsScores_of_first (h : Alias.wish? (Fields.get? entry "showRankingScore") ≠ none) :
    Alias.wantsScores (spec.applyDefaults entry) = spec.wishOf entry := by
  obtain ⟨given, wish, hgiven, hwish⟩ := Alias.exists_of_wish? h
  rw [Alias.wantsScores_eq, spec.ownWish?_applyDefaults, wishOf, Alias.ownWish?_eq, hgiven,
    Option.some_or, hwish]
  rfl

/-- An own wish under the second name counts unless it is hidden. -/
theorem wantsScores_of_second (hfirst : Alias.wish? (Fields.get? entry "showRankingScore") = none)
    (h : Alias.wish? (Fields.get? entry "getRankingInfo") ≠ none) :
    Alias.wantsScores (spec.applyDefaults entry) = spec.wishOf entry ↔ ¬ spec.Hides entry := by
  obtain ⟨given, wish, hgiven, hwish⟩ := Alias.exists_of_wish? h
  rw [Alias.wantsScores_eq, spec.ownWish?_applyDefaults, wishOf, Alias.ownWish?_eq, hides_iff,
    hgiven, Option.some_or, hwish]
  rcases Alias.wish?_eq_none hfirst with hname | hname
  · -- the default under the first name comes before the own wish
    rw [hname, Option.none_or]
    cases Alias.wish? (Fields.get? spec.extra "showRankingScore") with
    | none => simp
    | some default => cases wish <;> cases default <;> simp
  · simp [hname]

/-- An entry without a wish has none by options that do not wish for scores either, unless its
first name makes them be skipped. -/
theorem wantsScores_of_silent (hfirst : Alias.wish? (Fields.get? entry "showRankingScore") = none)
    (hsecond : Alias.wish? (Fields.get? entry "getRankingInfo") = none)
    (hrefused : Alias.wantsScores spec.extra = false) :
    Alias.wantsScores (spec.applyDefaults entry) = spec.wishOf entry ↔ ¬ spec.Skips entry := by
  rw [Alias.wantsScores_eq, Alias.ownWish?_eq] at hrefused
  rw [Alias.wantsScores_eq, spec.ownWish?_applyDefaults, wishOf, Alias.ownWish?_eq, hfirst, hsecond,
    Alias.wantsScores_eq, Alias.ownWish?_eq, skips_iff, hrefused]
  rcases Alias.wish?_eq_none hfirst with hname | hname
  · rw [hname, Option.none_or]
    rcases Alias.wish?_eq_none hsecond with hname' | hname'
    · rw [hname', Option.none_or, hrefused]
      simp
    · rw [hname', Option.some_or, Alias.wish?_null, Option.or_none]
      -- the first name of the options is all that is left of their refusal
      cases hshared : Alias.wish? (Fields.get? spec.extra "showRankingScore") with
      | none => simp
      | some default =>
        rw [hshared, Option.some_or] at hrefused
        simpa using hrefused
  · rw [hname, Option.some_or, Alias.wish?_null, Option.none_or]
    rcases Alias.wish?_eq_none hsecond with hname' | hname'
    · rw [hname', Option.none_or]
      -- the second name of the options counts, and it may be on
      cases hshared : Alias.wish? (Fields.get? spec.extra "showRankingScore") with
      | none =>
        rw [hshared, Option.none_or] at hrefused
        simpa using hrefused
      | some default =>
        rw [hshared, Option.some_or, Option.getD_some] at hrefused
        subst hrefused
        cases Alias.wish? (Fields.get? spec.extra "getRankingInfo") with
        | none => simp
        | some wish => cases wish <;> simp
    · simp [hname']

/-- An entry that mentions no name gets the wish of the options. -/
theorem wantsScores_of_not_mentions (h : ¬ Alias.Mentions entry) :
    Alias.wantsScores (spec.applyDefaults entry) = spec.wishOf entry := by
  rw [Alias.wantsScores_eq, spec.ownWish?_applyDefaults, wishOf, Alias.ownWish?_of_not_mentions h,
    Alias.get?_of_not_mentions h _ (by decide), Alias.get?_of_not_mentions h _ (by decide),
    Option.none_or, Option.none_or, ← Alias.ownWish?_eq]
  rfl

/-- **The defaults are added key by key.** Where they are not kept out, what comes of it is the
wish of the entry, but for a default that hides it and a first name that makes one be skipped. -/
theorem wantsScores_applyDefaults_iff (hkept : ¬ spec.KeptOut entry) :
    Alias.wantsScores (spec.applyDefaults entry) = spec.wishOf entry
      ↔ ¬ spec.Hides entry ∧ ¬ spec.Skips entry := by
  by_cases hfirst : Alias.wish? (Fields.get? entry "showRankingScore") = none
  · by_cases hsecond : Alias.wish? (Fields.get? entry "getRankingInfo") = none
    · have hhides : ¬ spec.Hides entry := fun h => h.own hsecond
      rw [and_iff_right hhides]
      by_cases hmentioned : Alias.Mentions entry
      · -- what is mentioned and not kept out has met options that do not wish for scores
        have hsilent : Alias.ownWish? entry = none := by
          rw [Alias.ownWish?_eq, hfirst, hsecond]
          rfl
        have hrefused : Alias.wantsScores spec.extra = false :=
          Bool.eq_false_iff.mpr fun hwished => hkept ⟨hmentioned, hsilent, hwished⟩
        exact wantsScores_of_silent hfirst hsecond hrefused
      · have hskips : ¬ spec.Skips entry := fun h => by
          have hnull := h.null
          rw [Alias.get?_of_not_mentions hmentioned _ (by decide)] at hnull
          cases hnull
        exact iff_of_true (wantsScores_of_not_mentions hmentioned) hskips
    · have hskips : ¬ spec.Skips entry := fun h => hsecond (by rw [h.absent]; rfl)
      rw [wantsScores_of_second hfirst hsecond, and_iff_left hskips]
  · have hhides : ¬ spec.Hides entry := fun h => hfirst (by rw [h.absent]; rfl)
    have hskips : ¬ spec.Skips entry := fun h => hfirst (by rw [h.null]; rfl)
    exact iff_of_true (wantsScores_of_first hfirst) ⟨hhides, hskips⟩

end FederationSpec

/-- The flag of a query to Algolia is read off its request, and it is that of the entry with the
defaults. -/
theorem Algolia.wantsScores_requestOf {entry : Fields} (hdistinct : Fields.Distinct entry)
    (federation : FederationSpec) (query : String) (limit : Nat) :
    Alias.wantsScores (requestOf federation query limit entry)
      = Alias.wantsScores (federation.applyDefaults entry) := by
  have hplain : ∀ key ∈ Alias.scoreKeys,
      key ∉ Alias.indexKeys ++ Alias.queryKeys ++ ["limit", "hitsPerPage"] := by decide
  exact Alias.wantsScores_congr fun key hkey =>
    get?_requestOf hdistinct federation query limit (hplain key hkey)

/-! ## All three searches -/

/-- The flags of an entry in a search over several indexes: in a fan-out, with Meilisearch and with
Algolia. -/
structure EntryFlags where
  fanOut : Bool
  meilisearch : Bool
  algolia : Bool
  deriving DecidableEq

/-- The flags that the three searches give to an entry. An entry without an index has none. -/
def entryFlags? (payload : FederatedPayload) (query : String) (limit : Nat) (entry : Fields) :
    Option EntryFlags := do
  let fanned ← Federation.entryOf? payload entry
  let merged ← Meilisearch.sourceQuery? payload.federation query entry
  let requested ← Algolia.sourceQuery? payload.federation query limit entry
  return ⟨fanned.showScores, merged.showScores, requested.showScores⟩

/-- **Where the three searches agree.** An entry with an index has a flag in each search, and the
two engines give it the same one. The fan-out's is the wish of the entry, its own or else that of
the options, exactly if the options are not kept out of the entry. All three are that wish exactly
if, besides, no default hides it and none is skipped. -/
theorem flags_agree_iff (payload : FederatedPayload) (query : String) (limit : Nat)
    {entry : Fields} (hdistinct : Fields.Distinct entry) (hnamed : Alias.indexOf entry ≠ "") :
    ∃ flags, entryFlags? payload query limit entry = some flags
      ∧ flags.meilisearch = flags.algolia
      ∧ (flags.fanOut = payload.federation.wishOf entry ↔ ¬ payload.federation.KeptOut entry)
      ∧ (flags = ⟨payload.federation.wishOf entry, payload.federation.wishOf entry,
            payload.federation.wishOf entry⟩
          ↔ ¬ payload.federation.KeptOut entry ∧ ¬ payload.federation.Hides entry
            ∧ ¬ payload.federation.Skips entry) := by
  have hentry : Federation.entryOf? payload entry ≠ none := fun hnone =>
    hnamed (Federation.entryOf?_eq_none_iff.mp hnone)
  obtain ⟨fanned, hfanned⟩ := Option.ne_none_iff_exists'.mp hentry
  have hmerged : Meilisearch.sourceQuery? payload.federation query entry
      = some (Meilisearch.sourceOf payload.federation query entry) := if_neg hnamed
  have hrequested : Algolia.sourceQuery? payload.federation query limit entry
      = some (Algolia.sourceOf payload.federation query limit entry) := if_neg hnamed
  have hflags : entryFlags? payload query limit entry
      = some ⟨fanned.showScores, Alias.wantsScores (payload.federation.applyDefaults entry),
          Alias.wantsScores (Algolia.requestOf payload.federation query limit entry)⟩ := by
    rw [entryFlags?, hfanned, hmerged, hrequested]
    rfl
  have hfanOut := Federation.showScores_eq_wishOf_iff hdistinct hfanned
  rw [Algolia.wantsScores_requestOf hdistinct] at hflags
  refine ⟨_, hflags, rfl, hfanOut, ?_⟩
  rw [EntryFlags.mk.injEq, and_self, hfanOut]
  exact and_congr_right FederationSpec.wantsScores_applyDefaults_iff

/-! ### Wishes that are not heard -/

/-- A search over books, with options that wish for scores. -/
def wishingPayload (query : Fields) : FederatedPayload :=
  ⟨"", [query], { FederationSpec.empty with extra := [("showRankingScore", .bool true)] }⟩

/-- A query for books with something under a name for the wish. -/
def bookQuery (key : String) (value : Json) : Fields := [("index", .string "books"), (key, value)]

/-- An entry that refuses scores under the first name is heard in all searches. -/
theorem refusal_under_first_name :
    Fields.Distinct (bookQuery "showRankingScore" (.bool false))
      ∧ Alias.indexOf (bookQuery "showRankingScore" (.bool false)) ≠ ""
      ∧ entryFlags? (wishingPayload (bookQuery "showRankingScore" (.bool false))) "" 20
          (bookQuery "showRankingScore" (.bool false)) = some ⟨false, false, false⟩ := by
  have hdistinct : Fields.Distinct (bookQuery "showRankingScore" (.bool false)) := by decide
  have hnamed : Alias.indexOf (bookQuery "showRankingScore" (.bool false)) ≠ "" := by decide
  obtain ⟨_, hflags, _, _, hagree⟩ := flags_agree_iff
    (wishingPayload (bookQuery "showRankingScore" (.bool false))) "" 20 hdistinct hnamed
  refine ⟨hdistinct, hnamed, hflags.trans (congrArg some (hagree.mpr ⟨?_, ?_, ?_⟩))⟩
  · intro hkept
    cases hkept.silent
  · intro hhides
    cases hhides.absent
  · intro hskips
    cases hskips.null

/-- **The searches can disagree with the entry and with each other.** An entry that refuses scores
under the second name is judged by the engines' searches all the same, by the default under the
first name. And one with `null` under the first name, which says nothing, is not judged in a
search that wishes for scores. -/
theorem wishes_overruled :
    (entryFlags? (wishingPayload (bookQuery "getRankingInfo" (.bool false))) "" 20
          (bookQuery "getRankingInfo" (.bool false)) = some ⟨false, true, true⟩
        ∧ (wishingPayload (bookQuery "getRankingInfo" (.bool false))).federation.wishOf
          (bookQuery "getRankingInfo" (.bool false)) = false)
      ∧ entryFlags? (wishingPayload (bookQuery "showRankingScore" .null)) "" 20
          (bookQuery "showRankingScore" .null) = some ⟨false, false, false⟩
        ∧ (wishingPayload (bookQuery "showRankingScore" .null)).federation.wishOf
          (bookQuery "showRankingScore" .null) = true := by
  decide

end Metasearch
