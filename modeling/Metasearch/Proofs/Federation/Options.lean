import Metasearch.Federation.Spec
import Metasearch.Proofs.Json.Fields
import Metasearch.Proofs.Stepwise

set_option autoImplicit false

/-! # What federation options are read as

Options are read one after the other. Each of the keys with a meaning sets one part and leaves the
others alone; every other key is put behind the defaults for the single searches (`TakesIn`). So the
defaults are the other keys in their order (`extra_eq_filter`), and as no key occurs twice, each
part is what stands under its key (`limit_eq_getSet?`).
-/

namespace Metasearch.FederationSpec

/-- **What one more option does.** -/
inductive TakesIn (spec : FederationSpec) : String × Json → FederationSpec → Prop where
  | limit {value : Json} {limit : Option Nat} (read : optionalNatural value = .ok limit) :
    TakesIn spec ("limit", value) { spec with limit := limit }
  | offset {value : Json} {offset : Option Nat} (read : optionalNatural value = .ok offset) :
    TakesIn spec ("offset", value) { spec with offset := offset }
  | weights {entries : Fields} {weights : List (String × Float)}
    (read : weightsOf entries = .ok weights) :
    TakesIn spec ("weights", .object entries) { spec with weights := weights }
  | facetsByIndex (value : Json) :
    TakesIn spec ("facetsByIndex", value)
      { spec with facetsByIndex := if value.isNull then none else some value }
  | mergeFacets (value : Json) :
    TakesIn spec ("mergeFacets", value)
      { spec with mergeFacets := if value.isNull then none else some value }
  | default {key : String} (value : Json) (plain : key ∉ ownKeys) :
    TakesIn spec (key, value) { spec with extra := spec.extra ++ [(key, value)] }

theorem takesIn_readOption {spec read : FederationSpec} {option : String × Json}
    (h : spec.readOption option = .ok read) : TakesIn spec option read := by
  obtain ⟨key, value⟩ := option
  simp only [readOption] at h
  split at h
  · next hkey =>
    obtain ⟨limit, hlimit, h⟩ := bind_eq_ok.mp h
    obtain rfl := pure_eq_ok.mp h
    exact hkey ▸ .limit hlimit
  split at h
  · next hkey =>
    obtain ⟨offset, hoffset, h⟩ := bind_eq_ok.mp h
    obtain rfl := pure_eq_ok.mp h
    exact hkey ▸ .offset hoffset
  split at h
  · next hkey =>
    obtain ⟨entries, hentries, h⟩ := bind_eq_ok.mp h
    obtain ⟨weights, hweights, h⟩ := bind_eq_ok.mp h
    obtain rfl := pure_eq_ok.mp h
    cases value with
    | object given =>
      obtain rfl : given = entries := Except.ok.inj hentries
      exact hkey ▸ .weights hweights
    | _ => cases hentries
  split at h
  · next hkey =>
    obtain rfl := pure_eq_ok.mp h
    exact hkey ▸ .facetsByIndex value
  split at h
  · next hkey =>
    obtain rfl := pure_eq_ok.mp h
    exact hkey ▸ .mergeFacets value
  · obtain rfl := pure_eq_ok.mp h
    exact .default value (by simp_all [ownKeys])

/-! ## Reading all of them -/

section Read

variable {options : Fields} {spec : FederationSpec}

/-- The keys without a meaning are put behind the defaults there were. -/
theorem extra_of_foldlM {before : FederationSpec}
    (h : options.foldlM readOption before = .ok spec) :
    spec.extra = before.extra ++ options.filter fun option => option.1 ∉ ownKeys := by
  induction options generalizing before with
  | nil =>
    obtain rfl := pure_eq_ok.mp h
    simp
  | cons option options ih =>
    obtain ⟨next, hnext, h⟩ := bind_eq_ok.mp h
    rw [ih h]
    cases takesIn_readOption hnext with
    | default value plain => simp [plain]
    | _ => rfl

/-- A count that could be read is written as it was given, and `null` is none. -/
theorem optionalNatural_eq_ok {value : Json} {count : Option Nat}
    (h : optionalNatural value = .ok count) :
    count.map Json.ofNat = (some value).filter fun value => !value.isNull := by
  cases value with
  | null =>
    obtain rfl : none = count := Except.ok.inj h
    rfl
  | number number =>
    cases number with
    | integer value =>
      obtain ⟨read, hread, rfl⟩ := map_eq_ok.mp h
      by_cases hneg : value < 0
      · simp [Json.expectNatural, hneg] at hread
      · simp only [Json.expectNatural, if_neg hneg] at hread
        obtain rfl : value.toNat = read := Except.ok.inj hread
        have hvalue : (value.toNat : Int) = value := Int.toNat_of_nonneg (Int.not_lt.mp hneg)
        rw [Option.map_some, Json.ofNat, hvalue]
        rfl
    | real value => cases h
  | _ => cases h

/-- An option under another key leaves the limit alone. -/
theorem limit_readOption {spec next : FederationSpec} {option : String × Json}
    (hkey : option.1 ≠ "limit") (h : spec.readOption option = .ok next) :
    next.limit = spec.limit := by
  cases takesIn_readOption h with
  | limit => exact absurd rfl hkey
  | _ => rfl

/-- The limit is what stands under its key, or else the one there was. -/
theorem limit_of_foldlM {before : FederationSpec} (hdistinct : Fields.Distinct options)
    (h : options.foldlM readOption before = .ok spec) :
    spec.limit.map Json.ofNat
      = match Fields.get? options "limit" with
        | some value => (some value).filter fun value => !value.isNull
        | none => before.limit.map Json.ofNat := by
  induction options generalizing before with
  | nil =>
    obtain rfl := pure_eq_ok.mp h
    rfl
  | cons option options ih =>
    obtain ⟨key, value⟩ := option
    obtain ⟨next, hnext, h⟩ := bind_eq_ok.mp h
    obtain ⟨hfirst, hrest⟩ := List.nodup_cons.mp hdistinct
    rw [ih hrest h, Fields.get?_cons]
    by_cases hkey : key = "limit"
    · -- no later option has this key
      rw [if_pos hkey, Fields.get?_eq_none.mpr (hkey ▸ hfirst)]
      cases takesIn_readOption hnext with
      | limit hread => exact optionalNatural_eq_ok hread
      | default _ plain => exact absurd (hkey ▸ by decide) plain
      | _ => exact absurd hkey (by decide)
    · rw [if_neg hkey, limit_readOption hkey hnext]

/-- **The limit** is what stands under its key, unless this is `null`. -/
theorem limit_eq_getSet? (hdistinct : Fields.Distinct options) (h : ofEntries options = .ok spec) :
    spec.limit.map Json.ofNat = Fields.getSet? options "limit" := by
  rw [limit_of_foldlM hdistinct h, Fields.getSet?]
  cases Fields.get? options "limit" <;> rfl

/-- **The defaults** for the single searches are the keys without a meaning, in their order. -/
theorem extra_eq_filter (h : ofEntries options = .ok spec) :
    spec.extra = options.filter fun option => option.1 ∉ ownKeys :=
  extra_of_foldlM h

theorem get?_extra (h : ofEntries options = .ok spec) (key : String) :
    Fields.get? spec.extra key = if key ∈ ownKeys then none else Fields.get? options key := by
  rw [extra_eq_filter h, Fields.get?_filter_keys options (fun key => key ∉ ownKeys)]
  simp

end Read

end Metasearch.FederationSpec
