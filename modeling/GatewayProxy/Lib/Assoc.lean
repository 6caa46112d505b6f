import Mathlib.Data.List.AList

/-!
# Finite maps with bulk updates

Association lists with distinct keys (`AList`), with the two bulk operations
of a hash map that programs write as loops: updating every value in place
(`mapVals`) and keeping the entries that pass a test (`retain`). Each
operation comes with the lookup lemma that callers use, so that no proof
about a program looks at the list of entries.

A loop that files records under their keys is a fold whose step touches the
entry of one key. `lookup_foldl` says what it leaves under a key: the fold of
that key's records alone.
-/

namespace Assoc

/-- A finite map: association list whose keys are distinct. -/
abbrev Map (κ ν : Type) := AList (fun _ : κ => ν)

namespace Map

variable {κ ν : Type}

/-- Replaces every value by a function of its key and value. -/
def mapVals (f : κ → ν → ν) (m : Map κ ν) : Map κ ν :=
  ⟨m.entries.map (Sigma.map id f), m.nodupKeys.map₂ f⟩

/-- Keeps the entries that pass the test. -/
def retain (p : κ → ν → Bool) (m : Map κ ν) : Map κ ν :=
  ⟨m.entries.filter fun e => p e.1 e.2, m.nodupKeys.sublist List.filter_sublist⟩

/-- The keys of the entries that pass the test, in the map's order. -/
def keysWhere (p : κ → ν → Bool) (m : Map κ ν) : List κ :=
  (m.entries.filter fun e => p e.1 e.2).map Sigma.fst

theorem nodup_map_entries (m : Map κ ν) :
    ((m.entries.map fun e => (e.1, e.2)).map Prod.fst).Nodup := by
  rw [List.map_map]
  exact m.nodupKeys

variable [DecidableEq κ]

@[simp] theorem lookup_mapVals (f : κ → ν → ν) (m : Map κ ν) (k : κ) :
    (mapVals f m).lookup k = (m.lookup k).map (f k) :=
  List.dlookup_map₂ k

/-- A value is looked up exactly when its entry is in the list. -/
theorem mem_entries_iff {m : Map κ ν} {k : κ} {v : ν} :
    (⟨k, v⟩ : Sigma fun _ : κ => ν) ∈ m.entries ↔ m.lookup k = some v := by
  rw [← AList.mem_lookup_iff, Option.mem_def]

theorem mem_map_entries_iff {m : Map κ ν} {k : κ} {v : ν} :
    (k, v) ∈ m.entries.map (fun e => (e.1, e.2)) ↔ m.lookup k = some v := by
  rw [← mem_entries_iff, List.mem_map]
  constructor
  · rintro ⟨⟨k', v'⟩, hMem, hEq⟩
    obtain ⟨rfl, rfl⟩ := Prod.mk.inj hEq
    exact hMem
  · exact fun hMem => ⟨⟨k, v⟩, hMem, rfl⟩

@[simp] theorem lookup_retain (p : κ → ν → Bool) (m : Map κ ν) (k : κ) :
    (retain p m).lookup k = (m.lookup k).filter (p k) := by
  apply Option.ext
  intro v
  rw [← mem_entries_iff, retain, List.mem_filter, mem_entries_iff,
    Option.filter_eq_some_iff]

@[simp] theorem mem_keysWhere {p : κ → ν → Bool} {m : Map κ ν} {k : κ} :
    k ∈ keysWhere p m ↔ ∃ v, m.lookup k = some v ∧ p k v = true := by
  rw [keysWhere, List.mem_map]
  constructor
  · rintro ⟨⟨k', v⟩, hMem, rfl⟩
    rw [List.mem_filter, mem_entries_iff] at hMem
    exact ⟨v, hMem⟩
  · rintro ⟨v, hLookup, hTest⟩
    exact ⟨⟨k, v⟩, List.mem_filter.mpr ⟨mem_entries_iff.mpr hLookup, hTest⟩, rfl⟩

/-- Looking up after an insertion. -/
theorem lookup_insert_eq (m : Map κ ν) (k k' : κ) (v : ν) :
    (m.insert k v).lookup k' = if k' = k then some v else m.lookup k' := by
  by_cases hk : k' = k
  · rw [if_pos hk, hk, AList.lookup_insert]
  · rw [if_neg hk, AList.lookup_insert_ne hk]

/-- Looking up after an erasure. -/
theorem lookup_erase_eq (m : Map κ ν) (k k' : κ) :
    (m.erase k).lookup k' = if k' = k then none else m.lookup k' := by
  by_cases hk : k' = k
  · rw [if_pos hk, hk, AList.lookup_erase]
  · rw [if_neg hk, AList.lookup_erase_ne hk]

/-- Looking up in a union, whose first map wins. -/
theorem lookup_union_eq (m m' : Map κ ν) (k : κ) :
    (m ∪ m').lookup k = (m.lookup k).or (m'.lookup k) := by
  cases hLookup : m.lookup k with
  | none =>
    rw [AList.lookup_union_right (AList.lookup_eq_none.mp hLookup), Option.none_or]
  | some v =>
    have hMem : k ∈ m := AList.lookup_isSome.mp (by rw [hLookup, Option.isSome_some])
    rw [AList.lookup_union_left hMem, hLookup, Option.some_or]

/-- A fold whose step changes the entry of the record's key only, by `entry`:
each key ends up with the fold of its own records. -/
theorem lookup_foldl {ρ : Type} {key : ρ → κ} {entry : Option ν → ρ → Option ν}
    {step : Map κ ν → ρ → Map κ ν}
    (hStep : ∀ m r k, (step m r).lookup k = if k = key r then entry (m.lookup k) r else m.lookup k)
    (records : List ρ) (m : Map κ ν) (k : κ) :
    (records.foldl step m).lookup k =
      (records.filter fun r => key r = k).foldl entry (m.lookup k) := by
  induction records generalizing m with
  | nil => rfl
  | cons r rest ih =>
    rw [List.foldl_cons, ih, hStep, List.filter_cons]
    by_cases hKey : key r = k
    · rw [if_pos hKey.symm, if_pos (decide_eq_true hKey), List.foldl_cons]
    · rw [if_neg fun h => hKey h.symm, if_neg (by simpa using hKey)]

end Map

end Assoc
