/-
# Entries with one value for each key

Writing never gives a key a second place, so entries that are written pair by pair have pairwise
distinct keys (`nodup_keys_ofPairs`). Pairs whose keys are distinct are already such entries
(`ofPairs_of_nodup`), and a look-up in entries with distinct keys finds just what stands in them
(`get?_eq_some`).
-/

import FormDispatch.Entries

namespace FormDispatch
namespace Entries

variable {α : Type} {m : Entries α} {key : String} {value : α}

/-- What is found stands in the entries. -/
theorem mem_of_get? (h : m.get? key = some value) : (key, value) ∈ m := by
  induction m with
  | nil => cases h
  | cons p rest ih =>
    obtain ⟨k, v⟩ := p
    unfold get? at h
    split at h
    · next hk =>
      cases h
      simp [hk]
    · exact List.mem_cons_of_mem _ (ih h)

/-- Where keys are distinct, what stands in the entries is found. -/
theorem get?_eq_some (h : m.keys.Nodup) : m.get? key = some value ↔ (key, value) ∈ m := by
  refine ⟨mem_of_get?, fun hmem => ?_⟩
  induction m with
  | nil => cases hmem
  | cons p rest ih =>
    obtain ⟨hp, hrest⟩ := List.nodup_cons.1 h
    rcases List.mem_cons.1 hmem with rfl | hmem
    · simp [get?]
    · have hkey : p.1 ≠ key := fun e => hp (e ▸ List.mem_map_of_mem hmem)
      simp [get?, hkey, ih hrest hmem]

/-- Where keys are distinct, the order of the entries does not matter. -/
theorem get?_perm {other : Entries α} (h : m.keys.Nodup) (hperm : m.Perm other) (key : String) :
    m.get? key = other.get? key := by
  have hother : other.keys.Nodup := (hperm.map Prod.fst).nodup h
  refine Option.ext fun value => ?_
  rw [get?_eq_some h, get?_eq_some hother, hperm.mem_iff]

/-- Values that are changed in their places are found changed. -/
theorem get?_map {β : Type} (f : α → β) (m : Entries α) (key : String) :
    get? (m.map fun e => (e.1, f e.2)) key = (m.get? key).map f := by
  induction m with
  | nil => rfl
  | cons p rest ih =>
    by_cases hp : p.1 = key
    · simp [get?, hp]
    · simp [get?, hp, ih]

/-- A key that is not there gets a place at the end. -/
theorem put_of_not_mem (h : key ∉ m.keys) : m.put key value = m ++ [(key, value)] := by
  induction m with
  | nil => rfl
  | cons p rest ih =>
    rw [keys, List.map_cons, List.mem_cons, not_or] at h
    simp [put, Ne.symm h.1, ih h.2]

/-- A key that is there keeps its place. -/
theorem keys_put_of_mem (h : key ∈ m.keys) : (m.put key value).keys = m.keys := by
  induction m with
  | nil => cases h
  | cons p rest ih =>
    by_cases hp : p.1 = key
    · simp [put, keys, hp]
    · have hrest : key ∈ keys rest := by
        rw [keys, List.map_cons, List.mem_cons] at h
        exact h.resolve_left (Ne.symm hp)
      have hkeys := ih hrest
      simp only [keys] at hkeys
      simp [put, keys, hp, hkeys]

/-- The keys after a write are those before and the one that is written. -/
theorem mem_keys_put {other : String} :
    other ∈ (m.put key value).keys ↔ other ∈ m.keys ∨ other = key := by
  by_cases h : key ∈ m.keys
  · rw [keys_put_of_mem h]
    exact ⟨.inl, fun hother => hother.elim id fun e => e ▸ h⟩
  · rw [put_of_not_mem h]
    simp [keys]

/-- What stands in the entries after a write stood there before or is what is written. -/
theorem eq_or_mem_of_mem_put {e : String × α} (h : e ∈ m.put key value) :
    e = (key, value) ∨ e ∈ m := by
  induction m with
  | nil => exact .inl (List.mem_singleton.mp h)
  | cons p rest ih =>
    unfold put at h
    split at h
    · next hp =>
      rcases List.mem_cons.mp h with rfl | hrest
      · exact .inl (by rw [hp])
      · exact .inr (List.mem_cons_of_mem _ hrest)
    · rcases List.mem_cons.mp h with rfl | hrest
      · exact .inr List.mem_cons_self
      · exact (ih hrest).imp_right (List.mem_cons_of_mem _)

/-- Distinct keys stay distinct. -/
theorem nodup_keys_put (h : m.keys.Nodup) : (m.put key value).keys.Nodup := by
  by_cases hkey : key ∈ m.keys
  · rwa [keys_put_of_mem hkey]
  · rw [put_of_not_mem hkey, keys, List.map_append]
    refine List.nodup_append.2 ⟨h, by simp, ?_⟩
    rintro k hk _ hother rfl
    rw [List.map_singleton, List.mem_singleton] at hother
    subst hother
    exact hkey hk

section Pairs

variable {pairs : List (String × α)}

/-- What is found after pairs are written is one of them, or was there before. -/
private theorem mem_of_get?_foldl (m : Entries α)
    (h : (pairs.foldl (fun m p => m.put p.1 p.2) m).get? key = some value) :
    (key, value) ∈ pairs ∨ m.get? key = some value := by
  induction pairs generalizing m with
  | nil => exact .inr h
  | cons p rest ih =>
    rcases ih _ h with hrest | hput
    · exact .inl (List.mem_cons_of_mem _ hrest)
    · dsimp only at hput
      by_cases hp : p.1 = key
      · rw [hp, get?_put_self] at hput
        cases hput
        exact .inl (by simp [← hp])
      · exact .inr (by rwa [get?_put_of_ne _ _ hp] at hput)

/-- What is found in entries written pair by pair is one of the pairs. -/
theorem mem_of_get?_ofPairs (h : (ofPairs pairs).get? key = some value) : (key, value) ∈ pairs :=
  (mem_of_get?_foldl [] h).resolve_right nofun

private theorem mem_keys_foldl (m : Entries α)
    (h : key ∈ m.keys ∨ key ∈ pairs.map Prod.fst) :
    key ∈ keys (pairs.foldl (fun m p => m.put p.1 p.2) m) := by
  induction pairs generalizing m with
  | nil => exact h.resolve_right List.not_mem_nil
  | cons p rest ih =>
    refine ih _ ?_
    rw [mem_keys_put]
    rcases h with h | h
    · exact .inl (.inl h)
    · exact (List.mem_cons.1 h).imp .inr id

/-- Every key of the pairs is one of the entries written pair by pair. -/
theorem mem_keys_ofPairs (h : key ∈ pairs.map Prod.fst) : key ∈ (ofPairs pairs).keys :=
  mem_keys_foldl [] (.inr h)

private theorem foldl_put_of_nodup (m : Entries α) (h : (m.keys ++ pairs.map Prod.fst).Nodup) :
    pairs.foldl (fun m p => m.put p.1 p.2) m = m ++ pairs := by
  induction pairs generalizing m with
  | nil => simp
  | cons p rest ih =>
    have hp : p.1 ∉ m.keys := by
      intro hmem
      exact (List.nodup_append.1 h).2.2 _ hmem p.1 (by simp) rfl
    rw [List.foldl_cons, put_of_not_mem hp, ih _ (by simpa [keys] using h)]
    simp

/-- Pairs with distinct keys are entries as they are. -/
theorem ofPairs_of_nodup (h : (pairs.map Prod.fst).Nodup) : ofPairs pairs = pairs :=
  foldl_put_of_nodup [] (by simpa [keys] using h)

private theorem nodup_keys_foldl (m : Entries α) (h : m.keys.Nodup) :
    (pairs.foldl (fun m p => m.put p.1 p.2) m).keys.Nodup := by
  induction pairs generalizing m with
  | nil => exact h
  | cons p rest ih => exact ih _ (nodup_keys_put h)

/-- Entries written pair by pair have distinct keys. -/
theorem nodup_keys_ofPairs (pairs : List (String × α)) : (ofPairs pairs).keys.Nodup :=
  nodup_keys_foldl [] List.nodup_nil

end Pairs
end Entries
end FormDispatch
