/-!
# `Keyed` — entries under pairwise different keys

A finite map that remembers the order in which its keys were first inserted. Inserting under a key that
is present replaces the value and leaves the key in its place; a new key goes to the end.

## Contents
- `Keyed`, with `empty`, `insert`, `erase`, `find?`, `keys`, `size`.
- The view `find?`: one equation per operation (`find?_empty`, `find?_insert`, `find?_erase`).
- `keys_insert`: the order law.
- `Keyed.agrees`: two maps answer alike under every key, whatever the order of their entries.
-/

namespace DeviceMessaging

/-! ## Lists of entries -/

section Entries

variable {κ α : Type} [DecidableEq κ]

/-- Puts `v` under `k`: in the place of the old value if there is one, else at the end. -/
def putEntry (k : κ) (v : α) : List (κ × α) → List (κ × α)
  | [] => [(k, v)]
  | e :: es => if e.1 = k then (k, v) :: es else e :: putEntry k v es

theorem keys_putEntry (k : κ) (v : α) (es : List (κ × α)) :
    (putEntry k v es).map Prod.fst =
      if k ∈ es.map Prod.fst then es.map Prod.fst else es.map Prod.fst ++ [k] := by
  induction es with
  | nil => simp [putEntry]
  | cons e es ih =>
      by_cases h : e.1 = k
      · simp [putEntry, h]
      · by_cases hk : k ∈ es.map Prod.fst
        · simp only [putEntry, h, if_false, List.map_cons, ih, hk, if_true, List.mem_cons, or_true]
        · have hne : ¬k = e.1 := fun hc => h hc.symm
          simp only [putEntry, h, if_false, List.map_cons, ih, hk, List.mem_cons, hne, or_self,
            List.cons_append]

theorem nodup_keys_putEntry {k : κ} {v : α} {es : List (κ × α)} (h : (es.map Prod.fst).Nodup) :
    ((putEntry k v es).map Prod.fst).Nodup := by
  rw [keys_putEntry]
  split
  · exact h
  · next hk =>
      rw [List.nodup_append]
      refine ⟨h, by simp, ?_⟩
      intro a ha b hb hab
      rw [List.mem_singleton] at hb
      exact hk (hb ▸ hab ▸ ha)

theorem lookup_cons_eq_ite (k : κ) (e : κ × α) (es : List (κ × α)) :
    (e :: es).lookup k = if k = e.1 then some e.2 else es.lookup k := by
  split
  · next hk => rw [hk, List.lookup_cons_self]
  · next hk => rw [List.lookup_cons, beq_false_of_ne hk]

theorem lookup_putEntry (k n : κ) (v : α) (es : List (κ × α)) :
    (putEntry k v es).lookup n = if n = k then some v else es.lookup n := by
  induction es with
  | nil => exact lookup_cons_eq_ite n (k, v) []
  | cons e es ih =>
      by_cases hk : e.1 = k
      · rw [putEntry, if_pos hk, lookup_cons_eq_ite, lookup_cons_eq_ite, hk]
        split <;> rfl
      · rw [putEntry, if_neg hk, lookup_cons_eq_ite, lookup_cons_eq_ite, ih]
        by_cases hn : n = e.1
        · have hnk : n ≠ k := fun hc => hk (hn.symm.trans hc)
          rw [if_pos hn, if_neg hnk, if_pos hn]
        · rw [if_neg hn, if_neg hn]

theorem lookup_filter_ne (k n : κ) (es : List (κ × α)) :
    (es.filter fun e => decide (e.1 ≠ k)).lookup n = if n = k then none else es.lookup n := by
  split
  · next hn =>
      rw [List.lookup_eq_none_iff]
      intro e he
      have hne : e.1 ≠ k := of_decide_eq_true (List.mem_filter.mp he).2
      exact bne_iff_ne.mpr (hn ▸ hne.symm)
  · next hn =>
      induction es with
      | nil => rfl
      | cons e es ih =>
          rw [lookup_cons_eq_ite]
          by_cases hk : e.1 = k
          · have hne : n ≠ e.1 := fun hc => hn (hc.trans hk)
            rw [List.filter_cons_of_neg (by simp [hk]), if_neg hne, ih]
          · rw [List.filter_cons_of_pos (by simp [hk]), lookup_cons_eq_ite, ih]

end Entries

/-! ## The map -/

/-- Entries with pairwise different keys, in the order in which the keys were first inserted. -/
@[ext] structure Keyed (κ α : Type) where
  entries : List (κ × α)
  distinct : (entries.map Prod.fst).Nodup

namespace Keyed

variable {κ α : Type} [DecidableEq κ]

instance [DecidableEq α] : DecidableEq (Keyed κ α) := fun a b =>
  decidable_of_iff (a.entries = b.entries) Keyed.ext_iff.symm

/-- The map without entries. -/
def empty : Keyed κ α := ⟨[], by simp⟩

instance : Inhabited (Keyed κ α) := ⟨empty⟩

/-- Puts `v` under `k`; a key that is present keeps its place. -/
def insert (m : Keyed κ α) (k : κ) (v : α) : Keyed κ α :=
  ⟨putEntry k v m.entries, nodup_keys_putEntry m.distinct⟩

/-- Removes the entry under `k`, if there is one. -/
def erase (m : Keyed κ α) (k : κ) : Keyed κ α :=
  ⟨m.entries.filter fun e => decide (e.1 ≠ k),
    m.distinct.sublist ((List.filter_sublist (l := m.entries)).map Prod.fst)⟩

/-- The map that the pairs build, inserted one after the other. -/
def ofList (pairs : List (κ × α)) : Keyed κ α := pairs.foldl (fun m e => m.insert e.1 e.2) empty

/-- The value under `k`. -/
def find? (m : Keyed κ α) (k : κ) : Option α := m.entries.lookup k

/-- The keys, in the order of their first insertion. -/
def keys (m : Keyed κ α) : List κ := m.entries.map Prod.fst

/-- Whether there is an entry under `k`. -/
def contains (m : Keyed κ α) (k : κ) : Bool := (m.find? k).isSome

/-- The number of entries. -/
def size (m : Keyed κ α) : Nat := m.entries.length

/-- Whether there is no entry. -/
def isEmpty (m : Keyed κ α) : Bool := m.entries.isEmpty

/-- Whether two maps answer alike under every key. -/
def agrees [DecidableEq α] (a b : Keyed κ α) : Bool :=
  (a.keys ++ b.keys).all fun k => a.find? k == b.find? k

/-! ## The view `find?` -/

@[simp] theorem find?_empty (k : κ) : (empty : Keyed κ α).find? k = none := rfl

@[simp] theorem find?_insert (m : Keyed κ α) (k n : κ) (v : α) :
    (m.insert k v).find? n = if n = k then some v else m.find? n := lookup_putEntry k n v m.entries

@[simp] theorem find?_erase (m : Keyed κ α) (k n : κ) :
    (m.erase k).find? n = if n = k then none else m.find? n := lookup_filter_ne k n m.entries

theorem find?_eq_none_iff {m : Keyed κ α} {k : κ} : m.find? k = none ↔ k ∉ m.keys := by
  simp only [find?, keys, List.lookup_eq_none_iff, List.mem_map, bne_iff_ne]
  exact ⟨fun h ⟨e, he, hk⟩ => h e he hk.symm, fun h e he hk => h ⟨e, he, hk.symm⟩⟩

/-! ## The order of the keys -/

omit [DecidableEq κ] in
@[simp] theorem keys_empty : (empty : Keyed κ α).keys = [] := rfl

@[simp] theorem keys_insert (m : Keyed κ α) (k : κ) (v : α) :
    (m.insert k v).keys = if k ∈ m.keys then m.keys else m.keys ++ [k] :=
  keys_putEntry k v m.entries

omit [DecidableEq κ] in
theorem nodup_keys (m : Keyed κ α) : m.keys.Nodup := m.distinct

omit [DecidableEq κ] in
theorem length_keys (m : Keyed κ α) : m.keys.length = m.size := by simp [keys, size]

/-! ## Agreement -/

theorem agrees_iff [DecidableEq α] {a b : Keyed κ α} :
    a.agrees b = true ↔ ∀ k, a.find? k = b.find? k := by
  constructor
  · intro h k
    simp only [agrees, List.all_eq_true, beq_iff_eq] at h
    by_cases hk : k ∈ a.keys ++ b.keys
    · exact h k hk
    · simp only [List.mem_append, not_or] at hk
      rw [find?_eq_none_iff.mpr hk.1, find?_eq_none_iff.mpr hk.2]
  · intro h
    simp [agrees, h]

end Keyed

end DeviceMessaging
