import DeviceMessaging.Proofs.LastWord
import DeviceMessaging.Proofs.PropertyBag.RoundTrip
import Mathlib.Data.Finset.Card
import Mathlib.Data.List.Forall2

/-!
# `Proofs.PropertyBag.Meaning` — what a query says

A query is read piece by piece, and every piece with a key is a pair. The first pair with a key fixes the
place of the key in the bag, and the last one its value. So everything that can be asked of a bag can be read
off the pairs.

## Contents
- `IsPair`, with `queryPair_eq_iff`: what one piece says.
- `PropertyBag.get?_ofQuery_eq_some_iff`, `PropertyBag.contains_ofQuery_iff`: what the bag says of a key.
- `PropertyBag.holds_last_values`: the bag, read off the pairs.
-/

namespace DeviceMessaging

open Text

/-! ## Pieces -/

/-- What a piece of a query says: its key stands before the first equals sign and its value behind it. A piece
without one is a key with the empty value. -/
def IsPair (piece : String) (p : String × String) : Prop :=
  '=' ∉ p.1.toList ∧ piece = p.1 ++ "=" ++ p.2 ∨ '=' ∉ piece.toList ∧ p = (piece, "")

theorem queryPair_eq_iff {piece : String} {p : String × String} :
    queryPair piece = p ↔ IsPair piece p := by
  constructor
  · rintro rfl
    rcases cut_cases '=' piece with hpiece | ⟨key, value, hkey, rfl⟩
    · rw [queryPair, cut_of_not_mem hpiece, Option.getD_none]
      exact .inr ⟨hpiece, rfl⟩
    · rw [queryPair, cut_append hkey, Option.getD_some]
      exact .inl ⟨hkey, rfl⟩
  · rintro (⟨hkey, rfl⟩ | ⟨hpiece, rfl⟩)
    · exact queryPair_writePair hkey
    · rw [queryPair, cut_of_not_mem hpiece, Option.getD_none]

/-- Every piece of a query is read, and those that have a key count. -/
theorem queryPairs_eq_filter (query : String) :
    ∃ said, List.Forall₂ IsPair (segments '&' query) said ∧
      queryPairs query = said.filter fun p => decide (p.1 ≠ "") := by
  refine ⟨(segments '&' query).map queryPair, ?_, rfl⟩
  rw [List.forall₂_map_right_iff, List.forall₂_same]
  exact fun piece _ => queryPair_eq_iff.mp rfl

namespace PropertyBag

/-! ## Bags -/

/-- The keys of a bag are those of the pairs, each once. -/
theorem keys_ofQuery (query : String) :
    (ofQuery query).properties.keys = ((queryPairs query).map Prod.fst).eraseDups :=
  Keyed.keys_ofList (queryPairs query)

theorem get?_ofQuery_eq_some_iff {query key value : String} :
    (ofQuery query).get? key = some value ↔ LastValue (queryPairs query) key value :=
  Keyed.find?_ofList_eq_some_iff

theorem get?_ofQuery_eq_none_iff {query key : String} :
    (ofQuery query).get? key = none ↔ ∀ value, (key, value) ∉ queryPairs query := by
  show (ofQuery query).properties.find? key = none ↔ _
  rw [Keyed.find?_eq_none_iff, keys_ofQuery, List.mem_eraseDups]
  simp

theorem contains_ofQuery_iff {query key : String} :
    (ofQuery query).contains key = true ↔ ∃ value, (key, value) ∈ queryPairs query := by
  show ((ofQuery query).get? key).isSome = true ↔ _
  rw [Option.isSome_iff_ne_none, ne_eq, get?_ofQuery_eq_none_iff]
  simp

theorem size_ofQuery (query : String) :
    (ofQuery query).size = ((queryPairs query).map Prod.fst).toFinset.card := by
  have hkeys : (ofQuery query).properties.keys.toFinset = ((queryPairs query).map Prod.fst).toFinset := by
    ext key
    rw [List.mem_toFinset, List.mem_toFinset, keys_ofQuery, List.mem_eraseDups]
  rw [← hkeys, List.toFinset_card_of_nodup (ofQuery query).properties.nodup_keys]
  exact (ofQuery query).properties.length_keys.symm

theorem isEmpty_ofQuery_iff {query : String} :
    (ofQuery query).isEmpty = true ↔ queryPairs query = [] := by
  have hsize : (ofQuery query).size = 0 ↔ (ofQuery query).entries = [] := List.length_eq_zero_iff
  show (ofQuery query).entries.isEmpty = true ↔ _
  rw [List.isEmpty_iff, ← hsize, size_ofQuery]
  simp

/-- **A bag holds the last value of every key**, in the order in which the keys first come. It has nothing else,
and its entries can be told apart in writing. -/
theorem holds_last_values (query : String) :
    (∃ said, List.Forall₂ IsPair (segments '&' query) said ∧
      queryPairs query = said.filter fun p => decide (p.1 ≠ "")) ∧
    (ofQuery query).entries.map Prod.fst = ((queryPairs query).map Prod.fst).eraseDups ∧
    (∀ key value, (key, value) ∈ (ofQuery query).entries ↔ LastValue (queryPairs query) key value) ∧
    WellWritten (ofQuery query).entries ∧
    (∀ key value, (ofQuery query).get? key = some value ↔ LastValue (queryPairs query) key value) ∧
    (∀ key, (ofQuery query).get? key = none ↔ ∀ value, (key, value) ∉ queryPairs query) ∧
    (∀ key, (ofQuery query).contains key = true ↔ ∃ value, (key, value) ∈ queryPairs query) ∧
    (ofQuery query).size = ((queryPairs query).map Prod.fst).toFinset.card ∧
    ((ofQuery query).isEmpty = true ↔ queryPairs query = []) := by
  refine ⟨queryPairs_eq_filter query, keys_ofQuery query, fun key value => ?_, wellWritten_ofQuery query,
    fun key value => get?_ofQuery_eq_some_iff, fun key => get?_ofQuery_eq_none_iff,
    fun key => contains_ofQuery_iff, size_ofQuery query, isEmpty_ofQuery_iff⟩
  exact Keyed.mem_entries_iff.trans get?_ofQuery_eq_some_iff

example : (ofQuery "&a=1&b&=x&a=2=3&c=&b=y").entries = [("a", "2=3"), ("b", "y"), ("c", "")] := by decide

end PropertyBag

end DeviceMessaging
