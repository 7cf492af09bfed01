import DeviceMessaging.Proofs.LastWord
import DeviceMessaging.Proofs.Topic.Base

/-!
# `Proofs.PropertyBag.RoundTrip` — taking a bag off a topic and putting it back

A bag that was read from a query keeps two promises: its keys are pairwise different, and no key or value
contains what separates them. The first lets the pairs that it writes build the same bag again, entry by
entry; the second lets the written pairs be read again.

## Contents
- `Keyed.mem_of_mem_ofList`, `Keyed.ofList_entries`: maps and the pairs that build them.
- `WellWritten`, with `wellWritten_ofQuery`: the entries of a bag that was read.
- `queryPairs_query` and `ofQuery_query`: a bag reads back from its own text.
- `PropertyBag.normalize` and `split_appendTo_normal`: splitting and joining undo each other.
-/

namespace DeviceMessaging

open Text

/-! ## Maps and the pairs that build them -/

section Entries

variable {κ α : Type} [DecidableEq κ]

theorem putEntry_of_not_mem {k : κ} (v : α) {es : List (κ × α)} (h : k ∉ es.map Prod.fst) :
    putEntry k v es = es ++ [(k, v)] := by
  induction es with
  | nil => rfl
  | cons e es ih =>
      rw [List.map_cons, List.mem_cons, not_or] at h
      rw [putEntry, if_neg (Ne.symm h.1), ih h.2, List.cons_append]

namespace Keyed

/-- A map holds no more than what it was built from. -/
theorem mem_of_mem_ofList {pairs : List (κ × α)} {e : κ × α} (h : e ∈ (ofList pairs).entries) :
    e ∈ pairs := by
  obtain ⟨before, p, after, rfl, rfl, -⟩ := find?_ofList_eq_some_iff.mp (mem_entries_iff.mp h)
  exact List.mem_append_right before List.mem_cons_self

theorem entries_foldl_insert {pairs : List (κ × α)} {m : Keyed κ α}
    (h : ((m.entries ++ pairs).map Prod.fst).Nodup) :
    (pairs.foldl (fun m p => m.insert p.1 p.2) m).entries = m.entries ++ pairs := by
  induction pairs generalizing m with
  | nil => simp
  | cons p pairs ih =>
      have hfresh : p.1 ∉ m.entries.map Prod.fst := by
        rw [List.map_append, List.map_cons, List.nodup_append] at h
        exact fun hm => h.2.2 _ hm _ (List.mem_cons_self ..) rfl
      have hput : (m.insert p.1 p.2).entries = m.entries ++ [p] := putEntry_of_not_mem p.2 hfresh
      rw [List.foldl_cons, ih (by rwa [hput, List.append_assoc, List.singleton_append]), hput,
        List.append_assoc, List.singleton_append]

/-- **The entries of a map build it again**, in the same order. -/
theorem ofList_entries (m : Keyed κ α) : ofList m.entries = m :=
  Keyed.ext ((entries_foldl_insert (m := empty) m.distinct).trans (List.nil_append _))

end Keyed

end Entries

/-! ## Bags that were read -/

/-- The entries of a bag can be told apart in writing: no key is empty or contains a separator, and no
value contains the one between pairs. -/
def WellWritten (entries : List (String × String)) : Prop :=
  ∀ p ∈ entries, p.1 ≠ "" ∧ '=' ∉ p.1.toList ∧ '&' ∉ p.1.toList ∧ '&' ∉ p.2.toList

/-- The separators that are left in a pair are those of its piece. -/
theorem queryPair_separators {piece : String} (h : '&' ∉ piece.toList) :
    '=' ∉ (queryPair piece).1.toList ∧ '&' ∉ (queryPair piece).1.toList ∧
      '&' ∉ (queryPair piece).2.toList := by
  cases hcut : cut '=' piece with
  | none =>
      rw [queryPair, hcut, Option.getD_none]
      exact ⟨cut_eq_none_iff.mp hcut, h, by simp⟩
  | some p =>
      obtain ⟨hpiece, hkey⟩ := cut_eq_some_iff.mp hcut
      rw [hpiece, List.mem_append, List.mem_cons, not_or, not_or] at h
      rw [queryPair, hcut, Option.getD_some]
      exact ⟨hkey, h.1, h.2.2⟩

theorem wellWritten_queryPairs (query : String) : WellWritten (queryPairs query) := by
  intro p hp
  obtain ⟨hmem, hne⟩ := List.mem_filter.mp hp
  obtain ⟨piece, hpiece, rfl⟩ := List.mem_map.mp hmem
  exact ⟨of_decide_eq_true hne, queryPair_separators (not_mem_of_mem_segments hpiece)⟩

/-- **Bags that were read can be written.** -/
theorem wellWritten_ofQuery (query : String) : WellWritten (PropertyBag.ofQuery query).entries :=
  fun p hp => wellWritten_queryPairs query p (Keyed.mem_of_mem_ofList hp)

/-! ## Reading back what a bag writes -/

/-- A pair as it is written. -/
def writePair (p : String × String) : String := p.1 ++ "=" ++ p.2

theorem queryPair_writePair {p : String × String} (h : '=' ∉ p.1.toList) :
    queryPair (writePair p) = p := by
  have hcut : cut '=' (writePair p) = some (p.1, p.2) := cut_append h
  rw [queryPair, hcut, Option.getD_some]

theorem queryPairs_intercalate {entries : List (String × String)} (h : WellWritten entries) :
    queryPairs ("&".intercalate (entries.map writePair)) = entries := by
  by_cases hne : entries = []
  · subst hne
    decide
  · have hpieces : segments '&' ("&".intercalate (entries.map writePair)) = entries.map writePair := by
      refine segments_intercalate (by simpa using hne) fun w hw => ?_
      obtain ⟨p, hp, rfl⟩ := List.mem_map.mp hw
      simp [writePair, (h p hp).2.2.1, (h p hp).2.2.2]
    have hread : (entries.map writePair).map queryPair = entries := by
      rw [List.map_map]
      exact (List.map_congr_left fun p hp => queryPair_writePair (h p hp).2.1).trans (List.map_id entries)
    rw [queryPairs, hpieces, hread, List.filter_eq_self]
    exact fun p hp => decide_eq_true (h p hp).1

namespace PropertyBag

/-- **A bag reads back from its own text.** -/
theorem ofQuery_query {bag : PropertyBag} (h : WellWritten bag.entries) : ofQuery bag.query = bag := by
  have hpairs : queryPairs bag.query = bag.entries := queryPairs_intercalate h
  rw [ofQuery, hpairs]
  exact congrArg PropertyBag.mk (Keyed.ofList_entries bag.properties)

/-! ## Splitting and joining -/

theorem isEmpty_iff {bag : PropertyBag} : bag.isEmpty = true ↔ bag = empty := by
  constructor
  · intro h
    have hnil : bag.properties.entries = [] := List.isEmpty_iff.mp h
    exact congrArg PropertyBag.mk (Keyed.ext hnil)
  · rintro rfl
    rfl

theorem appendTo_empty (b : String) : empty.appendTo b = b := rfl

theorem appendTo_of_not_isEmpty {bag : PropertyBag} (h : bag.isEmpty = false) (b : String) :
    bag.appendTo b = b ++ "/" ++ "?" ++ bag.query := by
  have hsep : b ++ "/?" = b ++ "/" ++ "?" := by rw [String.append_assoc]; rfl
  rw [appendTo, h, ← hsep]
  rfl

/-- What is joined to a base without a question mark comes off again. -/
theorem split_appendTo {bag : PropertyBag} (hbag : WellWritten bag.entries) {b : String}
    (hb : '?' ∉ b.toList) : split (bag.appendTo b) = (b, bag) := by
  cases hempty : bag.isEmpty with
  | true =>
      rw [isEmpty_iff.mp hempty, appendTo_empty, split_of_not_mem hb]
  | false =>
      have hfront : '?' ∉ (b ++ "/").toList := by simp [hb]
      have hslash : dropLast '/' (b ++ "/") = b := dropLast_append_singleton '/' b
      rw [appendTo_of_not_isEmpty hempty, split_append_query hfront, ofQuery_query hbag, hslash]

theorem wellWritten_split (topic : String) : WellWritten (split topic).2.entries := by
  rcases query_cases topic with h | ⟨front, query, h, rfl⟩
  · rw [split_of_not_mem h]
    exact fun p hp => absurd hp List.not_mem_nil
  · rw [split_append_query h]
    exact wellWritten_ofQuery query

/-- The topic with its bag in its plainest form. -/
def normalize (topic : String) : String := (split topic).2.appendTo (split topic).1

theorem split_normalize (topic : String) : split (normalize topic) = split topic :=
  split_appendTo (wellWritten_split topic) (split_fst topic ▸ not_mem_basePath topic)

/-- **Splitting and joining undo each other**, for every bag that was read and exactly the bases without a
question mark; so topics have a normal form, which tells base and bag. -/
theorem split_appendTo_normal :
    (∀ b query, split ((ofQuery query).appendTo b) = (b, ofQuery query) ↔ '?' ∉ b.toList) ∧
    (∀ topic, split ((split topic).2.appendTo (split topic).1) = split topic) ∧
    (∀ topic, normalize (normalize topic) = normalize topic) ∧
    (∀ topic other, (split topic).1 = (split other).1 ∧ (split topic).2 = (split other).2 ↔
      normalize topic = normalize other) := by
  refine ⟨fun b query => ⟨fun h => ?_, split_appendTo (wellWritten_ofQuery query)⟩, split_normalize,
    fun topic => ?_, fun topic other => ⟨fun h => ?_, fun h => ?_⟩⟩
  · -- what splitting leaves is a base path, and so has no question mark
    have hb : basePath ((ofQuery query).appendTo b) = b := by rw [← split_fst, h]
    exact hb ▸ not_mem_basePath _
  · rw [normalize, split_normalize, ← normalize]
  · rw [normalize, normalize, h.1, h.2]
  · have hsplit : split topic = split other := by
      rw [← split_normalize topic, h, split_normalize]
    exact ⟨congrArg Prod.fst hsplit, congrArg Prod.snd hsplit⟩

example : normalize "a//?x=1&&=z&y&x=?/" = "a//?x=?/&y=" := by decide

end PropertyBag

end DeviceMessaging
