import DeviceMessaging.Keyed
import Mathlib.Data.List.Induction

/-!
# `Proofs.LastWord` — where the last word counts

Steps are taken one after the other, and some of them say something of a matter. When a step that says
something settles the matter, and every other leaves it as it was, then in the end there holds what the last
of them said, and if none did, what held before. Parameters of a topic and names of an endpoint are settled
in this way.

## Contents
- `LastWord`: what the last of a list says, with `lastWord_cons` and `exists_lastWord_or`.
- `shows_foldl`: what holds after all the steps.
- `LastValue`, with `find?_ofList_eq_some_iff` and `keys_ofList`: maps, read off the pairs they are built from.
-/

namespace DeviceMessaging

/-! ## The last word -/

section LastWord

variable {ε β σ : Type} {Says : ε → β → Prop}

/-- The last of `es` that says anything says `b`. -/
def LastWord (Says : ε → β → Prop) (es : List ε) (b : β) : Prop :=
  ∃ before e after, es = before ++ e :: after ∧ Says e b ∧ ∀ e' ∈ after, ∀ b', ¬Says e' b'

theorem lastWord_cons {e : ε} {es : List ε} {b : β} :
    LastWord Says (e :: es) b ↔
      LastWord Says es b ∨ (∀ e' ∈ es, ∀ b', ¬Says e' b') ∧ Says e b := by
  constructor
  · rintro ⟨before, d, after, heq, hd, hafter⟩
    cases before with
    | nil =>
        obtain ⟨rfl, rfl⟩ := List.cons.inj heq
        exact .inr ⟨hafter, hd⟩
    | cons c before =>
        obtain ⟨-, rfl⟩ := List.cons.inj heq
        exact .inl ⟨before, d, after, rfl, hd, hafter⟩
  · rintro (⟨before, d, after, rfl, hd, hafter⟩ | ⟨hsilent, he⟩)
    · exact ⟨e :: before, d, after, rfl, hd, hafter⟩
    · exact ⟨[], e, es, rfl, he, hsilent⟩

/-- Either somebody has the last word, or nothing is said at all. -/
theorem exists_lastWord_or (Says : ε → β → Prop) (es : List ε) :
    (∃ b, LastWord Says es b) ∨ ∀ e ∈ es, ∀ b, ¬Says e b := by
  induction es with
  | nil => exact .inr fun e he => absurd he List.not_mem_nil
  | cons e es ih =>
      rcases ih with ⟨b, hb⟩ | hsilent
      · exact .inl ⟨b, lastWord_cons.mpr (.inl hb)⟩
      · by_cases he : ∃ b, Says e b
        · obtain ⟨b, hb⟩ := he
          exact .inl ⟨b, lastWord_cons.mpr (.inr ⟨hsilent, hb⟩)⟩
        · exact .inr (List.forall_mem_cons.mpr ⟨not_exists.mp he, hsilent⟩)

theorem forall_not_lastWord_iff {es : List ε} :
    (∀ b, ¬LastWord Says es b) ↔ ∀ e ∈ es, ∀ b, ¬Says e b := by
  constructor
  · intro h
    exact (exists_lastWord_or Says es).resolve_left (not_exists.mpr h)
  · rintro h b ⟨before, e, after, rfl, he, -⟩
    exact h e (List.mem_append_right before List.mem_cons_self) b he

/-- **The last word counts**, if every step lets hold what it says, and else what held before. -/
theorem shows_foldl {step : σ → ε → σ} (Shows : σ → β → Prop)
    (hstep : ∀ s e b, Shows (step s e) b ↔ Says e b ∨ (∀ b', ¬Says e b') ∧ Shows s b)
    (es : List ε) (s : σ) (b : β) :
    Shows (es.foldl step s) b ↔ LastWord Says es b ∨ (∀ e ∈ es, ∀ b', ¬Says e b') ∧ Shows s b := by
  induction es generalizing s with
  | nil => simp [LastWord]
  | cons e es ih =>
      -- what the first step says counts only if nothing is said behind it
      rw [List.foldl_cons, ih, hstep, lastWord_cons, List.forall_mem_cons]
      tauto

end LastWord

/-! ## Maps that are built pair by pair -/

section Pairs

variable {κ α : Type} [DecidableEq κ]

/-- The last of the pairs with the key `k` has the value `v`. -/
def LastValue (pairs : List (κ × α)) (k : κ) (v : α) : Prop := LastWord (fun p v => p = (k, v)) pairs v

namespace Keyed

/-- **A map holds the last value of every key.** -/
theorem find?_ofList_eq_some_iff {pairs : List (κ × α)} {k : κ} {v : α} :
    (ofList pairs).find? k = some v ↔ LastValue pairs k v := by
  have hstep : ∀ (m : Keyed κ α) (p : κ × α) (v : α), (m.insert p.1 p.2).find? k = some v ↔
      p = (k, v) ∨ (∀ v', p ≠ (k, v')) ∧ m.find? k = some v := by
    rintro m ⟨k', v'⟩ v
    rw [find?_insert]
    by_cases hk : k = k'
    · simp [hk]
    · simp [hk, Ne.symm hk]
  have hempty : ¬((∀ p ∈ pairs, ∀ v', p ≠ (k, v')) ∧ (empty : Keyed κ α).find? k = some v) := by
    simp
  exact (shows_foldl (fun m v => m.find? k = some v) hstep pairs empty v).trans (or_iff_left hempty)

theorem ofList_concat (pairs : List (κ × α)) (p : κ × α) :
    ofList (pairs ++ [p]) = (ofList pairs).insert p.1 p.2 := by
  rw [ofList, List.foldl_append]
  rfl

/-- **The keys of a map** stand in the order in which they first come. -/
theorem keys_ofList (pairs : List (κ × α)) : (ofList pairs).keys = (pairs.map Prod.fst).eraseDups := by
  induction pairs using List.reverseRecOn with
  | nil => rfl
  | append_singleton pairs p ih =>
      have hmem : p.1 ∈ (pairs.map Prod.fst).eraseDups ↔ p.1 ∈ pairs.map Prod.fst := List.mem_eraseDups
      rw [ofList_concat, keys_insert, ih, List.map_append, List.eraseDups_append]
      by_cases hp : p.1 ∈ pairs.map Prod.fst
      · simp [hp, List.removeAll]
      · simp [hp, List.removeAll, List.eraseDups_cons]

theorem mem_entries_iff {m : Keyed κ α} {k : κ} {v : α} : (k, v) ∈ m.entries ↔ m.find? k = some v := by
  constructor
  · intro h
    obtain ⟨before, after, heq⟩ := List.append_of_mem h
    refine List.lookup_eq_some_iff.mpr ⟨before, after, heq, fun e he => bne_iff_ne.mpr fun hk => ?_⟩
    -- two entries under one key
    have hkeys := m.distinct
    rw [heq, List.map_append, List.nodup_append] at hkeys
    exact hkeys.2.2 e.1 (List.mem_map_of_mem he) k List.mem_cons_self hk.symm
  · intro h
    obtain ⟨before, after, heq, -⟩ := List.lookup_eq_some_iff.mp h
    rw [heq]
    exact List.mem_append_right before List.mem_cons_self

end Keyed

end Pairs

end DeviceMessaging
