import DeviceMessaging.Proofs.Job.Renaming
import DeviceMessaging.Proofs.Pool.Log

/-!
# `Proofs.Pool.Interference` — jobs in a pool do not interfere

A self-contained job does in a pool of many what it does alone, whatever is done to the other slots
meanwhile. Only its spans have other numbers. The proof relates the two pools step by step: a move of the
slot itself happens in both, and any other move only shifts the numbers that are still to come.

## Contents
- `Running.touched_move`, `Running.move_alike`: one move of one job.
- `Pool.Alike`, with `alike_ofJobs`, `Alike.step_own` and `Alike.step_other`.
- `Pool.Undisturbed` and `exists_undisturbed`: whole schedules.
- `Undisturbed.about`, `Undisturbed.spanView?`: the spans of the slot in the shared journal.
- `sight_eq_alone`, `apart_of_selfContained`: a slot of a pool of jobs.
-/

namespace DeviceMessaging

variable {α : Type} (tracing : Tracing)

/-! ## One move of one job -/

/-- The spans that the job in a slot holds. -/
def heldIn : Option (Running α) → List OpenSpan
  | some r => r.held
  | none => []

/-- A move is only about spans that the job holds or opens. -/
theorem Running.touched_move (r : Running α) (next : Nat) (m : Pool.Move) {n : Nat}
    (h : (∃ e ∈ (r.move tracing next m).2.2, n ∈ e.spans) ∨
      n ∈ numbers (heldIn (r.move tracing next m).2.1)) :
    Job.Touched r.held next (Journal.spansOpened (r.move tracing next m).2.2) n := by
  cases m with
  | drop i =>
      refine .inl ?_
      rcases h with h | h
      · exact spans_closings r.held ▸ List.mem_flatMap.mpr h
      · exact absurd h List.not_mem_nil
  | poll i =>
      have htouched := @Job.touched_advance α tracing r.job r.held next n
      simp only [Running.move, poll] at h ⊢
      cases hpoll : r.job.advance tracing [] r.held next with
      | mk entries progress =>
          rw [hpoll] at h htouched
          cases progress with
          | pending rest =>
              refine htouched (List.mem_append.mpr (h.imp_left List.mem_flatMap.mpr))
          | finished a =>
              refine htouched (List.mem_append.mpr (h.imp_left List.mem_flatMap.mpr))

/-- Slots that hold the same self-contained job, or none; the first one holds spans below `bound` only. -/
inductive SameSlot (ρ : Nat → Nat) (bound : Nat) : Option (Running α) → Option (Running α) → Prop where
  | empty : SameSlot ρ bound none none
  | held {r r' : Running α} (job : r'.job = r.job) (contained : r.job.SelfContained)
      (numbers_eq : numbers r'.held = (numbers r.held).map ρ)
      (below : ∀ n ∈ numbers r.held, n < bound) : SameSlot ρ bound (some r) (some r')

theorem SameSlot.congr {ρ σ : Nat → Nat} {bound : Nat} {slot slot' : Option (Running α)}
    (h : SameSlot ρ bound slot slot') (hσ : ∀ n < bound, σ n = ρ n) : SameSlot σ bound slot slot' := by
  cases h with
  | empty => exact .empty
  | held job contained hnumbers below =>
      refine .held job contained ?_ below
      rw [hnumbers]
      exact List.map_congr_left fun n hn => (hσ n (below n hn)).symm

/-- The same move of the same job, under other numbers. -/
theorem Running.move_alike {ρ : Nat → Nat} {next next' : Nat} {r r' : Running α}
    (hsame : SameSlot ρ next (some r) (some r')) (hnext : ∀ k, ρ (next + k) = next' + k)
    (m : Pool.Move) :
    (r'.move tracing next' m).1 = (r.move tracing next m).1 ∧
      (r'.move tracing next' m).2.2 = (r.move tracing next m).2.2.map (Entry.rename tracing.ids ρ) ∧
      SameSlot ρ (next + Journal.spansOpened (r.move tracing next m).2.2) (r.move tracing next m).2.1
        (r'.move tracing next' m).2.1 := by
  cases hsame with
  | held job contained hnumbers below =>
      cases m with
      | drop i => exact ⟨rfl, closings_rename tracing hnumbers, .empty⟩
      | poll i =>
          have hbelow : ∀ n ∈ numbers (Job.heldAfter (r.job.advance tracing [] r.held next).2),
              n < next + Journal.spansOpened (r.job.advance tracing [] r.held next).1 := by
            intro n hn
            rcases Job.touched_advance tracing r.job (List.mem_append_right _ hn) with h | h
            · exact Nat.lt_of_lt_of_le (below n h) (Nat.le_add_right _ _)
            · exact h.2
          obtain ⟨hentries, hprogress⟩ := Job.advance_rename tracing contained hnumbers hnext
          simp only [Running.move, poll, job]
          generalize r.job.advance tracing [] r.held next = run at *
          generalize r.job.advance tracing [] r'.held next' = run' at *
          obtain ⟨entries, progress⟩ := run
          obtain ⟨entries', progress'⟩ := run'
          cases hprogress with
          | pending job contained held => exact ⟨rfl, hentries, .held job contained held hbelow⟩
          | finished a => exact ⟨rfl, hentries, .empty⟩

/-! ## One move of a pool -/

namespace Pool

/-- Slot `i` of the pool `p` and the only slot of the pool `q` have come equally far. The numbering `ρ`
gives to the spans of `q`, past and to come, their numbers in `p`; no other slot of `p` holds one of them. -/
structure Alike (i : Nat) (ρ : Nat → Nat) (p q : Pool α) : Prop where
  increasing : ∀ {m n}, m < n → ρ m < ρ n
  next : ∀ k, ρ (q.journal.spansOpened + k) = p.journal.spansOpened + k
  slot : ∃ slot slot', q.slots[0]? = some slot ∧ p.slots[i]? = some slot' ∧
    SameSlot ρ q.journal.spansOpened slot slot'
  apart : ∀ {j r}, j ≠ i → p.slots[j]? = some (some r) →
    ∀ m ∈ numbers r.held, m < p.journal.spansOpened ∧ ∀ n, ρ n ≠ m

/-- A deed of slot `i` under other numbers. -/
def Deed.renamed (ρ : Nat → Nat) (i : Nat) (d : Deed α) : Deed α :=
  ⟨i, d.outcome, d.entries.map (Entry.rename tracing.ids ρ)⟩

/-- **A move of the slot itself** is the same move alone. -/
theorem Alike.step_own {i : Nat} {ρ : Nat → Nat} {p q : Pool α} (h : Alike i ρ p q) {m : Move}
    (hm : m.slot = i) :
    Alike i ρ (p.step tracing m).2 (q.step tracing (m.onto 0)).2 ∧
      p.deed tracing m = (q.deed tracing (m.onto 0)).renamed tracing ρ i ∧
      ∀ e ∈ (q.deed tracing (m.onto 0)).entries, ∀ n ∈ e.spans,
        n < (q.step tracing (m.onto 0)).2.journal.spansOpened := by
  obtain ⟨slot, slot', hq, hp, hsame⟩ := h.slot
  rw [← hm] at hp
  have hq : q.slots[(m.onto 0).slot]? = some slot := by rw [Move.slot_onto]; exact hq
  cases hsame with
  | empty =>
      rw [step_of_over tracing hp, step_of_over tracing hq, deed_of_over tracing hp,
        deed_of_over tracing hq]
      refine ⟨h, ?_, ?_⟩
      · rw [hm]
        rfl
      · intro e he
        exact absurd he List.not_mem_nil
  | @held r r' job contained hnumbers below =>
      obtain ⟨houtcome, hentries, hslot⟩ :=
        Running.move_alike tracing (.held job contained hnumbers below) h.next m
      have htouched := @Running.touched_move α tracing r q.journal.spansOpened m
      rw [step_of_held tracing hp, step_of_held tracing hq, deed_of_held tracing hp,
        deed_of_held tracing hq, Running.move_onto]
      generalize r.move tracing q.journal.spansOpened m = move at *
      generalize r'.move tracing p.journal.spansOpened m = move' at *
      obtain ⟨outcome, left, entries⟩ := move
      obtain ⟨outcome', left', entries'⟩ := move'
      refine ⟨⟨h.increasing, ?_, ⟨left, left', ?_, ?_, ?_⟩, ?_⟩, ?_, ?_⟩
      · intro k
        rw [spansOpened_put, spansOpened_put, Nat.add_assoc, h.next, hentries,
          Journal.spansOpened_rename, Nat.add_assoc]
      · simpa only [Move.slot_onto] using slots_put_self hq _ _
      · exact hm ▸ slots_put_self hp _ _
      · rw [spansOpened_put]
        exact hslot
      · intro j s hj hs n hn
        rw [slots_put_of_ne (hm ▸ hj)] at hs
        obtain ⟨hlt, hne⟩ := h.apart hj hs n hn
        refine ⟨?_, hne⟩
        rw [spansOpened_put]
        omega
      · rw [houtcome, hentries, hm]
        rfl
      · intro e he n hn
        rw [spansOpened_put]
        rcases htouched (.inl ⟨e, he, hn⟩) with hheld | hopened
        · exact Nat.lt_of_lt_of_le (below n hheld) (Nat.le_add_right _ _)
        · exact hopened.2

/-- The numbering after others opened `opened` spans, when `ρ` had numbered those below `a`. -/
def shifted (a opened : Nat) (ρ : Nat → Nat) (n : Nat) : Nat := if n < a then ρ n else ρ n + opened

theorem shifted_of_lt {a n : Nat} (h : n < a) (opened : Nat) (ρ : Nat → Nat) :
    shifted a opened ρ n = ρ n := if_pos h

theorem shifted_of_le {a n : Nat} (h : a ≤ n) (opened : Nat) (ρ : Nat → Nat) :
    shifted a opened ρ n = ρ n + opened := if_neg (Nat.not_lt.mpr h)

theorem shifted_increasing {ρ : Nat → Nat} (h : ∀ {m n}, m < n → ρ m < ρ n) (a opened : Nat)
    {m n : Nat} (hmn : m < n) : shifted a opened ρ m < shifted a opened ρ n := by
  have hlt := h hmn
  unfold shifted
  split <;> split <;> omega

/-- What another slot touches is none of the spans, however their numbers to come are shifted. -/
theorem Alike.ne_of_touched {i j : Nat} {ρ σ : Nat → Nat} {p q : Pool α} (h : Alike i ρ p q)
    (hj : j ≠ i) {r : Running α} (hr : p.slots[j]? = some (some r)) {opened n : Nat}
    (hn : Job.Touched r.held p.journal.spansOpened opened n)
    (hbelow : ∀ k < q.journal.spansOpened, σ k = ρ k)
    (habove : ∀ k, q.journal.spansOpened ≤ k → ρ k + opened ≤ σ k) (k : Nat) : σ k ≠ n := by
  rcases Nat.lt_or_ge k q.journal.spansOpened with hk | hk
  · -- a span of the past: numbered before the move, and not held by slot `j`
    rw [hbelow k hk]
    have hfirst := h.next 0
    have hlt := h.increasing hk
    rcases hn with hn | ⟨hle, -⟩
    · exact (h.apart hj hr n hn).2 k
    · simp only [Nat.add_zero] at hfirst
      omega
  · -- a span to come: numbered behind all that the move opens
    have hnext := h.next (k - q.journal.spansOpened)
    rw [Nat.add_sub_cancel' hk] at hnext
    have hσ := habove k hk
    rcases hn with hn | ⟨-, hlt⟩
    · have hlt := (h.apart hj hr n hn).1
      omega
    · omega

/-- **A move of another slot** shifts the numbers to come, and is about none of the spans. -/
theorem Alike.step_other {i : Nat} {ρ : Nat → Nat} {p q : Pool α} (h : Alike i ρ p q) {m : Move}
    (hm : m.slot ≠ i) :
    ∃ opened,
      Alike i (shifted q.journal.spansOpened opened ρ) (p.step tracing m).2 q ∧
      ∀ σ : Nat → Nat, (∀ n < q.journal.spansOpened, σ n = ρ n) →
        (∀ n, q.journal.spansOpened ≤ n → ρ n + opened ≤ σ n) →
        ∀ e ∈ (p.deed tracing m).entries, ∀ n, σ n ∉ e.spans := by
  have hidle : Alike i (shifted q.journal.spansOpened 0 ρ) p q := by
    have hzero : shifted q.journal.spansOpened 0 ρ = ρ := by
      funext n
      simp [shifted]
    exact hzero.symm ▸ h
  match hp : p.slots[m.slot]? with
  | none =>
      rw [step_of_noSlot tracing hp, deed_of_noSlot tracing hp]
      exact ⟨0, hidle, fun σ _ _ e he => absurd he List.not_mem_nil⟩
  | some none =>
      rw [step_of_over tracing hp, deed_of_over tracing hp]
      exact ⟨0, hidle, fun σ _ _ e he => absurd he List.not_mem_nil⟩
  | some (some r) =>
      have htouched := @Running.touched_move α tracing r p.journal.spansOpened m
      rw [step_of_held tracing hp, deed_of_held tracing hp]
      generalize r.move tracing p.journal.spansOpened m = move at *
      obtain ⟨outcome, left, entries⟩ := move
      have hbelow : ∀ n < q.journal.spansOpened,
          shifted q.journal.spansOpened (Journal.spansOpened entries) ρ n = ρ n := by
        intro n hn
        exact shifted_of_lt hn _ ρ
      have habove : ∀ n, q.journal.spansOpened ≤ n → ρ n + Journal.spansOpened entries ≤
          shifted q.journal.spansOpened (Journal.spansOpened entries) ρ n := by
        intro n hn
        exact Nat.le_of_eq (shifted_of_le hn _ ρ).symm
      refine ⟨Journal.spansOpened entries, ⟨shifted_increasing h.increasing _ _, ?_, ?_, ?_⟩, ?_⟩
      · intro k
        rw [shifted_of_le (Nat.le_add_right _ _), h.next, spansOpened_put, Nat.add_right_comm]
      · obtain ⟨slot, slot', hq, hi, hsame⟩ := h.slot
        exact ⟨slot, slot', hq, (slots_put_of_ne hm.symm _ _).trans hi, hsame.congr hbelow⟩
      · intro j s hj hs n hn
        rw [spansOpened_put]
        by_cases hjm : j = m.slot
        · -- the slot that was moved may hold what it opened just now
          subst hjm
          rw [slots_put_self hp] at hs
          obtain rfl : left = some s := Option.some.inj hs
          have hn := htouched (.inr hn)
          refine ⟨?_, h.ne_of_touched hm hp hn hbelow habove⟩
          rcases hn with hn | ⟨-, hlt⟩
          · exact Nat.lt_of_lt_of_le (h.apart hm hp n hn).1 (Nat.le_add_right _ _)
          · exact hlt
        · rw [slots_put_of_ne hjm] at hs
          exact ⟨Nat.lt_of_lt_of_le (h.apart hj hs n hn).1 (Nat.le_add_right _ _),
            h.ne_of_touched hj hs (.inl hn) hbelow habove⟩
      · intro σ hσ hσ' e he n hn
        have hn := htouched (.inl ⟨e, he, hn⟩)
        exact h.ne_of_touched hm hp hn hσ hσ' n rfl

/-! ## Whole schedules -/

/-- Under a schedule, slot `i` of the pool `p` does what the only slot of `q` does under its own share of
the schedule, with the numbers of the spans renamed; what other slots do is about none of its spans. -/
structure Undisturbed (i : Nat) (ρ : Nat → Nat) (p q : Pool α) (moves : List Move) : Prop where
  increasing : ∀ {m n}, m < n → ρ m < ρ n
  deeds : own i (p.log tracing moves) =
    (q.log tracing (share i moves)).map (Deed.renamed tracing ρ i)
  apart : ∀ d ∈ p.log tracing moves, d.slot ≠ i → ∀ e ∈ d.entries, ∀ n, ρ n ∉ e.spans

theorem Deed.renamed_congr {ρ σ : Nat → Nat} {d : Deed α} (i : Nat)
    (h : ∀ e ∈ d.entries, ∀ n ∈ e.spans, ρ n = σ n) :
    d.renamed tracing ρ i = d.renamed tracing σ i := by
  rw [renamed, renamed, List.map_congr_left fun e he => Entry.rename_congr tracing.ids (h e he)]

/-- **From moves to schedules**: the numbering is settled for the spans of the past, and those to come get
numbers that are at least as high as in the absence of other moves. -/
theorem Alike.exists_undisturbed {i : Nat} {ρ : Nat → Nat} {p q : Pool α} (h : Alike i ρ p q)
    (moves : List Move) :
    ∃ σ : Nat → Nat, (∀ n < q.journal.spansOpened, σ n = ρ n) ∧
      (∀ n, q.journal.spansOpened ≤ n → ρ n ≤ σ n) ∧ Undisturbed tracing i σ p q moves := by
  induction moves generalizing ρ p q with
  | nil =>
      exact ⟨ρ, fun _ _ => rfl, fun _ _ => Nat.le_refl _,
        ⟨h.increasing, rfl, fun d hd => absurd hd List.not_mem_nil⟩⟩
  | cons m ms ih =>
      by_cases hm : m.slot = i
      · -- the move happens in both pools, and the numbering stays
        obtain ⟨hnext, hdeed, hspans⟩ := h.step_own tracing hm
        obtain ⟨σ, hbelow, habove, hrest⟩ := ih hnext
        have hgrow : q.journal.spansOpened ≤ (q.step tracing (m.onto 0)).2.journal.spansOpened := by
          rw [journal_step, Journal.spansOpened_append]
          exact Nat.le_add_right _ _
        refine ⟨σ, ?_, ?_, hrest.increasing, ?_, ?_⟩
        · intro n hn
          exact hbelow n (Nat.lt_of_lt_of_le hn hgrow)
        · intro n hn
          rcases Nat.lt_or_ge n (q.step tracing (m.onto 0)).2.journal.spansOpened with hlt | hge
          · exact Nat.le_of_eq (hbelow n hlt).symm
          · exact habove n hge
        · have hrenamed : (q.deed tracing (m.onto 0)).renamed tracing ρ i =
              (q.deed tracing (m.onto 0)).renamed tracing σ i :=
            Deed.renamed_congr tracing i fun e he n hn => (hbelow n (hspans e he n hn)).symm
          have hslot : (p.deed tracing m).slot = i := hm
          rw [log, own_cons_of_eq hslot, share_cons_of_eq hm, log, List.map_cons, hrest.deeds, hdeed,
            hrenamed]
        · intro d hd hslot
          rw [log, List.mem_cons] at hd
          rcases hd with rfl | hd
          · exact absurd hm hslot
          · exact hrest.apart d hd hslot
      · -- the move happens in the shared pool only, and shifts the numbers to come
        obtain ⟨opened, hnext, hapart⟩ := h.step_other tracing hm
        obtain ⟨σ, hbelow, habove, hrest⟩ := ih hnext
        have hbelow : ∀ n < q.journal.spansOpened, σ n = ρ n := by
          intro n hn
          rw [hbelow n hn, shifted_of_lt hn]
        have habove : ∀ n, q.journal.spansOpened ≤ n → ρ n + opened ≤ σ n := by
          intro n hn
          rw [← shifted_of_le hn]
          exact habove n hn
        refine ⟨σ, hbelow, ?_, hrest.increasing, ?_, ?_⟩
        · intro n hn
          exact Nat.le_trans (Nat.le_add_right _ _) (habove n hn)
        · have hslot : (p.deed tracing m).slot ≠ i := hm
          rw [log, own_cons_of_ne hslot, share_cons_of_ne hm, hrest.deeds]
        · intro d hd hslot
          rw [log, List.mem_cons] at hd
          rcases hd with rfl | hd
          · exact hapart σ hbelow habove
          · exact hrest.apart d hd hslot

/-- Before anything has happened, a slot and its job alone have come equally far. -/
theorem alike_ofJobs {jobs : List (Job α)} {i : Nat} {job : Job α} (hi : jobs[i]? = some job)
    (hjob : job.SelfContained) : Alike i id (ofJobs jobs []) (ofJobs [job] []) where
  increasing := id
  next _ := rfl
  slot := by
    refine ⟨some job.start, some job.start, rfl, ?_, .held rfl hjob rfl ?_⟩
    · simp [ofJobs, hi]
    · exact fun n hn => absurd hn List.not_mem_nil
  apart := by
    intro j r _ hr m hm
    obtain ⟨t, -, ht⟩ := List.getElem?_map ▸ hr |> Option.map_eq_some_iff.mp
    cases ht
    exact absurd hm List.not_mem_nil

/-- **Jobs in a pool do not interfere** with a self-contained one. -/
theorem exists_undisturbed {jobs : List (Job α)} {i : Nat} {job : Job α} (hi : jobs[i]? = some job)
    (hjob : job.SelfContained) (moves : List Move) :
    ∃ ρ, Undisturbed tracing i ρ (ofJobs jobs []) (ofJobs [job] []) moves :=
  let ⟨ρ, _, _, h⟩ := (alike_ofJobs hi hjob).exists_undisturbed tracing moves
  ⟨ρ, h⟩

/-! ## Spans in the shared journal -/

section Views

variable {tracing} {i : Nat} {ρ : Nat → Nat} {p q : Pool α} {moves : List Move}

theorem Undisturbed.injective (h : Undisturbed tracing i ρ p q moves) {m n : Nat} (hmn : ρ m = ρ n) :
    m = n := by
  rcases Nat.lt_trichotomy m n with hlt | heq | hgt
  · have := h.increasing hlt
    omega
  · exact heq
  · have := h.increasing hgt
    omega

theorem Undisturbed.outcomes (h : Undisturbed tracing i ρ p q moves) :
    (own i (p.log tracing moves)).map Deed.outcome =
      (q.log tracing (share i moves)).map Deed.outcome := by
  rw [h.deeds, List.map_map]
  rfl

theorem Undisturbed.entries (h : Undisturbed tracing i ρ p q moves) :
    (own i (p.log tracing moves)).flatMap Deed.entries =
      ((q.log tracing (share i moves)).flatMap Deed.entries).map (Entry.rename tracing.ids ρ) := by
  rw [h.deeds, List.flatMap_map, List.map_flatMap]
  rfl

/-- All that is written about a span of slot `i`, the slot writes itself. -/
theorem Undisturbed.about (h : Undisturbed tracing i ρ p q moves) (n : Nat) :
    Journal.about (ρ n) ((p.log tracing moves).flatMap Deed.entries) =
      (Journal.about n ((q.log tracing (share i moves)).flatMap Deed.entries)).map
        (Entry.rename tracing.ids ρ) := by
  rw [← Journal.about_rename tracing.ids h.injective, ← h.entries]
  have hapart := h.apart
  generalize p.log tracing moves = log at hapart
  induction log with
  | nil => rfl
  | cons d ds ih =>
      have ih := ih fun d' hd' => hapart d' (List.mem_cons_of_mem d hd')
      rw [List.flatMap_cons, Journal.about_append, ih]
      by_cases hd : d.slot = i
      · rw [own_cons_of_eq hd, List.flatMap_cons, Journal.about_append]
      · rw [own_cons_of_ne hd,
          Journal.about_eq_nil fun e he => hapart d List.mem_cons_self hd e he n, List.nil_append]

theorem Undisturbed.spanView? (h : Undisturbed tracing i ρ p q moves) (hp : p.journal = [])
    (hq : q.journal = []) (n : Nat) :
    (p.after tracing moves).journal.spanView? (ρ n) =
      (q.after tracing (share i moves)).journal.spanView? n := by
  rw [journal_after, journal_after, hp, hq, List.nil_append, List.nil_append,
    ← Journal.spanView?_about, h.about, Journal.spanView?_rename tracing.ids h.injective,
    Journal.spanView?_about]

end Views

/-! ## Slots of a shared pool -/

/-- **A job in a pool looks as it looks alone**, when only its own moves are made there. -/
theorem sight_eq_alone {jobs : List (Job α)} {i : Nat} {job : Job α} (hi : jobs[i]? = some job)
    (hjob : job.SelfContained) (moves : List Move) :
    (ofJobs jobs []).sight tracing i moves =
      (ofJobs [job] []).sight tracing 0 (share i moves) := by
  obtain ⟨ρ, h⟩ := exists_undisturbed tracing hi hjob moves
  rw [sight, sight, ownEntries, ownEntries, own_log_share, h.outcomes, h.entries,
    Journal.calls_rename, Journal.openedNumbers_rename, List.map_map]
  congr 1
  exact List.map_congr_left fun n _ => h.spanView? rfl rfl n

/-- **What a slot does is about no span of another**, whatever the two jobs are, as long as one of them is
self-contained. -/
theorem apart_of_selfContained {jobs : List (Job α)} {i : Nat} {job : Job α} (hi : jobs[i]? = some job)
    (hjob : job.SelfContained) (moves : List Move) :
    ∀ d ∈ (ofJobs jobs []).log tracing moves, d.slot ≠ i → ∀ e ∈ d.entries,
      ∀ n ∈ Journal.openedNumbers ((ofJobs jobs []).ownEntries tracing i moves), n ∉ e.spans := by
  obtain ⟨ρ, h⟩ := exists_undisturbed tracing hi hjob moves
  intro d hd hslot e he n hn
  rw [ownEntries, h.entries, Journal.openedNumbers_rename] at hn
  obtain ⟨m, -, rfl⟩ := List.mem_map.mp hn
  exact h.apart d hd hslot e he m


end Pool

end DeviceMessaging
