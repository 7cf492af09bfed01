import DeviceMessaging.Proofs.Job.Reported
import DeviceMessaging.Proofs.Pool.Openings

/-!
# `Proofs.Pool.Reported` — pools whose jobs report a call

Two pools go through the same turns: jobs are taken in, polled and dropped. In the second one every job makes
one call more than in the first, behind a number of suspensions. The pools number their spans alike, the same
comes of every move, and each job of the second pool has made its report once it was polled often enough, and
not before.

## Contents
- `Pool.Turn`, `Pool.history`, `Pool.afterTurns`: pools that take in jobs.
- `Pool.Compared`: what two slots have done, the second of which reports.
- `Pool.Paired`, with `Paired.turn`: two such pools, and what a turn makes of them.
- `Pool.Paired.own_of_same`, `compared_of_due`, `compared_of_taken`: whole histories, slot by slot.
- `Pool.entries_of_unpolled`, `Pool.own_of_silent`: slots that do little.
-/

namespace DeviceMessaging

variable {α : Type} (tracing : Tracing)

namespace Pool

/-! ## Pools that take in jobs -/

section Add

variable (p : Pool α) (job : Job α) {k : Nat}

theorem length_add : (p.add job []).slots.length = p.slots.length + 1 := List.length_append

/-- The slots that there are stay as they are. -/
theorem slots_add_of_lt (h : k < p.slots.length) : (p.add job []).slots[k]? = p.slots[k]? :=
  List.getElem?_append_left h

/-- The new job has the next slot. -/
theorem slots_add_length : (p.add job []).slots[p.slots.length]? = some (some job.start) :=
  List.getElem?_concat_length

theorem slots_add_of_gt (h : p.slots.length < k) : (p.add job []).slots[k]? = none := by
  refine List.getElem?_eq_none ?_
  rw [length_add]
  exact h

end Add

/-- What happens to a pool next. -/
inductive Turn (α : Type) where
  /-- A job is taken in, for a request. -/
  | take (request : Request) (job : Job α)
  | move (move : Move)

/-- The pool after a turn. -/
def turn (p : Pool α) : Turn α → Pool α
  | .take _ job => p.add job []
  | .move m => (p.step tracing m).2

/-- What is done in a turn. -/
def deeds (p : Pool α) : Turn α → List (Deed α)
  | .take _ _ => []
  | .move m => [p.deed tracing m]

/-- What is done in the course of several turns. -/
def history : Pool α → List (Turn α) → List (Deed α)
  | _, [] => []
  | p, t :: ts => p.deeds tracing t ++ history (p.turn tracing t) ts

/-- The pool after several turns. -/
def afterTurns (p : Pool α) (turns : List (Turn α)) : Pool α := turns.foldl (turn tracing) p

/-- The request for which a job is taken in. -/
def Turn.request? : Turn α → Option Request
  | take r _ => some r
  | move _ => none

/-- The requests for which jobs are taken in, in the order of their slots. -/
def requests (turns : List (Turn α)) : List Request := turns.filterMap Turn.request?

theorem history_move (p : Pool α) (moves : List Move) :
    p.history tracing (moves.map .move) = p.log tracing moves := by
  induction moves generalizing p with
  | nil => rfl
  | cons m ms ih =>
      rw [List.map_cons, history, log, ← ih]
      rfl

/-- The history tells all that the journal does. -/
theorem journal_afterTurns (p : Pool α) (turns : List (Turn α)) :
    (p.afterTurns tracing turns).journal =
      p.journal ++ (p.history tracing turns).flatMap Deed.entries := by
  induction turns generalizing p with
  | nil => exact (List.append_nil _).symm
  | cons t ts ih =>
      have hturn : (p.turn tracing t).journal = p.journal ++ (p.deeds tracing t).flatMap Deed.entries := by
        cases t with
        | take r job => rfl
        | move m =>
            show (p.step tracing m).2.journal = p.journal ++ ((p.deed tracing m).entries ++ [])
            rw [journal_step, List.append_nil]
      rw [afterTurns, List.foldl_cons, ← afterTurns, ih, hturn, history, List.flatMap_append,
        List.append_assoc]

/-- Every job that is taken in gets a slot. -/
theorem length_turn (p : Pool α) (t : Turn α) (turns : List (Turn α)) :
    (p.turn tracing t).slots.length + (requests turns).length =
      p.slots.length + (requests (t :: turns)).length := by
  cases t with
  | take r job =>
      show (p.add job []).slots.length + (requests turns).length =
        p.slots.length + ((requests turns).length + 1)
      rw [length_add]
      omega
  | move m => exact congrArg (· + (requests turns).length) (length_step tracing p m)

theorem length_afterTurns (p : Pool α) (turns : List (Turn α)) :
    (p.afterTurns tracing turns).slots.length = p.slots.length + (requests turns).length := by
  induction turns generalizing p with
  | nil => rfl
  | cons t ts ih => rw [afterTurns, List.foldl_cons, ← afterTurns, ih, length_turn]

/-- What is done is done in the slots that there are in the end. -/
theorem slot_of_history {p : Pool α} {turns : List (Turn α)} {d : Deed α}
    (hd : d ∈ p.history tracing turns) {e : Entry} (he : e ∈ d.entries) :
    d.slot < p.slots.length + (requests turns).length := by
  induction turns generalizing p with
  | nil => exact absurd hd List.not_mem_nil
  | cons t ts ih =>
      rw [history] at hd
      rcases List.mem_append.mp hd with hd | hd
      · cases t with
        | take r job => exact absurd hd List.not_mem_nil
        | move m =>
            obtain rfl := List.mem_singleton.mp hd
            obtain ⟨r, hslot, -⟩ := exists_held_of_mem_deed tracing he
            obtain ⟨hlt, -⟩ := List.getElem?_eq_some_iff.mp hslot
            exact Nat.lt_add_right _ hlt
      · have hlater := ih hd
        rwa [length_turn] at hlater

section Slot

variable {p : Pool α} {k : Nat} {m : Move}

theorem own_history_of_eq (h : m.slot = k) (turns : List (Turn α)) :
    own k (p.history tracing (.move m :: turns)) =
      p.deed tracing m :: own k ((p.step tracing m).2.history tracing turns) :=
  own_cons_of_eq h _

theorem own_history_of_ne (h : m.slot ≠ k) (turns : List (Turn α)) :
    own k (p.history tracing (.move m :: turns)) = own k ((p.step tracing m).2.history tracing turns) :=
  own_cons_of_ne h _

end Slot

/-! ## Slots that do little -/

/-- How often the job was polled. -/
def polls (log : List (Deed α)) : Nat := log.countP fun d => d.outcome.isPoll

theorem polls_cons_of_isPoll {d : Deed α} (h : d.outcome.isPoll = true) (log : List (Deed α)) :
    polls (d :: log) = polls log + 1 := List.countP_cons_of_pos h

theorem polls_cons_of_not_isPoll {d : Deed α} (h : d.outcome.isPoll = false) (log : List (Deed α)) :
    polls (d :: log) = polls log := List.countP_cons_of_neg (by rw [h]; exact Bool.false_ne_true)

/-- A job that was never polled has left nothing. -/
theorem entries_of_unpolled {p : Pool α} {k : Nat} {turns : List (Turn α)}
    (hheld : ∀ r, p.slots[k]? = some (some r) → r.held = [])
    (hpolls : polls (own k (p.history tracing turns)) = 0) :
    (own k (p.history tracing turns)).flatMap Deed.entries = [] := by
  induction turns generalizing p with
  | nil => rfl
  | cons t ts ih =>
      cases t with
      | take request job =>
          refine ih (fun r hr => ?_) hpolls
          rcases getElem?_concat_eq_some hr with hold | ⟨-, hnew⟩
          · exact hheld r hold
          · obtain rfl := Option.some.inj hnew
            rfl
      | move m =>
          by_cases hm : m.slot = k
          · rw [own_history_of_eq tracing hm] at hpolls ⊢
            subst hm
            match hslot : p.slots[m.slot]? with
            | none =>
                rw [deed_of_noSlot tracing hslot, step_of_noSlot tracing hslot] at hpolls ⊢
                exact ih hheld hpolls
            | some none =>
                rw [deed_of_over tracing hslot, step_of_over tracing hslot] at hpolls ⊢
                exact ih hheld hpolls
            | some (some r) =>
                cases m with
                | poll i =>
                    have hpoll : (p.deed tracing (.poll i)).outcome.isPoll = true := isPoll_of_held tracing hslot
                    rw [polls_cons_of_isPoll hpoll] at hpolls
                    cases hpolls
                | drop i =>
                    -- the job held nothing, and is gone
                    have hgone : (p.step tracing (.drop i)).2.slots[i]? = some none := by
                      rw [step_of_held tracing hslot]
                      exact slots_put_self hslot _ _
                    rw [deed_of_held tracing hslot] at hpolls ⊢
                    have hnone : (r.move tracing p.journal.spansOpened (.drop i)).2.2 = [] := by
                      show closings r.held = []
                      rw [hheld r hslot]
                      rfl
                    rw [List.flatMap_cons, hnone, List.nil_append]
                    refine ih (fun r' hr' => ?_) hpolls
                    have hboth := hgone.symm.trans hr'
                    cases hboth
          · rw [own_history_of_ne tracing hm] at hpolls ⊢
            refine ih (fun r hr => hheld r ?_) hpolls
            rwa [slots_step_of_ne tracing hm] at hr

/-- **From moves to a slot**: what every move of a job preserves, and what it does then, holds of all that is
done in its slot. -/
theorem own_of_moves {P : Running α → Prop} {Q : Outcome α → List Entry → Prop}
    (hmove : ∀ r next m, P r → Q (r.move tracing next m).1 (r.move tracing next m).2.2 ∧
      ∀ rest, (r.move tracing next m).2.1 = some rest → P rest)
    (hover : Q .over []) {p : Pool α} {k : Nat} (hk : k < p.slots.length)
    (h : ∀ r, p.slots[k]? = some (some r) → P r) (turns : List (Turn α)) :
    ∀ d ∈ own k (p.history tracing turns), Q d.outcome d.entries := by
  induction turns generalizing p with
  | nil => exact fun d hd => absurd hd List.not_mem_nil
  | cons t ts ih =>
      cases t with
      | take request job =>
          -- the new slot is another one
          have hlength : k < (p.add job []).slots.length := by
            rw [length_add]
            omega
          exact ih hlength fun r hr => h r (slots_add_of_lt p job hk ▸ hr)
      | move m =>
          have hlength : k < (p.step tracing m).2.slots.length := by
            rw [length_step]
            exact hk
          by_cases hm : m.slot = k
          · rw [own_history_of_eq tracing hm]
            subst hm
            match hslot : p.slots[m.slot]? with
            | none =>
                rw [List.getElem?_eq_none_iff] at hslot
                omega
            | some none =>
                rw [deed_of_over tracing hslot, step_of_over tracing hslot]
                intro d hd
                rcases List.mem_cons.mp hd with rfl | hd
                · exact hover
                · exact ih hk h d hd
            | some (some r) =>
                obtain ⟨hdone, hleft⟩ := hmove r p.journal.spansOpened m (h r hslot)
                rw [deed_of_held tracing hslot]
                intro d hd
                rcases List.mem_cons.mp hd with rfl | hd
                · exact hdone
                · refine ih hlength (fun rest hrest => hleft rest ?_) d hd
                  rw [step_of_held tracing hslot] at hrest
                  exact Option.some.inj ((slots_put_self hslot _ _).symm.trans hrest)
          · rw [own_history_of_ne tracing hm]
            refine ih hlength fun r hr => h r ?_
            rwa [slots_step_of_ne tracing hm] at hr

/-- Nothing happens in a slot that is empty. -/
theorem own_of_empty {p : Pool α} {k : Nat} (h : p.slots[k]? = some none) (turns : List (Turn α)) :
    ∀ d ∈ own k (p.history tracing turns), d.outcome = .over ∧ d.entries = [] := by
  obtain ⟨hk, -⟩ := List.getElem?_eq_some_iff.mp h
  refine own_of_moves tracing (P := fun _ => False) (Q := fun outcome entries => outcome = .over ∧ entries = [])
    (fun r next m hr => hr.elim) ⟨rfl, rfl⟩ hk (fun r hr => ?_) turns
  cases h.symm.trans hr

/-- A silent job opens and closes spans, and answers nothing but what it ends with. -/
theorem own_of_silent {p : Pool α} {k : Nat} {a : α} {r : Running α} (h : p.slots[k]? = some (some r))
    (hr : r.job.Silent a) (turns : List (Turn α)) :
    ∀ d ∈ own k (p.history tracing turns),
      (∀ e ∈ d.entries, e.isSpan = true) ∧ ∀ b, d.outcome = .finished b → b = a := by
  obtain ⟨hk, -⟩ := List.getElem?_eq_some_iff.mp h
  refine own_of_moves tracing (P := fun r => r.job.Silent a)
    (Q := fun outcome entries => (∀ e ∈ entries, e.isSpan = true) ∧ ∀ b, outcome = .finished b → b = a)
    ?_ ⟨fun e he => absurd he List.not_mem_nil, fun b hb => by cases hb⟩ hk (fun r' hr' => ?_) turns
  · intro r next m hr
    cases m with
    | drop i =>
        refine ⟨⟨fun e he => isSpan_of_mem_closings he, fun b hb => ?_⟩, fun rest hrest => ?_⟩
        · cases hb
        · cases hrest
    | poll i =>
        obtain ⟨hentries, hleft⟩ := Job.Silent.advance tracing [] hr r.held next
        simp only [Running.move, Running.poll]
        generalize r.job.advance tracing [] r.held next = poll at hentries hleft ⊢
        obtain ⟨entries, progress⟩ := poll
        cases progress with
        | pending rest =>
            refine ⟨⟨hentries, fun b hb => ?_⟩, fun rest' hrest => ?_⟩
            · cases hb
            · cases hrest
              exact hleft
        | finished b =>
            refine ⟨⟨hentries, fun b' hb => ?_⟩, fun rest hrest => ?_⟩
            · cases hb
              exact hleft
            · cases hrest
  · cases h.symm.trans hr'
    exact hr

/-! ## Two pools -/

/-- What two slots have done, the second of which reports a call behind `wait` suspensions. -/
structure Compared (C : Call → Prop) (wait : Nat) (log log' : List (Deed α)) : Prop where
  /-- The same comes of every move. -/
  outcomes : log'.map Deed.outcome = log.map Deed.outcome
  /-- Polls that come too early bring neither the call nor a result. -/
  early : polls log ≤ wait → log'.flatMap Deed.entries = log.flatMap Deed.entries ∧
    ∀ a, .finished a ∉ log.map Deed.outcome
  /-- With the next poll the call is made, and never again. -/
  reported : wait < polls log →
    Journal.Reported C (log.flatMap Deed.entries) (log'.flatMap Deed.entries)

namespace Compared

variable {C : Call → Prop} {wait : Nat} {log log' : List (Deed α)} {d : Deed α}

/-- Slots in which nothing is polled. -/
theorem of_idle (h : ∀ d ∈ log, d.outcome.isPoll = false) : Compared C wait log log := by
  have hpolls : polls log = 0 := by
    refine List.countP_eq_zero.mpr fun d hd => ?_
    rw [h d hd]
    exact Bool.false_ne_true
  refine ⟨rfl, fun _ => ⟨rfl, fun a ha => ?_⟩, fun hlt => ?_⟩
  · obtain ⟨d, hd, hfinished⟩ := List.mem_map.mp ha
    have hpoll := h d hd
    rw [hfinished] at hpoll
    cases hpoll
  · rw [hpolls] at hlt
    exact absurd hlt (Nat.not_lt_zero wait)

/-- A move that is no poll makes no difference. -/
theorem skip (hd : d.outcome.isPoll = false) (h : Compared C wait log log') :
    Compared C wait (d :: log) (d :: log') := by
  refine ⟨congrArg (d.outcome :: ·) h.outcomes, fun hle => ?_, fun hlt => ?_⟩
  · rw [polls_cons_of_not_isPoll hd] at hle
    obtain ⟨hentries, hunfinished⟩ := h.early hle
    refine ⟨congrArg (d.entries ++ ·) hentries, fun a ha => ?_⟩
    rcases List.mem_cons.mp ha with ha | ha
    · rw [← ha] at hd
      cases hd
    · exact hunfinished a ha
  · rw [polls_cons_of_not_isPoll hd] at hlt
    exact (h.reported hlt).append_left d.entries

/-- A poll that comes too early is one of those that do. -/
theorem cons_early (hd : d.outcome = .pending) (h : Compared C wait log log') :
    Compared C (wait + 1) (d :: log) (d :: log') := by
  have hpoll : d.outcome.isPoll = true := by
    rw [hd]
    rfl
  refine ⟨congrArg (d.outcome :: ·) h.outcomes, fun hle => ?_, fun hlt => ?_⟩
  · rw [polls_cons_of_isPoll hpoll] at hle
    obtain ⟨hentries, hunfinished⟩ := h.early (Nat.le_of_succ_le_succ hle)
    refine ⟨congrArg (d.entries ++ ·) hentries, fun a ha => ?_⟩
    rcases List.mem_cons.mp ha with ha | ha
    · rw [hd] at ha
      cases ha
    · exact hunfinished a ha
  · rw [polls_cons_of_isPoll hpoll] at hlt
    exact (h.reported (Nat.lt_of_succ_lt_succ hlt)).append_left d.entries

/-- The poll that makes the call; both slots do the same from then on. -/
theorem cons_reported {slot : Nat} {outcome : Outcome α} {entries entries' : List Entry}
    (hpoll : outcome.isPoll = true) (h : Journal.Reported C entries entries') :
    Compared C 0 (⟨slot, outcome, entries⟩ :: log) (⟨slot, outcome, entries'⟩ :: log) := by
  have hone : polls (⟨slot, outcome, entries⟩ :: log) = polls log + 1 := polls_cons_of_isPoll hpoll log
  refine ⟨rfl, fun hle => ?_, fun _ => h.append_right (log.flatMap Deed.entries)⟩
  rw [hone] at hle
  cases hle

/-- What the second slot has written is the report, or was written by the first slot too. -/
theorem mem (h : Compared C wait log log') {e : Entry} (he : e ∈ log'.flatMap Deed.entries) :
    (∃ call scope, C call ∧ e = .called call scope) ∨ e ∈ log.flatMap Deed.entries := by
  rcases Nat.lt_or_ge wait (polls log) with hlt | hle
  · exact (h.reported hlt).mem he
  · rw [(h.early hle).1] at he
    exact .inr he

end Compared

/-- How a slot of the second pool differs from that of the first. -/
inductive SlotsCompare : Option (Option (Running α)) → Option (Option (Running α)) → Prop where
  | same (slot : Option (Option (Running α))) : SlotsCompare slot slot
  /-- The job has yet to make its report. -/
  | due {C : Call → Prop} {wait : Nat} {t t' : Job α} (held : List OpenSpan)
      (h : Job.Reported C wait t t') : SlotsCompare (some (some ⟨t, held⟩)) (some (some ⟨t', held⟩))

/-- The pools are the same but for reports, those that were made and those that are due. -/
structure Paired (p p' : Pool α) : Prop where
  spans : p'.journal.spansOpened = p.journal.spansOpened
  length : p'.slots.length = p.slots.length
  slots : ∀ k : Nat, SlotsCompare p.slots[k]? p'.slots[k]?

/-- What a move makes of two jobs, the second of which reports a call behind `wait` suspensions. -/
inductive MovesCompare (C : Call → Prop) : Nat → Outcome α → Option (Running α) → Option (Running α) →
    List Entry → List Entry → Prop where
  | dropped {wait : Nat} {entries : List Entry} : MovesCompare C wait .dropped none none entries entries
  | early {wait : Nat} {entries : List Entry} {t t' : Job α} {held : List OpenSpan}
      (h : Job.Reported C wait t t') :
      MovesCompare C (wait + 1) .pending (some ⟨t, held⟩) (some ⟨t', held⟩) entries entries
  | reported {outcome : Outcome α} {left : Option (Running α)} {entries entries' : List Entry}
      (polled : outcome.isPoll = true) (h : Journal.Reported C entries entries') :
      MovesCompare C 0 outcome left left entries entries'

theorem MovesCompare.spansOpened_eq {C : Call → Prop} {wait : Nat} {outcome : Outcome α}
    {left left' : Option (Running α)} {entries entries' : List Entry}
    (h : MovesCompare C wait outcome left left' entries entries') :
    Journal.spansOpened entries' = Journal.spansOpened entries := by
  cases h with
  | dropped => rfl
  | early h => rfl
  | reported polled h => exact h.spansOpened_eq

section Paired

variable {tracing} {p p' : Pool α} {m : Move} {k : Nat}

/-- A move of a slot that is the same in both pools. -/
theorem step_of_same (hspans : p'.journal.spansOpened = p.journal.spansOpened)
    (hslot : p'.slots[m.slot]? = p.slots[m.slot]?) :
    p'.deed tracing m = p.deed tracing m ∧
      (p'.step tracing m).2.slots[m.slot]? = (p.step tracing m).2.slots[m.slot]? := by
  match h : p.slots[m.slot]? with
  | none =>
      have h' := hslot.trans h
      rw [deed_of_noSlot tracing h, deed_of_noSlot tracing h', step_of_noSlot tracing h,
        step_of_noSlot tracing h']
      exact ⟨rfl, hslot⟩
  | some none =>
      have h' := hslot.trans h
      rw [deed_of_over tracing h, deed_of_over tracing h', step_of_over tracing h, step_of_over tracing h']
      exact ⟨rfl, hslot⟩
  | some (some r) =>
      have h' := hslot.trans h
      rw [deed_of_held tracing h, deed_of_held tracing h', step_of_held tracing h,
        step_of_held tracing h', hspans]
      exact ⟨rfl, (slots_put_self h' _ _).trans (slots_put_self h _ _).symm⟩

/-- A move of a slot whose job has yet to make its report. -/
theorem step_of_due (hspans : p'.journal.spansOpened = p.journal.spansOpened) {C : Call → Prop}
    {wait : Nat} {t t' : Job α} {held : List OpenSpan} (h : Job.Reported C wait t t')
    (hslot : p.slots[m.slot]? = some (some ⟨t, held⟩)) (hslot' : p'.slots[m.slot]? = some (some ⟨t', held⟩)) :
    ∃ outcome left left' entries entries', MovesCompare C wait outcome left left' entries entries' ∧
      p.deed tracing m = ⟨m.slot, outcome, entries⟩ ∧ p'.deed tracing m = ⟨m.slot, outcome, entries'⟩ ∧
      (p.step tracing m).2.slots[m.slot]? = some left ∧
      (p'.step tracing m).2.slots[m.slot]? = some left' := by
  have hmoves : ∃ outcome left left' entries entries',
      MovesCompare C wait outcome left left' entries entries' ∧
      (⟨t, held⟩ : Running α).move tracing p.journal.spansOpened m = (outcome, left, entries) ∧
      (⟨t', held⟩ : Running α).move tracing p.journal.spansOpened m = (outcome, left', entries') := by
    cases m with
    | drop i => exact ⟨_, _, _, _, _, .dropped, rfl, rfl⟩
    | poll i =>
        have hpolls := h.advance tracing [] held p.journal.spansOpened
        simp only [Running.move, Running.poll]
        generalize t.advance tracing [] held p.journal.spansOpened = poll at hpolls ⊢
        generalize t'.advance tracing [] held p.journal.spansOpened = poll' at hpolls ⊢
        cases hpolls with
        | early hearly => exact ⟨_, _, _, _, _, .early hearly, rfl, rfl⟩
        | @reported entries entries' progress hreported =>
            cases progress with
            | pending rest => exact ⟨_, _, _, _, _, .reported rfl hreported, rfl, rfl⟩
            | finished a => exact ⟨_, _, _, _, _, .reported rfl hreported, rfl, rfl⟩
  obtain ⟨outcome, left, left', entries, entries', hcompare, hmove, hmove'⟩ := hmoves
  refine ⟨outcome, left, left', entries, entries', hcompare, ?_⟩
  rw [deed_of_held tracing hslot, deed_of_held tracing hslot', step_of_held tracing hslot,
    step_of_held tracing hslot', hspans, hmove, hmove']
  exact ⟨rfl, rfl, slots_put_self hslot _ _, slots_put_self hslot' _ _⟩

/-- **One move** of both pools. -/
theorem Paired.step (h : Paired p p') (m : Move) : Paired (p.step tracing m).2 (p'.step tracing m).2 := by
  -- the slot of the move decides about the numbers of spans and about itself
  have hmoved : Journal.spansOpened (p'.deed tracing m).entries = Journal.spansOpened (p.deed tracing m).entries ∧
      SlotsCompare (p.step tracing m).2.slots[m.slot]? (p'.step tracing m).2.slots[m.slot]? := by
    have hslots := h.slots m.slot
    generalize hslot : p.slots[m.slot]? = slot at hslots
    generalize hslot' : p'.slots[m.slot]? = slot' at hslots
    cases hslots with
    | same slot =>
        obtain ⟨hdeed, hleft⟩ := step_of_same h.spans (hslot'.trans hslot.symm)
        rw [hdeed, hleft]
        exact ⟨rfl, .same _⟩
    | due held hdue =>
        obtain ⟨outcome, left, left', entries, entries', hcompare, hdeed, hdeed', hleft, hleft'⟩ :=
          step_of_due h.spans hdue hslot hslot'
        rw [hdeed, hdeed', hleft, hleft']
        refine ⟨hcompare.spansOpened_eq, ?_⟩
        cases hcompare with
        | dropped => exact .same _
        | early hearly => exact .due _ hearly
        | reported polled hreported => exact .same _
  refine ⟨?_, ?_, fun k => ?_⟩
  · rw [journal_step, journal_step, Journal.spansOpened_append, Journal.spansOpened_append, h.spans, hmoved.1]
  · rw [length_step, length_step, h.length]
  · by_cases hk : m.slot = k
    · exact hk ▸ hmoved.2
    · rw [slots_step_of_ne tracing hk, slots_step_of_ne tracing hk]
      exact h.slots k

/-- A job is taken in by both pools. -/
theorem Paired.add (h : Paired p p') {C : Call → Prop} {wait : Nat} {job job' : Job α}
    (hjob : Job.Reported C wait job job') : Paired (p.add job []) (p'.add job' []) := by
  refine ⟨?_, ?_, fun k => ?_⟩
  · show Journal.spansOpened (p'.journal ++ []) = Journal.spansOpened (p.journal ++ [])
    rw [List.append_nil, List.append_nil, h.spans]
  · rw [length_add, length_add, h.length]
  · rcases Nat.lt_trichotomy k p.slots.length with hlt | rfl | hgt
    · rw [slots_add_of_lt p job hlt, slots_add_of_lt p' job' (h.length ▸ hlt)]
      exact h.slots k
    · have hnew := slots_add_length p' job'
      rw [h.length] at hnew
      rw [slots_add_length, hnew]
      exact .due [] hjob
    · rw [slots_add_of_gt p job hgt, slots_add_of_gt p' job' (h.length ▸ hgt)]
      exact .same none

end Paired

/-! ## Histories of two pools -/

/-- The turns are the same, but for the jobs that are taken in by the second pool: these report the call of a
ready instance at their first poll. -/
inductive TurnsCompare : List (Turn α) → List (Turn α) → Prop where
  | nil : TurnsCompare [] []
  | take {r : Request} {job job' : Job α} {turns turns' : List (Turn α)}
      (hjob : Job.Reported (· = .service true r) 0 job job') (hturns : TurnsCompare turns turns') :
      TurnsCompare (.take r job :: turns) (.take r job' :: turns')
  | move {turns turns' : List (Turn α)} (m : Move) (hturns : TurnsCompare turns turns') :
      TurnsCompare (.move m :: turns) (.move m :: turns')

theorem TurnsCompare.append {a a' b b' : List (Turn α)} (ha : TurnsCompare a a') (hb : TurnsCompare b b') :
    TurnsCompare (a ++ b) (a' ++ b') := by
  induction ha with
  | nil => exact hb
  | take hjob hturns ih => exact .take hjob ih
  | move m hturns ih => exact .move m ih

theorem TurnsCompare.requests_eq {a a' : List (Turn α)} (h : TurnsCompare a a') :
    requests a' = requests a := by
  induction h with
  | nil => rfl
  | @take r job job' turns turns' hjob hturns ih => exact congrArg (r :: ·) ih
  | move m hturns ih => exact ih

theorem turnsCompare_moves (moves : List Move) :
    TurnsCompare (α := α) (moves.map .move) (moves.map .move) := by
  induction moves with
  | nil => exact .nil
  | cons m ms ih => exact .move m ih

section Histories

variable {tracing} {p p' : Pool α} {turns turns' : List (Turn α)} {k : Nat}

/-- In a slot that is the same in both pools the same is done. -/
theorem Paired.own_of_same (h : Paired p p') (hturns : TurnsCompare turns turns')
    (hk : k < p.slots.length) (hslot : p'.slots[k]? = p.slots[k]?) :
    own k (p'.history tracing turns') = own k (p.history tracing turns) := by
  induction hturns generalizing p p' with
  | nil => rfl
  | @take r job job' turns turns' hjob hturns ih =>
      have hlength : k < (p.add job []).slots.length := by
        rw [length_add]
        omega
      refine ih (h.add hjob) hlength ?_
      have hold := slots_add_of_lt p job hk
      have hold' := slots_add_of_lt p' job' (h.length ▸ hk)
      exact hold'.trans (hslot.trans hold.symm)
  | move m hturns ih =>
      have hlength : k < (p.step tracing m).2.slots.length := by
        rw [length_step]
        exact hk
      by_cases hm : m.slot = k
      · subst hm
        obtain ⟨hdeed, hleft⟩ := step_of_same h.spans hslot
        rw [own_history_of_eq tracing rfl, own_history_of_eq tracing rfl, hdeed,
          ih (h.step m) hlength hleft]
      · rw [own_history_of_ne tracing hm, own_history_of_ne tracing hm]
        refine ih (h.step m) hlength ?_
        rw [slots_step_of_ne tracing hm, slots_step_of_ne tracing hm, hslot]

/-- **A slot whose job has yet to make its report** makes it when it has been polled often enough. -/
theorem Paired.compared_of_due (h : Paired p p') (hturns : TurnsCompare turns turns') {C : Call → Prop}
    {wait : Nat} {t t' : Job α} {held : List OpenSpan} (hdue : Job.Reported C wait t t')
    (hslot : p.slots[k]? = some (some ⟨t, held⟩)) (hslot' : p'.slots[k]? = some (some ⟨t', held⟩)) :
    Compared C wait (own k (p.history tracing turns)) (own k (p'.history tracing turns')) := by
  induction hturns generalizing p p' wait t t' held with
  | nil => exact .of_idle fun d hd => absurd hd List.not_mem_nil
  | take hjob hturns ih =>
      exact ih (h.add hjob) hdue (getElem?_append_of_some hslot _) (getElem?_append_of_some hslot' _)
  | @move turns turns' m hturns ih =>
      by_cases hm : m.slot = k
      · subst hm
        obtain ⟨outcome, left, left', entries, entries', hcompare, hdeed, hdeed', hleft, hleft'⟩ :=
          step_of_due h.spans hdue hslot hslot'
        have hlength : m.slot < (p.step tracing m).2.slots.length :=
          (List.getElem?_eq_some_iff.mp hleft).1
        -- when the slots are the same, so is all that is done in them
        have hrest : left' = left → own m.slot ((p'.step tracing m).2.history tracing turns') =
            own m.slot ((p.step tracing m).2.history tracing turns) := by
          rintro rfl
          exact (h.step m).own_of_same hturns hlength (hleft'.trans hleft.symm)
        rw [own_history_of_eq tracing rfl, own_history_of_eq tracing rfl, hdeed, hdeed']
        cases hcompare with
        | dropped =>
            rw [hrest rfl]
            refine .skip rfl (.of_idle fun d hd => ?_)
            rw [(own_of_empty tracing hleft turns d hd).1]
            rfl
        | early hearly => exact .cons_early rfl (ih (h.step m) hearly hleft hleft')
        | reported polled hreported =>
            rw [hrest rfl]
            exact .cons_reported polled hreported
      · rw [own_history_of_ne tracing hm, own_history_of_ne tracing hm]
        have hkept := (slots_step_of_ne tracing hm).trans hslot
        have hkept' := (slots_step_of_ne tracing hm).trans hslot'
        exact ih (h.step m) hdue hkept hkept'

/-- **A slot that is yet to come** is for one of the requests for which jobs are taken in, and its job reports
the call for that request at its first poll. -/
theorem Paired.compared_of_taken (h : Paired p p') (hturns : TurnsCompare turns turns')
    (hk : p.slots.length ≤ k) {r : Request} (hr : (requests turns)[k - p.slots.length]? = some r) :
    Compared (· = .service true r) 0 (own k (p.history tracing turns))
      (own k (p'.history tracing turns')) := by
  induction hturns generalizing p p' with
  | nil => cases hr
  | @take r' job job' turns turns' hjob hturns ih =>
      have hlength := length_add p job
      rcases Nat.eq_or_lt_of_le hk with rfl | hlt
      · rw [Nat.sub_self] at hr
        obtain rfl : r' = r := Option.some.inj hr
        have hnew := slots_add_length p' job'
        rw [h.length] at hnew
        exact (h.add hjob).compared_of_due hturns hjob (slots_add_length p job) hnew
      · refine ih (h.add hjob) (hlength ▸ hlt) ?_
        have hindex : k - p.slots.length = k - (p.slots.length + 1) + 1 := by omega
        rw [hindex] at hr
        show (requests turns)[k - (p.add job []).slots.length]? = some r
        rw [hlength]
        exact hr
  | @move turns turns' m hturns ih =>
      have hr : (requests turns)[k - p.slots.length]? = some r := hr
      have hlength : (p.step tracing m).2.slots.length = p.slots.length := length_step tracing p m
      have hlater := ih (h.step m) (hlength ▸ hk) (hlength ▸ hr)
      by_cases hm : m.slot = k
      · subst hm
        have hnone : p.slots[m.slot]? = none := List.getElem?_eq_none hk
        have hnone' : p'.slots[m.slot]? = none := List.getElem?_eq_none (h.length ▸ hk)
        rw [own_history_of_eq tracing rfl, own_history_of_eq tracing rfl, deed_of_noSlot tracing hnone,
          deed_of_noSlot tracing hnone']
        exact .skip rfl hlater
      · rw [own_history_of_ne tracing hm, own_history_of_ne tracing hm]
        exact hlater

end Histories

end Pool

end DeviceMessaging
