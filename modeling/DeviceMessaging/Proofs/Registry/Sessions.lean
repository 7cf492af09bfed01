import DeviceMessaging.Proofs.Registry.Ledger

/-!
# `Proofs.Registry.Sessions` — calls whose lock sections alternate

A request for a client looks the client up in one lock section and creates it in another, and other callers
may come in between. Still every call that completes has served its caller in one piece, in its last
section; so the books of a history hold for every session, whatever the order of the sections and whoever
gives up a call.

## Contents
- `Stage.call`, `advance_cases`: a section answers as the whole call does, or leaves the registry alone.
- `Session.completion?`, `Session.history`: the calls of a session, in the order of their last sections.
- `Session.Turn`, `turn_of_step`: all that a move can do, with `unchanged_of_completes_none` and
  `served_of_completion?`.
- `sequential_run`, `Tally`, with `Tally.run`: what whole sessions keep.
- `Session.Linearized` and `one_client_per_tenant`.
-/

namespace DeviceMessaging

namespace Registry

variable {ι : Type}

/-! ## Sections -/

/-- The call of which a section is a part. -/
def Stage.call : Stage → Call
  | lookup t => .client t
  | obtain t => .client t
  | remove t => .remove t
  | count => .count

@[simp] theorem Call.call_begin (c : Call) : c.begin.call = c := by
  cases c <;> rfl

/-- A section either serves the whole call, or it is a look-up in vain, after which the call goes on. -/
theorem advance_cases (S : Service ι) (g : Registry ι) (stage : Stage) :
    (∃ stage', g.advance S stage = ([], .inl stage', g) ∧ stage'.call = stage.call) ∨
      ∃ written a g', g.advance S stage = (written, .inr a, g') ∧
        g.serve S stage.call = (written, a, g') := by
  cases stage with
  | lookup t =>
      cases ht : g.clients.find? t with
      | some c =>
          -- what is found here is what the writing section would find
          refine .inr ⟨[], .client c, g, ?_, ?_⟩
          · simp only [advance, lookup?, ht]
          · simp only [Stage.call, serve, Registry.obtain, ht]
      | none =>
          refine .inl ⟨.obtain t, ?_, rfl⟩
          simp only [advance, lookup?, ht]
  | obtain t => exact .inr ⟨_, _, _, rfl, rfl⟩
  | remove t => exact .inr ⟨_, _, _, rfl, rfl⟩
  | count => exact .inr ⟨_, _, _, rfl, rfl⟩

/-- A call that answers with a number has counted. -/
theorem count_of_serve {S : Service ι} {g g' : Registry ι} {c : Call} {written : List Event} {n : Nat}
    (h : g.serve S c = (written, .count n, g')) : n = g.count := by
  cases c with
  | client t => cases congrArg (fun x => x.2.1) h
  | remove t => cases congrArg (fun x => x.2.1) h
  | count =>
      have hanswer : (.count g.count : Answer ι) = .count n := congrArg (fun x => x.2.1) h
      exact (Answer.count.inj hanswer).symm

/-! ## Moves -/

/-- The call that a move is about. -/
def Move.caller : Move → Nat
  | advance k => k
  | cancel k => k

namespace Session

/-- The call that a move completes, with its answer. -/
def completion? (S : Service ι) (s : Session ι) : Move → Option (Completion ι)
  | .advance k =>
    match s.calls[k]? with
    | some (.waiting stage) =>
      match (s.registry.advance S stage).2.1 with
      | .inl _ => none
      | .inr answer => some ⟨k, stage.call, answer⟩
    | _ => none
  | .cancel _ => none

/-- The calls that a sequence of moves completes, in the order of their last sections. -/
def history (S : Service ι) : Session ι → List Move → List (Completion ι)
  | _, [] => []
  | s, m :: ms => (s.completion? S m).toList ++ history S (s.step S m) ms

/-- All that a move can do: nothing, as the call does not wait; or the call goes on waiting, is given up,
or is served in one piece. -/
inductive Turn (S : Service ι) (s : Session ι) (m : Move) (s' : Session ι) : Prop where
  | idle (gone : ∀ stage, s.calls[m.caller]? ≠ some (.waiting stage)) (completes : s.completion? S m = none)
      (after : s' = s)
  | waits (stage stage' : Stage) (waiting : s.calls[m.caller]? = some (.waiting stage))
      (completes : s.completion? S m = none) (same : stage'.call = stage.call)
      (after : s' = { s with calls := s.calls.set m.caller (.waiting stage') })
  | given_up (stage : Stage) (waiting : s.calls[m.caller]? = some (.waiting stage))
      (completes : s.completion? S m = none)
      (after : s' = { s with calls := s.calls.set m.caller .cancelled })
  | served (stage : Stage) (a : Answer ι) (written : List Event) (g' : Registry ι)
      (waiting : s.calls[m.caller]? = some (.waiting stage))
      (completes : s.completion? S m = some ⟨m.caller, stage.call, a⟩)
      (serve : s.registry.serve S stage.call = (written, a, g'))
      (after : s' = ⟨g', s.calls.set m.caller (.answered a), s.events ++ written⟩)

/-- **Inversion of a move.** -/
theorem turn_of_step (S : Service ι) (s : Session ι) (m : Move) : Turn S s m (s.step S m) := by
  -- a call that does not wait stays as it is
  cases m with
  | advance k =>
      match hk : s.calls[k]? with
      | none => exact .idle (by simp [Move.caller, hk]) (by simp [completion?, hk]) (by simp [step, hk])
      | some (.answered a) =>
          exact .idle (by simp [Move.caller, hk]) (by simp [completion?, hk]) (by simp [step, hk])
      | some .cancelled =>
          exact .idle (by simp [Move.caller, hk]) (by simp [completion?, hk]) (by simp [step, hk])
      | some (.waiting stage) =>
          rcases advance_cases S s.registry stage with
            ⟨stage', hadvance, hcall⟩ | ⟨written, a, g', hadvance, hserve⟩
          · refine .waits stage stage' hk ?_ hcall ?_
            · simp only [completion?, hk, hadvance]
            · simp only [step, hk, hadvance, List.append_nil, Move.caller]
          · refine .served stage a written g' hk ?_ hserve ?_
            · simp only [completion?, hk, hadvance, Move.caller]
            · simp only [step, hk, hadvance, Move.caller]
  | cancel k =>
      match hk : s.calls[k]? with
      | none => exact .idle (by simp [Move.caller, hk]) rfl (by simp [step, hk])
      | some (.answered a) => exact .idle (by simp [Move.caller, hk]) rfl (by simp [step, hk])
      | some .cancelled => exact .idle (by simp [Move.caller, hk]) rfl (by simp [step, hk])
      | some (.waiting stage) => exact .given_up stage hk rfl (by simp only [step, hk, Move.caller])

/-- A move that completes no call leaves the registry alone. -/
theorem unchanged_of_completes_none {S : Service ι} {s : Session ι} {m : Move}
    (h : s.completion? S m = none) :
    (s.step S m).registry = s.registry ∧ (s.step S m).events = s.events := by
  cases turn_of_step S s m with
  | idle gone completes after =>
      rw [after]
      exact ⟨rfl, rfl⟩
  | waits stage stage' waiting completes same after =>
      rw [after]
      exact ⟨rfl, rfl⟩
  | given_up stage waiting completes after =>
      rw [after]
      exact ⟨rfl, rfl⟩
  | served stage a written g' waiting completes serve after => cases completes.symm.trans h

/-- A move that completes a call serves it in one piece. -/
theorem served_of_completion? {S : Service ι} {s : Session ι} {m : Move} {d : Completion ι}
    (h : s.completion? S m = some d) :
    d.caller = m.caller ∧ ∃ written, s.registry.serve S d.call = (written, d.answer, (s.step S m).registry) ∧
      (s.step S m).events = s.events ++ written := by
  cases turn_of_step S s m with
  | idle gone completes after => cases completes.symm.trans h
  | waits stage stage' waiting completes same after => cases completes.symm.trans h
  | given_up stage waiting completes after => cases completes.symm.trans h
  | served stage a written g' waiting completes serve after =>
      obtain rfl := Option.some.inj (completes.symm.trans h)
      rw [after]
      exact ⟨rfl, written, serve, rfl⟩

/-! ## Whole sessions -/

variable {S : Service ι} {s : Session ι}

theorem run_cons (m : Move) (ms : List Move) : s.run S (m :: ms) = (s.step S m).run S ms := rfl

theorem history_append (a b : List Move) :
    s.history S (a ++ b) = s.history S a ++ (s.run S a).history S b := by
  induction a generalizing s with
  | nil => rfl
  | cons m ms ih => rw [List.cons_append, history, history, ih, List.append_assoc, run_cons]

/-- The call that a move completes stands in the history. -/
theorem mem_history_of_completion? {before after : List Move} {m : Move} {d : Completion ι}
    (h : (s.run S before).completion? S m = some d) : d ∈ s.history S (before ++ m :: after) := by
  rw [history_append, history, h]
  exact List.mem_append_right _ (List.mem_append_left _ (Option.mem_toList.mpr rfl))

/-- **Sections serve calls in one piece**: from moves to sessions. -/
theorem sequential_run {start : Registry ι} {past : List (Completion ι)}
    (h : Sequential S start past s.events s.registry) (moves : List Move) :
    Sequential S start (past ++ s.history S moves) (s.run S moves).events (s.run S moves).registry := by
  induction moves generalizing s past with
  | nil => rwa [history, List.append_nil]
  | cons m ms ih =>
      rw [history, ← List.append_assoc, run_cons]
      refine ih ?_
      cases hcompletes : s.completion? S m with
      | none =>
          obtain ⟨hregistry, hevents⟩ := unchanged_of_completes_none hcompletes
          rwa [hregistry, hevents, Option.toList_none, List.append_nil]
      | some d =>
          obtain ⟨-, written, hserve, hevents⟩ := served_of_completion? hcompletes
          rw [hevents]
          exact .snoc h hserve

/-- What the calls of a session have come to, given those that are complete. -/
structure Tally (calls : List Call) (s : Session ι) (past : List (Completion ι)) : Prop where
  /-- A call waits for one of its own sections. -/
  waiting : ∀ (k : Nat) (stage : Stage), s.calls[k]? = some (.waiting stage) → calls[k]? = some stage.call
  /-- A complete call keeps its answer. -/
  complete : ∀ d ∈ past, calls[d.caller]? = some d.call ∧ s.calls[d.caller]? = some (.answered d.answer)
  /-- A call with an answer is complete. -/
  answered : ∀ k a, s.calls[k]? = some (.answered a) → ∃ d ∈ past, d.caller = k ∧ d.answer = a
  /-- No call is complete twice. -/
  once : (past.map Completion.caller).Nodup

theorem getElem?_set_of_some {k : Nat} {q : Progress ι} (h : s.calls[k]? = some q) (p : Progress ι)
    (j : Nat) : (s.calls.set k p)[j]? = if j = k then some p else s.calls[j]? := by
  obtain ⟨hlt, -⟩ := List.getElem?_eq_some_iff.mp h
  by_cases hj : j = k
  · subst hj
    rw [if_pos rfl, List.getElem?_set_self hlt]
  · rw [if_neg hj, List.getElem?_set_ne (Ne.symm hj)]

namespace Tally

variable {calls : List Call} {past : List (Completion ι)} {k : Nat} {stage : Stage}

/-- A call that waits is not complete. -/
theorem caller_ne (h : Tally calls s past) (hk : s.calls[k]? = some (.waiting stage)) :
    ∀ d ∈ past, d.caller ≠ k := by
  rintro d hd rfl
  cases hk.symm.trans (h.complete d hd).2

/-- A call that waits may go on waiting, or be given up. -/
theorem set_unanswered (h : Tally calls s past) (hk : s.calls[k]? = some (.waiting stage))
    {p : Progress ι} (hwaiting : ∀ stage', p = .waiting stage' → stage'.call = stage.call)
    (hanswered : ∀ a, p ≠ .answered a) : Tally calls { s with calls := s.calls.set k p } past where
  waiting := by
    intro j stage' hj
    rw [getElem?_set_of_some hk] at hj
    split at hj
    · next heq =>
        subst heq
        rw [hwaiting stage' (Option.some.inj hj)]
        exact h.waiting j stage hk
    · exact h.waiting j stage' hj
  complete := by
    intro d hd
    rw [getElem?_set_of_some hk, if_neg (h.caller_ne hk d hd)]
    exact h.complete d hd
  answered := by
    intro j a hj
    rw [getElem?_set_of_some hk] at hj
    split at hj
    · exact absurd (Option.some.inj hj) (hanswered a)
    · exact h.answered j a hj
  once := h.once

/-- A call that waits may be answered. -/
theorem set_answered (h : Tally calls s past) (hk : s.calls[k]? = some (.waiting stage)) (a : Answer ι)
    (g : Registry ι) (events : List Event) :
    Tally calls ⟨g, s.calls.set k (.answered a), events⟩ (past ++ [⟨k, stage.call, a⟩]) where
  waiting := by
    intro j stage' hj
    rw [getElem?_set_of_some hk] at hj
    split at hj
    · cases hj
    · exact h.waiting j stage' hj
  complete := by
    intro d hd
    rw [getElem?_set_of_some hk]
    rcases List.mem_append.mp hd with hd | hd
    · rw [if_neg (h.caller_ne hk d hd)]
      exact h.complete d hd
    · obtain rfl := List.mem_singleton.mp hd
      exact ⟨h.waiting k stage hk, if_pos rfl⟩
  answered := by
    intro j b hj
    rw [getElem?_set_of_some hk] at hj
    split at hj
    · next heq =>
        cases hj
        exact ⟨_, List.mem_append_right past (List.mem_singleton_self _), heq.symm, rfl⟩
    · obtain ⟨d, hd, hcaller, hanswer⟩ := h.answered j b hj
      exact ⟨d, List.mem_append_left _ hd, hcaller, hanswer⟩
  once := by
    rw [List.map_append, List.map_singleton, List.nodup_append]
    refine ⟨h.once, List.nodup_singleton k, fun j hj j' hj' => ?_⟩
    -- the caller waited until now
    obtain ⟨d, hd, rfl⟩ := List.mem_map.mp hj
    rw [List.mem_singleton.mp hj']
    exact h.caller_ne hk d hd

/-- **One more move** completes at most the call that it is about. -/
theorem step (h : Tally calls s past) (m : Move) :
    Tally calls (s.step S m) (past ++ (s.completion? S m).toList) := by
  cases turn_of_step S s m with
  | idle gone completes after =>
      rw [after, completes, Option.toList_none, List.append_nil]
      exact h
  | waits stage stage' waiting completes same after =>
      rw [after, completes, Option.toList_none, List.append_nil]
      refine h.set_unanswered waiting (fun stage'' heq => ?_) (fun a heq => by cases heq)
      cases heq
      exact same
  | given_up stage waiting completes after =>
      rw [after, completes, Option.toList_none, List.append_nil]
      exact h.set_unanswered waiting (fun stage' heq => by cases heq) (fun a heq => by cases heq)
  | served stage a written g' waiting completes serve after =>
      rw [after, completes, Option.toList_some]
      exact h.set_answered waiting a g' _

theorem run (h : Tally calls s past) (moves : List Move) :
    Tally calls (s.run S moves) (past ++ s.history S moves) := by
  induction moves generalizing s past with
  | nil => rwa [history, List.append_nil]
  | cons m ms ih =>
      rw [history, ← List.append_assoc, run_cons]
      exact ih (h.step m)

theorem ofCalls (g : Registry ι) (calls : List Call) : Tally calls (Session.ofCalls g calls) [] where
  waiting := by
    intro k stage hk
    obtain ⟨c, hc, hstage⟩ := Option.map_eq_some_iff.mp ((List.getElem?_map ..).symm.trans hk)
    cases hstage
    rw [hc, Call.call_begin]
  complete := fun d hd => absurd hd List.not_mem_nil
  answered := by
    intro k a hk
    obtain ⟨c, -, hanswer⟩ := Option.map_eq_some_iff.mp ((List.getElem?_map ..).symm.trans hk)
    cases hanswer
  once := List.nodup_nil

end Tally

/-! ## One client per tenant -/

/-- What comes of a session that begins with `calls` and goes on by `moves`. -/
structure Linearized (S : Service ι) (calls : List Call) (start : Session ι) (moves : List Move) :
    Prop where
  /-- The calls with an answer are those of the history. -/
  completed : ∀ k a, (start.run S moves).calls[k]? = some (.answered a) ↔
    ∃ c, calls[k]? = some c ∧ ⟨k, c, a⟩ ∈ start.history S moves
  /-- No call is in the history twice. -/
  once : ((start.history S moves).map Completion.caller).Nodup
  /-- The answers, the events and the registry are those of the calls of the history, each served in one
  piece, in the order of their last sections. -/
  sequential : Sequential S start.registry (start.history S moves) (start.run S moves).events
    (start.run S moves).registry
  /-- No move of a call that is given up in the end does anything to the registry. -/
  harmless : ∀ before m after, moves = before ++ m :: after →
    (start.run S moves).calls[m.caller]? = some .cancelled →
    ((start.run S before).step S m).registry = (start.run S before).registry ∧
      ((start.run S before).step S m).events = (start.run S before).events
  /-- Two clients handed out for a tenant are the same instance if and only if the client of the tenant
  was not removed between them. -/
  same_instance : ∀ t before d between d' after c c',
    start.history S moves = before ++ d :: (between ++ d' :: after) →
    d.handed? t = some c → d'.handed? t = some c' →
    (c'.number = c.number ↔ ∀ x ∈ between, x.removes t = false)
  /-- Every instance was announced by one event. -/
  announced : ∀ t, (instances t (start.history S moves)).card = (start.run S moves).events.count
    { level := .debug, origin := .clientRegistry, message := "creating device connection client",
      fields := [("tenant_id", t)] }
  /-- Every instance was removed or is kept. -/
  balance : ∀ t, (instances t (start.history S moves)).card =
    removals t (start.history S moves) + (start.run S moves).registry.kept t
  /-- A count is the number of the tenants whose client is kept when it is taken. -/
  counted : ∀ before m after d n, moves = before ++ m :: after →
    (start.run S before).completion? S m = some d → d.answer = .count n →
    ∃ tenants : Finset String, tenants.card = n ∧
      ∀ t, t ∈ tenants ↔ ((start.run S before).registry.lookup? t).isSome

/-- **One client per tenant**, whatever the order of the sections and whoever gives up a call. -/
theorem one_client_per_tenant (S : Service ι) (service : ι) (calls : List Call) (moves : List Move) :
    Linearized S calls (ofCalls (ofService service) calls) moves := by
  have hsequential : Sequential S (ofService service) _ _ _ :=
    sequential_run (s := ofCalls (ofService service) calls) (S := S) .nil moves
  -- nothing is complete at the beginning
  have htally := (Tally.ofCalls (ofService service) calls).run (S := S) moves
  rw [List.nil_append] at hsequential htally
  refine ⟨?completed, htally.once, hsequential, ?harmless, ?same_instance,
    fun t => (hsequential.ledger t).announced, ?balance, ?counted⟩
  case completed =>
    intro k a
    constructor
    · intro hk
      obtain ⟨d, hd, rfl, rfl⟩ := htally.answered k a hk
      exact ⟨d.call, (htally.complete d hd).1, hd⟩
    · rintro ⟨c, -, hd⟩
      exact (htally.complete _ hd).2
  case harmless =>
    rintro before m after rfl hcancelled
    cases hcompletes : ((ofCalls (ofService service) calls).run S before).completion? S m with
    | none => exact unchanged_of_completes_none hcompletes
    | some d =>
        -- a call that is complete is not given up any more
        have hanswered := (htally.complete d (mem_history_of_completion? hcompletes)).2
        rw [(served_of_completion? hcompletes).1, hcancelled] at hanswered
        cases hanswered
  case same_instance =>
    intro t before d between d' after c c' hsplit hd hd'
    exact same_instance_iff hsequential hsplit hd hd'
  case balance =>
    intro t
    exact (hsequential.ledger t).announced.trans (hsequential.ledger t).balance
  case counted =>
    rintro before m after ⟨caller, call, answer⟩ n - hcompletes rfl
    obtain ⟨-, written, hserve, -⟩ := served_of_completion? hcompletes
    rw [count_of_serve hserve]
    exact exists_tenants _

/-- Both callers look in vain; the client that the first creates is removed before the second comes to
its writing section, so the second gets an instance of its own. -/
example :
    let S := Service.ofFunction fun r => .done (.ok (r.respond 204))
    let start := ofCalls (ofService ()) [.client "tenant", .client "tenant", .remove "tenant"]
    (start.history S [.advance 0, .advance 1, .advance 0, .advance 2, .advance 1]).map (fun d =>
        (d.caller, (d.handed? "tenant").map NumberedClient.number, d.removes "tenant")) =
      [(0, some 0, false), (2, none, true), (1, some 1, false)] := by
  decide

end Session

end Registry

end DeviceMessaging
