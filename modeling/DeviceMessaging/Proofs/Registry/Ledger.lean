import DeviceMessaging.DeviceConnection.Registry
import Mathlib.Data.Finset.Card

/-!
# `Proofs.Registry.Ledger` — clients handed out, created and removed, one call after the other

When a registry serves calls one after the other, the history of what it answered tells all about its
clients: which instance a tenant has, how many there have been, and which answers were the same instance.

## Contents
- `Completion`, with `handed?` and `removes`: a call with its answer, as one tenant sees it.
- `Sequential`: a history of calls, each served in one piece; `Sequential.served_of_split`.
- `Effect`, `effect_of_serve`: all that a call can do for one tenant.
- `instances`, `Ledger`, `Ledger.serve`, `Sequential.ledger`: the books of a history.
- `same_instance_iff`, `exists_tenants`: when two answers are the same instance, and what is counted.
-/

namespace DeviceMessaging

namespace Registry

variable {ι : Type}

/-! ## Histories -/

/-- A call of a caller, with its answer. -/
structure Completion (ι : Type) where
  caller : Nat
  call : Call
  answer : Answer ι

namespace Completion

/-- The client that the call handed out for a tenant. -/
def handed? (t : String) (d : Completion ι) : Option (NumberedClient ι) :=
  match d.call, d.answer with
  | .client u, .client c => if u = t then some c else none
  | _, _ => none

/-- Whether the call removed the client of a tenant, which was there. -/
def removes (t : String) (d : Completion ι) : Bool :=
  match d.call, d.answer with
  | .remove u, .removed existed => u = t && existed
  | _, _ => false

end Completion

/-- A history of calls, each served in one piece, with the events written and the registry after it. -/
inductive Sequential (S : Service ι) (start : Registry ι) :
    List (Completion ι) → List Event → Registry ι → Prop where
  | nil : Sequential S start [] [] start
  | snoc {history : List (Completion ι)} {events written : List Event} {g g' : Registry ι}
      {d : Completion ι} (past : Sequential S start history events g)
      (served : g.serve S d.call = (written, d.answer, g')) :
      Sequential S start (history ++ [d]) (events ++ written) g'

variable {S : Service ι} {start g g' : Registry ι} {history : List (Completion ι)}
  {events written : List Event} {d : Completion ι}

/-- Every call of a history was served after those before it. -/
theorem Sequential.served_of_split (h : Sequential S start history events g) {before after : List (Completion ι)}
    (hsplit : history = before ++ d :: after) :
    ∃ events' g₁ written g₂, Sequential S start before events' g₁ ∧
      g₁.serve S d.call = (written, d.answer, g₂) := by
  induction h generalizing after with
  | nil => exact absurd hsplit.symm (List.append_ne_nil_of_right_ne_nil before (List.cons_ne_nil d after))
  | @snoc history events written g g' x past served ih =>
      rcases List.eq_nil_or_concat after with rfl | ⟨init, y, rfl⟩
      · obtain ⟨rfl, hx⟩ := List.append_inj' hsplit rfl
        obtain rfl : x = d := (List.cons.inj hx).1
        exact ⟨events, g, written, g', past, served⟩
      · rw [List.concat_eq_append, ← List.cons_append, ← List.append_assoc] at hsplit
        exact ih (List.append_inj' hsplit rfl).1

/-! ## The effect of one call -/

/-- All that a call can do for tenant `t`: its client is handed out, or created and handed out, or
removed, or the call is none of the tenant's business. -/
inductive Effect (t : String) (g : Registry ι) (d : Completion ι) (written : List Event)
    (g' : Registry ι) : Prop where
  | found (c : NumberedClient ι) (handed : d.handed? t = some c) (stays : d.removes t = false)
      (before : g.lookup? t = some c) (after : g'.lookup? t = some c)
      (announces : written.count (creationEvent t) = 0) (next : g.created ≤ g'.created)
  | created (c : NumberedClient ι) (handed : d.handed? t = some c) (stays : d.removes t = false)
      (before : g.lookup? t = none) (after : g'.lookup? t = some c)
      (announces : written.count (creationEvent t) = 1) (number : c.number = g.created)
      (next : g'.created = g.created + 1)
  | removed (c : NumberedClient ι) (handed : d.handed? t = none) (goes : d.removes t = true)
      (before : g.lookup? t = some c) (after : g'.lookup? t = none)
      (announces : written.count (creationEvent t) = 0) (next : g.created ≤ g'.created)
  | other (handed : d.handed? t = none) (stays : d.removes t = false)
      (same : g'.lookup? t = g.lookup? t)
      (announces : written.count (creationEvent t) = 0) (next : g.created ≤ g'.created)

/-- A client that is handed out is kept from then on. -/
theorem Effect.lookup?_of_handed {t : String} {c : NumberedClient ι} (effect : Effect t g d written g')
    (h : d.handed? t = some c) : g'.lookup? t = some c := by
  cases effect with
  | found c' handed stays before after announces next => rwa [← h, handed]
  | created c' handed stays before after announces number next => rwa [← h, handed]
  | removed c' handed goes before after announces next => cases handed.symm.trans h
  | other handed stays same announces next => cases handed.symm.trans h

theorem creationEvent_inj {t u : String} : creationEvent t = creationEvent u ↔ t = u := by
  simp [creationEvent]

/-- **Inversion of a call.** -/
theorem effect_of_serve (served : g.serve S d.call = (written, d.answer, g')) (t : String) :
    Effect t g d written g' := by
  obtain ⟨caller, call, answer⟩ := d
  cases call with
  | client u =>
      cases hu : g.clients.find? u with
      | some c =>
          simp only [serve, obtain, hu, Prod.mk.injEq] at served
          obtain ⟨rfl, rfl, rfl⟩ := served
          by_cases h : u = t
          · subst h
            exact .found c (if_pos rfl) rfl hu hu rfl le_rfl
          · exact .other (if_neg h) rfl rfl rfl le_rfl
      | none =>
          -- the one call by which a tenant gets a new instance
          simp only [serve, obtain, hu, Prod.mk.injEq] at served
          obtain ⟨rfl, rfl, rfl⟩ := served
          by_cases h : u = t
          · subst h
            refine .created _ (if_pos rfl) rfl hu ?_ (List.count_singleton_self) rfl rfl
            rw [lookup?, Keyed.find?_insert, if_pos rfl]
          · refine .other (if_neg h) rfl ?_ ?_ (Nat.le_succ _)
            · rw [lookup?, Keyed.find?_insert, if_neg (Ne.symm h), lookup?]
            · rw [List.count_singleton, if_neg]
              rw [beq_iff_eq, creationEvent_inj]
              exact h
  | remove u =>
      simp only [serve, remove, Prod.mk.injEq] at served
      obtain ⟨rfl, rfl, rfl⟩ := served
      by_cases h : u = t
      · subst h
        have hafter : ({ g with clients := g.clients.erase u } : Registry ι).lookup? u = none := by
          rw [lookup?, Keyed.find?_erase, if_pos rfl]
        -- a removal in vain is no removal
        cases hu : g.clients.find? u with
        | some c =>
            refine .removed c rfl ?_ hu hafter rfl le_rfl
            simp [Completion.removes, Keyed.contains, hu]
        | none =>
            refine .other rfl ?_ (hafter.trans hu.symm) rfl le_rfl
            simp [Completion.removes, Keyed.contains, hu]
      · refine .other rfl ?_ ?_ rfl le_rfl
        · simp [Completion.removes, h]
        · rw [lookup?, Keyed.find?_erase, if_neg (Ne.symm h), lookup?]
  | count =>
      simp only [serve, Prod.mk.injEq] at served
      obtain ⟨rfl, rfl, rfl⟩ := served
      exact .other rfl rfl rfl rfl le_rfl

/-! ## The books of a history -/

/-- The instances that were handed out for a tenant. -/
def instances (t : String) (history : List (Completion ι)) : Finset Nat :=
  ((history.filterMap (Completion.handed? t)).map NumberedClient.number).toFinset

/-- How many successful removals of the client of a tenant there were. -/
def removals (t : String) (history : List (Completion ι)) : Nat := history.countP (Completion.removes t)

/-- One if the client of a tenant is kept, and zero if there is none. -/
def kept (g : Registry ι) (t : String) : Nat := if (g.lookup? t).isSome then 1 else 0

/-- What a history tells about the client of tenant `t`. -/
structure Ledger (t : String) (g : Registry ι) (history : List (Completion ι)) (events : List Event) :
    Prop where
  /-- An instance that is yet to be created is none of those handed out. -/
  fresh : ∀ n ∈ instances t history, n < g.created
  /-- The client that is kept was handed out. -/
  handed : ∀ c, g.lookup? t = some c → c.number ∈ instances t history
  /-- Every instance was announced by one event. -/
  announced : (instances t history).card = events.count (creationEvent t)
  /-- Every instance was removed or is kept. -/
  balance : events.count (creationEvent t) = removals t history + g.kept t
  /-- A client that was handed out is still kept unless it was removed since; then it does not return. -/
  tracked : ∀ before d after c, history = before ++ d :: after → d.handed? t = some c →
    if after.any (Completion.removes t) then ∀ c', g.lookup? t = some c' → c'.number ≠ c.number
    else g.lookup? t = some c

theorem mem_instances {t : String} {c : NumberedClient ι} (hd : d ∈ history) (h : d.handed? t = some c) :
    c.number ∈ instances t history := by
  rw [instances, List.mem_toFinset]
  exact List.mem_map_of_mem (List.mem_filterMap.mpr ⟨d, hd, h⟩)

theorem instances_of_handed {t : String} {c : NumberedClient ι} (h : d.handed? t = some c) :
    instances t (history ++ [d]) = insert c.number (instances t history) := by
  have hmap : (history ++ [d]).filterMap (Completion.handed? t) =
      history.filterMap (Completion.handed? t) ++ [c] := by
    rw [List.filterMap_append, List.filterMap_cons_some h, List.filterMap_nil]
  ext n
  simp [instances, hmap]

theorem instances_of_none {t : String} (h : d.handed? t = none) :
    instances t (history ++ [d]) = instances t history := by
  rw [instances, List.filterMap_append, List.filterMap_cons_none h, List.filterMap_nil, List.append_nil,
    instances]

theorem removals_append (t : String) (history : List (Completion ι)) (d : Completion ι) :
    removals t (history ++ [d]) = removals t history + if d.removes t then 1 else 0 := by
  rw [removals, List.countP_append, List.countP_singleton, removals]

theorem kept_of_some {t : String} {c : NumberedClient ι} (h : g.lookup? t = some c) : g.kept t = 1 := by
  rw [kept, h]
  rfl

theorem kept_of_none {t : String} (h : g.lookup? t = none) : g.kept t = 0 := by
  rw [kept, h]
  rfl

namespace Ledger

variable {t : String}

theorem fresh_serve (h : Ledger t g history events) (effect : Effect t g d written g') :
    ∀ n ∈ instances t (history ++ [d]), n < g'.created := by
  intro n hn
  -- only a creation adds a number, which is the next one then
  cases effect with
  | found c handed stays before after announces next =>
      rw [instances_of_handed handed, Finset.insert_eq_of_mem (h.handed c before)] at hn
      exact (h.fresh n hn).trans_le next
  | created c handed stays before after announces number next =>
      rw [instances_of_handed handed, Finset.mem_insert] at hn
      rw [next, Nat.lt_succ_iff]
      exact hn.elim (fun hc => (hc.trans number).le) fun hn => (h.fresh n hn).le
  | removed c handed goes before after announces next =>
      rw [instances_of_none handed] at hn
      exact (h.fresh n hn).trans_le next
  | other handed stays same announces next =>
      rw [instances_of_none handed] at hn
      exact (h.fresh n hn).trans_le next

theorem handed_serve (h : Ledger t g history events) (effect : Effect t g d written g') :
    ∀ c, g'.lookup? t = some c → c.number ∈ instances t (history ++ [d]) := by
  intro c hc
  cases effect with
  | found c' handed stays before after announces next =>
      obtain rfl : c' = c := Option.some.inj (after.symm.trans hc)
      rw [instances_of_handed handed]
      exact Finset.mem_insert_self _ _
  | created c' handed stays before after announces number next =>
      obtain rfl : c' = c := Option.some.inj (after.symm.trans hc)
      rw [instances_of_handed handed]
      exact Finset.mem_insert_self _ _
  | removed c' handed goes before after announces next =>
      rw [after] at hc
      cases hc
  | other handed stays same announces next =>
      rw [instances_of_none handed]
      exact h.handed c (same.symm.trans hc)

/-- A created instance is none of those handed out before. -/
theorem number_not_mem (h : Ledger t g history events) {c : NumberedClient ι}
    (number : c.number = g.created) : c.number ∉ instances t history := fun hc =>
  (h.fresh _ hc).ne number

theorem announced_serve (h : Ledger t g history events) (effect : Effect t g d written g') :
    (instances t (history ++ [d])).card = (events ++ written).count (creationEvent t) := by
  rw [List.count_append, ← h.announced]
  cases effect with
  | found c handed stays before after announces next =>
      rw [instances_of_handed handed, Finset.insert_eq_of_mem (h.handed c before), announces, Nat.add_zero]
  | created c handed stays before after announces number next =>
      rw [instances_of_handed handed, Finset.card_insert_of_notMem (h.number_not_mem number), announces]
  | removed c handed goes before after announces next =>
      rw [instances_of_none handed, announces, Nat.add_zero]
  | other handed stays same announces next =>
      rw [instances_of_none handed, announces, Nat.add_zero]

theorem balance_serve (h : Ledger t g history events) (effect : Effect t g d written g') :
    (events ++ written).count (creationEvent t) = removals t (history ++ [d]) + g'.kept t := by
  rw [List.count_append, h.balance, removals_append]
  cases effect with
  | found c handed stays before after announces next =>
      rw [announces, stays, kept_of_some before, kept_of_some after]
      rfl
  | created c handed stays before after announces number next =>
      rw [announces, stays, kept_of_none before, kept_of_some after]
      rfl
  | removed c handed goes before after announces next =>
      rw [announces, goes, kept_of_some before, kept_of_none after]
      rfl
  | other handed stays same announces next =>
      rw [announces, stays, kept, kept, same]
      rfl

theorem tracked_serve (h : Ledger t g history events) (effect : Effect t g d written g') :
    ∀ before x after c, history ++ [d] = before ++ x :: after → x.handed? t = some c →
      if after.any (Completion.removes t) then ∀ c', g'.lookup? t = some c' → c'.number ≠ c.number
      else g'.lookup? t = some c := by
  intro before x after c hsplit hx
  rcases List.eq_nil_or_concat after with rfl | ⟨init, y, rfl⟩
  · -- the client was handed out just now
    obtain ⟨rfl, hd⟩ := List.append_inj' hsplit rfl
    obtain rfl : d = x := (List.cons.inj hd).1
    rw [List.any_nil, if_neg Bool.false_ne_true]
    exact effect.lookup?_of_handed hx
  · rw [List.concat_eq_append] at hsplit ⊢
    rw [← List.cons_append, ← List.append_assoc] at hsplit
    obtain ⟨hhistory, hd⟩ := List.append_inj' hsplit rfl
    obtain rfl : d = y := (List.cons.inj hd).1
    have hpast := h.tracked before x init c hhistory hx
    rw [List.any_append, List.any_cons, List.any_nil, Bool.or_false]
    -- the books say whether the client is still kept; a new instance cannot be the old one
    cases effect with
    | found c' handed stays before after announces next =>
        rw [before] at hpast
        rwa [stays, Bool.or_false, after]
    | created c' handed stays before after announces number next =>
        rw [before] at hpast
        rw [stays, Bool.or_false, after]
        by_cases hany : init.any (Completion.removes t) = true
        · rw [if_pos hany]
          intro c'' hc'' heq
          obtain rfl : c' = c'' := Option.some.inj hc''
          have hmem : x ∈ history := by
            rw [hhistory]
            exact List.mem_append_right _ List.mem_cons_self
          exact h.number_not_mem number (heq ▸ mem_instances hmem hx)
        · rw [if_neg hany] at hpast
          cases hpast
    | removed c' handed goes before after announces next =>
        rw [goes, Bool.or_true, if_pos rfl, after]
        rintro c'' h
        cases h
    | other handed stays same announces next => rwa [stays, Bool.or_false, same]

/-- **One more call keeps the books.** -/
theorem serve (h : Ledger t g history events) (effect : Effect t g d written g') :
    Ledger t g' (history ++ [d]) (events ++ written) where
  fresh := h.fresh_serve effect
  handed := h.handed_serve effect
  announced := h.announced_serve effect
  balance := h.balance_serve effect
  tracked := h.tracked_serve effect

end Ledger

/-- **The books of a history** from the beginning of a registry on. -/
theorem Sequential.ledger {service : ι} (h : Sequential S (ofService service) history events g)
    (t : String) : Ledger t g history events := by
  induction h with
  | nil =>
      refine ⟨?_, ?_, rfl, rfl, ?_⟩
      · exact fun n hn => absurd hn (Finset.notMem_empty n)
      · exact fun c hc => by cases hc
      · exact fun before d after c hsplit => absurd hsplit.symm
          (List.append_ne_nil_of_right_ne_nil before (List.cons_ne_nil d after))
  | snoc past served ih => exact ih.serve (effect_of_serve served t)

/-! ## Instances and counts -/

/-- **One instance between two removals**: two clients handed out for a tenant are the same instance
unless the tenant's client was removed between them. -/
theorem same_instance_iff {service : ι} (h : Sequential S (ofService service) history events g)
    {t : String} {before between after : List (Completion ι)} {d d' : Completion ι}
    {c c' : NumberedClient ι} (hsplit : history = before ++ d :: (between ++ d' :: after))
    (hd : d.handed? t = some c) (hd' : d'.handed? t = some c') :
    c'.number = c.number ↔ ∀ x ∈ between, x.removes t = false := by
  rw [← List.cons_append, ← List.append_assoc] at hsplit
  obtain ⟨events₁, g₁, written, g₂, past, served⟩ := h.served_of_split hsplit
  -- the books of what came before the second call decide
  have hledger := past.ledger t
  have htracked := hledger.tracked before d between c rfl hd
  have hnone : (∀ x ∈ between, x.removes t = false) ↔ ¬ between.any (Completion.removes t) = true := by
    simp
  rw [hnone]
  have hmem : c.number ∈ instances t (before ++ d :: between) :=
    mem_instances (List.mem_append_right _ List.mem_cons_self) hd
  cases effect_of_serve served t with
  | found x handed stays before after announces next =>
      obtain rfl : x = c' := Option.some.inj (handed.symm.trans hd')
      by_cases hany : between.any (Completion.removes t) = true
      · rw [if_pos hany] at htracked
        exact iff_of_false (htracked x before) (not_not_intro hany)
      · rw [if_neg hany, before] at htracked
        obtain rfl : x = c := Option.some.inj htracked
        exact iff_of_true rfl hany
  | created x handed stays before after announces number next =>
      obtain rfl : x = c' := Option.some.inj (handed.symm.trans hd')
      by_cases hany : between.any (Completion.removes t) = true
      · exact iff_of_false (fun heq => hledger.number_not_mem number (heq ▸ hmem)) (not_not_intro hany)
      · rw [if_neg hany, before] at htracked
        cases htracked
  | removed x handed goes before after announces next => cases handed.symm.trans hd'
  | other handed stays same announces next => cases handed.symm.trans hd'

/-- What is counted are the tenants whose client is kept. -/
theorem exists_tenants (g : Registry ι) :
    ∃ tenants : Finset String, tenants.card = g.count ∧
      ∀ t, t ∈ tenants ↔ (g.lookup? t).isSome := by
  refine ⟨g.clients.keys.toFinset, ?_, fun t => ?_⟩
  · rw [List.toFinset_card_of_nodup g.clients.nodup_keys, Keyed.length_keys, count]
  · rw [List.mem_toFinset, lookup?, ← not_iff_not, ← Keyed.find?_eq_none_iff]
    simp

end Registry

end DeviceMessaging
