import DeviceMessaging.Proofs.Topic.Acceptance

/-!
# `Proofs.Topic.Identity` — whose message it is

The identity of an authenticated device decides whom a message is from, and nothing else about it. What
the topic says of the tenant is at most remarked upon: one event is written when it says something else.

## Contents
- `NamesTenant`: a topic that names an endpoint and then a tenant, as it was published.
- `tenant_eq_some_iff_namesTenant`: that is what reading its base path finds.
- `events_decode`, `events_decode_isEmpty_congr`: when the event is written, and what that depends on.
- `PublishContext.SameButIdentity`, `authenticated_identity_wins`.
-/

namespace DeviceMessaging

open Text

/-! ## Topics that name a tenant -/

/-- The topic reads endpoint and tenant, and there its second segment ends. -/
structure NamesTenant (topic e t rest : String) : Prop where
  eq : topic = e ++ "/" ++ t ++ rest
  endpoint : IsPlace e
  tenant : IsPlace t
  break_rest : IsBreak rest

theorem segments_basePath_namesTenant {topic e t rest : String} (h : NamesTenant topic e t rest) :
    ∃ ws, segments '/' (basePath topic) = e :: t :: ws := by
  have hplaces : ∀ w ∈ [e, t], IsPlace w := by
    simp [h.endpoint, h.tenant]
  have htopic : topic = "/".intercalate [e, t] ++ rest := by
    rw [h.eq]
    simp [String.intercalate_cons_cons]
  rw [htopic]
  exact segments_basePath_places (by simp) hplaces h.break_rest

/-- A topic whose base path has two segments at its front, none of them empty, names a tenant. -/
theorem exists_namesTenant {topic e t : String} {ws : List String}
    (hs : segments '/' (basePath topic) = e :: t :: ws) (he : e ≠ "") (ht : t ≠ "") :
    ∃ rest, NamesTenant topic e t rest := by
  have hne : ∀ w ∈ [e, t], w ≠ "" := by simp [he, ht]
  have hs : segments '/' (basePath topic) = [e, t] ++ ws := hs
  obtain ⟨hplaces, rest, hrest, htopic⟩ := exists_eq_places_append (by simp) hs hne
  refine ⟨rest, ?_, hplaces e (by simp), hplaces t (by simp), hrest⟩
  rw [htopic]
  simp [String.intercalate_cons_cons]

/-- **Reading a base path finds a tenant exactly when the topic names it.** -/
theorem tenant_eq_some_iff_namesTenant {topic t : String} :
    (∃ path, TopicPath.parse (basePath topic) = .ok path ∧ path.tenant = some t) ↔
      ∃ e rest, NamesTenant topic e t rest := by
  constructor
  · rintro ⟨path, hpath, ht⟩
    by_cases hbreak : IsBreak topic
    · rw [parse_basePath_of_isBreak hbreak] at hpath
      cases hpath
    · obtain ⟨e, rest, he, hrest, rfl⟩ := exists_eq_place_append hbreak
      obtain ⟨ws, hws⟩ := segments_basePath_place he hrest
      rw [TopicPath.parse_of_segments hws he.ne_empty] at hpath
      cases hpath
      -- the tenant is the segment behind the endpoint, and not empty
      obtain ⟨hfirst, hne⟩ := TopicPath.idSegment_eq_some_iff.mp ht
      obtain ⟨ws', rfl⟩ := List.head?_eq_some_iff.mp (List.head?_eq_getElem? ▸ hfirst)
      obtain ⟨tail, hnames⟩ := exists_namesTenant hws he.ne_empty hne
      exact ⟨e, tail, hnames⟩
  · rintro ⟨e, rest, h⟩
    obtain ⟨ws, hws⟩ := segments_basePath_namesTenant h
    exact ⟨_, TopicPath.parse_of_segments hws h.endpoint.ne_empty,
      TopicPath.idSegment_eq_some_iff.mpr ⟨rfl, h.tenant.ne_empty⟩⟩

/-! ## The event -/

/-- The topic names a tenant, and it is not that of the authenticated device. -/
def NamesOtherTenant (topic : String) (who : Option Device) : Prop :=
  ∃ device e t rest, who = some device ∧ NamesTenant topic e t rest ∧ t ≠ device.tenant

/-- Only the first two segments of a base path tell whether the topic names another tenant. -/
theorem namesOtherTenant_iff_take {topic : String} {device : Device} :
    NamesOtherTenant topic (some device) ↔
      ∃ e t, (segments '/' (basePath topic)).take 2 = [e, t] ∧ e ≠ "" ∧ t ≠ "" ∧ t ≠ device.tenant := by
  constructor
  · rintro ⟨_, e, t, rest, ⟨⟩, hnames, hne⟩
    obtain ⟨ws, hws⟩ := segments_basePath_namesTenant hnames
    refine ⟨e, t, ?_, hnames.endpoint.ne_empty, hnames.tenant.ne_empty, hne⟩
    rw [hws]
    rfl
  · rintro ⟨e, t, htake, he, ht, hne⟩
    have hws : segments '/' (basePath topic) = e :: t :: (segments '/' (basePath topic)).drop 2 := by
      rw [← List.take_append_drop 2 (segments '/' (basePath topic)), htake]
      rfl
    obtain ⟨rest, hnames⟩ := exists_namesTenant hws he ht
    exact ⟨device, e, t, rest, rfl, hnames, hne⟩

theorem assertsOtherTenant_iff {path : TopicPath} {device : Device} :
    assertsOtherTenant path (some device) = true ↔ ∃ t, path.tenant = some t ∧ t ≠ device.tenant := by
  cases h : path.tenant <;> simp [assertsOtherTenant, h]

namespace TopicResolver

variable (resolver : TopicResolver)

/-- Without a device there is nothing to remark upon. -/
theorem events_decode_none (m : Publish) : (resolver.decode m none).events = [] := by
  rw [decode]
  dsimp only
  cases TopicPath.parse (PropertyBag.split m.topic).1 <;> rfl

theorem events_decode_some (m : Publish) (device : Device) :
    (resolver.decode m (some device)).events =
      match TopicPath.parse (basePath m.topic) with
      | .error _ => []
      | .ok path =>
        if assertsOtherTenant path (some device) then [otherTenantEvent m device] else [] := by
  rw [← split_fst, decode]
  dsimp only
  cases TopicPath.parse (PropertyBag.split m.topic).1 <;> rfl

/-- **One event is written when the topic names another tenant**, and none in all other cases. -/
theorem events_decode (m : Publish) (who : Option Device) :
    (NamesOtherTenant m.topic who →
      ∃ device, who = some device ∧ (resolver.decode m who).events = [otherTenantEvent m device]) ∧
    (¬NamesOtherTenant m.topic who → (resolver.decode m who).events = []) := by
  constructor
  · rintro ⟨device, e, t, rest, rfl, hnames, hne⟩
    obtain ⟨path, hpath, ht⟩ := tenant_eq_some_iff_namesTenant.mpr ⟨e, rest, hnames⟩
    have hasserts := assertsOtherTenant_iff.mpr ⟨t, ht, hne⟩
    refine ⟨device, rfl, ?_⟩
    rw [events_decode_some, hpath]
    exact if_pos hasserts
  · intro hnot
    cases who with
    | none => exact resolver.events_decode_none m
    | some device =>
        rw [events_decode_some]
        cases hpath : TopicPath.parse (basePath m.topic) with
        | error f => rfl
        | ok path =>
            refine if_neg fun hasserts => hnot ?_
            obtain ⟨t, ht, hne⟩ := assertsOtherTenant_iff.mp hasserts
            obtain ⟨e, rest, hnames⟩ := tenant_eq_some_iff_namesTenant.mp ⟨path, hpath, ht⟩
            exact ⟨device, e, t, rest, rfl, hnames, hne⟩

/-- The event depends on the first two segments of the topic and on the tenant of the device alone. -/
theorem events_decode_isEmpty_congr {m m' : Publish} {device device' : Device}
    (htenant : device'.tenant = device.tenant)
    (hsegments : (segments '/' (basePath m'.topic)).take 2 = (segments '/' (basePath m.topic)).take 2) :
    (resolver.decode m' (some device')).events = [] ↔ (resolver.decode m (some device)).events = [] := by
  have hother : NamesOtherTenant m'.topic (some device') ↔ NamesOtherTenant m.topic (some device) := by
    rw [namesOtherTenant_iff_take, namesOtherTenant_iff_take, hsegments, htenant]
  have hempty : ∀ (n : Publish) (d : Device),
      (resolver.decode n (some d)).events = [] ↔ ¬NamesOtherTenant n.topic (some d) := by
    intro n d
    refine ⟨fun hnil hnames => ?_, (resolver.events_decode n (some d)).2⟩
    obtain ⟨d', -, hevent⟩ := (resolver.events_decode n (some d)).1 hnames
    rw [hnil] at hevent
    cases hevent
  rw [hempty, hempty, hother]

/-! ## The context -/

/-- A context that is made puts together what was read and whom the message is from. -/
theorem context_of_outcome {m : Publish} {who : Option Device} {c : PublishContext}
    (h : (resolver.decode m who).outcome = .ok c) :
    ∃ path tenant device, TopicPath.parse (basePath m.topic) = .ok path ∧
      identityOf path who = .ok (tenant, device) ∧
      c = {
        message := m, endpoint := resolver.endpoints.resolve path.endpoint, tenant, device
        topic := basePath m.topic, path, bag := (PropertyBag.split m.topic).2, authenticated := who } := by
  rw [outcome_decode] at h
  cases hpath : TopicPath.parse (basePath m.topic) with
  | error f =>
      rw [hpath] at h
      cases h
  | ok path =>
      rw [hpath] at h
      cases hids : identityOf path who with
      | error f =>
          simp only [contextOf, hids] at h
          cases h
      | ok ids =>
          simp only [contextOf, hids] at h
          exact ⟨path, ids.1, ids.2, rfl, hids, (Except.ok.inj h).symm⟩

end TopicResolver

/-- Two contexts tell the same of a message, but for whom it is from. -/
structure PublishContext.SameButIdentity (c c' : PublishContext) : Prop where
  endpoint : c'.endpoint = c.endpoint
  topic : c'.topic = c.topic
  path : c'.path = c.path
  extras : c'.extras = c.extras
  bag : c'.bag = c.bag
  contentType : c'.contentType = c.contentType
  payload : c'.message.payload = c.message.payload
  qos : c'.message.qos = c.message.qos
  message : c'.message = c.message

/-- A device that is authenticated gets the context of one that is not, with its own identity. -/
theorem exists_authenticated_context {resolver : TopicResolver} {m : Publish} {c : PublishContext}
    (h : (resolver.decode m none).outcome = .ok c) (device : Device) :
    ∃ c', (resolver.decode m (some device)).outcome = .ok c' ∧ c.SameButIdentity c' := by
  obtain ⟨path, tenant, id, hpath, -, rfl⟩ := resolver.context_of_outcome h
  exact ⟨_, resolver.outcome_decode_authenticated device hpath,
    ⟨rfl, rfl, rfl, rfl, rfl, rfl, rfl, rfl, rfl⟩⟩

/-- **The authenticated identity wins and changes nothing else**; all that is left of what the topic says
is one event, which depends neither on the id of the device nor on the device that the topic names. -/
theorem authenticated_identity_wins (resolver : TopicResolver) (m : Publish) :
    (∀ device c, (resolver.decode m (some device)).outcome = .ok c →
      c.tenant = device.tenant ∧ c.device = device.device) ∧
    (∀ c, (resolver.decode m none).outcome = .ok c →
      ∀ device, ∃ c', (resolver.decode m (some device)).outcome = .ok c' ∧ c.SameButIdentity c') ∧
    (∀ who, NamesOtherTenant m.topic who →
      ∃ event, (resolver.decode m who).events = [event] ∧ event.level = .debug) ∧
    (∀ who, ¬NamesOtherTenant m.topic who → (resolver.decode m who).events = []) ∧
    (∀ m' device device', device'.tenant = device.tenant →
      (segments '/' (basePath m'.topic)).take 2 = (segments '/' (basePath m.topic)).take 2 →
      ((resolver.decode m' (some device')).events = [] ↔
        (resolver.decode m (some device)).events = [])) := by
  refine ⟨?_, ?_, ?_, ?_, ?_⟩
  · intro device c hc
    obtain ⟨path, tenant, id, -, hids, rfl⟩ := resolver.context_of_outcome hc
    cases hids
    exact ⟨rfl, rfl⟩
  · intro c hc device
    exact exists_authenticated_context hc device
  · intro who hnames
    obtain ⟨device, -, hevents⟩ := (resolver.events_decode m who).1 hnames
    exact ⟨otherTenantEvent m device, hevents, rfl⟩
  · intro who hnot
    exact (resolver.events_decode m who).2 hnot
  · intro m' device device' htenant hsegments
    exact resolver.events_decode_isEmpty_congr htenant hsegments

/-- A device whose topic names another tenant and another device keeps its own identity. -/
theorem spoofed_identity_is_ignored :
    let message : Publish := ⟨"e/spoofed/other/x/?content-type=a", .atMostOnce, []⟩
    let decoding := TopicResolver.standard.decode message (some ⟨"tenant", "4711"⟩)
    (∃ c, (TopicResolver.standard.decode message none).outcome = .ok c ∧ c.tenant = "spoofed" ∧
      ∃ c', decoding.outcome = .ok c' ∧ c'.tenant = "tenant" ∧ c'.device = "4711" ∧
        c.SameButIdentity c') ∧
    NamesOtherTenant message.topic (some ⟨"tenant", "4711"⟩) ∧
    (∃ event, decoding.events = [event] ∧ event.level = .debug) ∧
    ¬NamesOtherTenant message.topic none ∧
    (TopicResolver.standard.decode message none).events = [] ∧
    (segments '/' (basePath "e/spoofed")).take 2 = (segments '/' (basePath message.topic)).take 2 ∧
    (TopicResolver.standard.decode ⟨"e/spoofed", .atMostOnce, []⟩ (some ⟨"tenant", "0"⟩)).events ≠ [] := by
  intro message decoding
  obtain ⟨hwins, hsame, hevent, hsilent, hcongr⟩ :=
    authenticated_identity_wins TopicResolver.standard message
  have hform : HasForm message.topic "e" "spoofed" "other" "/x/?content-type=a" :=
    ⟨by decide, by decide, by decide, by decide, by decide⟩
  have hnames : NamesOtherTenant message.topic (some ⟨"tenant", "4711"⟩) :=
    ⟨_, "e", "spoofed", "/other/x/?content-type=a", rfl,
      ⟨by decide, by decide, by decide, by decide⟩, by decide⟩
  have hnobody : ¬NamesOtherTenant message.topic none := fun ⟨_, _, _, _, hwho, _⟩ => by cases hwho
  have htake : (segments '/' (basePath "e/spoofed")).take 2 =
      (segments '/' (basePath message.topic)).take 2 := by decide
  obtain ⟨c, hc, ht, -⟩ := exists_context_of_hasForm TopicResolver.standard hform
  obtain ⟨c', hc', hagree⟩ := hsame c hc ⟨"tenant", "4711"⟩
  obtain ⟨htenant, hdevice⟩ := hwins _ c' hc'
  obtain ⟨event, hevents, hlevel⟩ := hevent _ hnames
  refine ⟨⟨c, hc, ht, c', hc', htenant, hdevice, hagree⟩, hnames, ⟨event, hevents, hlevel⟩, hnobody,
    hsilent none hnobody, htake, fun hnil => ?_⟩
  -- the other topic has no third segment and the other device another id
  have hnone := (hcongr ⟨"e/spoofed", .atMostOnce, []⟩ ⟨"tenant", "4711"⟩ ⟨"tenant", "0"⟩ rfl htake).mp hnil
  rw [hnone] at hevents
  cases hevents

end DeviceMessaging
