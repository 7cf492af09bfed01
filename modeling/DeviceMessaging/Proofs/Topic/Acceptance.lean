import DeviceMessaging.Proofs.Topic.Base
import DeviceMessaging.Publish

/-!
# `Proofs.Topic.Acceptance` — which topics can be decoded

Three cuts lie between a topic and its context: at the first question mark, at one slash in front of it,
and at every slash of what remains. This file composes them into a condition on the topic as it was
published.

## Contents
- `TopicPath.parse_of_segments`, `TopicPath.parse_of_no_endpoint`: reading a base path.
- `segments_basePath_of_isBreak`, `segments_basePath_place`: the first segment, read off the topic.
- `HasForm`: endpoint, tenant, device and a break; `segments_basePath_form` and its converse
  `exists_hasForm`.
- `TopicFault.toError_noEndpoint`, `toError_noTenant`, `toError_noDevice`: refusals in words.
- `decode_by_topic`: what is accepted, with which context, and why the rest is refused.
-/

namespace DeviceMessaging

open Text

/-! ## Reading a base path -/

theorem TopicPath.parse_of_segments {s e : String} {more : List String}
    (hs : segments '/' s = e :: more) (he : e ≠ "") :
    TopicPath.parse s = .ok ⟨e, idSegment more[0]?, idSegment more[1]?, more.drop 2⟩ := by
  simp [TopicPath.parse, hs, he]

theorem TopicPath.parse_of_no_endpoint {s : String} {more : List String}
    (hs : segments '/' s = "" :: more) : TopicPath.parse s = .error (.noEndpoint s) := by
  simp [TopicPath.parse, hs]

theorem TopicPath.idSegment_eq_some_iff {segment : Option String} {id : String} :
    idSegment segment = some id ↔ segment = some id ∧ id ≠ "" := by
  simp [idSegment, Option.filter_eq_some_iff]

theorem TopicPath.idSegment_eq_none_iff {segment : Option String} :
    idSegment segment = none ↔ segment.getD "" = "" := by
  cases segment with
  | none => simp [idSegment]
  | some s => simp [idSegment, Option.filter_eq_none_iff]

/-! ## The first segment -/

theorem segments_basePath_of_isBreak {topic : String} (h : IsBreak topic) :
    ∃ ws, segments '/' (basePath topic) = "" :: ws := by
  obtain ⟨more, hbase, hmore⟩ := basePath_append_break (a := "") (by simp) (by simp) h
  rw [String.empty_append] at hbase
  rw [hbase]
  have hempty : ∀ w ∈ [""], '/' ∉ w.toList := by simp
  simpa using segments_intercalate_append (by simp) hempty hmore

theorem segments_basePath_place {e rest : String} (he : IsPlace e) (h : IsBreak rest) :
    ∃ ws, segments '/' (basePath (e ++ rest)) = e :: ws := by
  have hplaces : ∀ w ∈ [e], IsPlace w := fun w hw => List.mem_singleton.mp hw ▸ he
  simpa using segments_basePath_places (by simp) hplaces h

/-- **Only topics that begin with a break lack the endpoint.** -/
theorem parse_basePath_of_isBreak {topic : String} (h : IsBreak topic) :
    TopicPath.parse (basePath topic) = .error (.noEndpoint (basePath topic)) := by
  obtain ⟨ws, hws⟩ := segments_basePath_of_isBreak h
  exact TopicPath.parse_of_no_endpoint hws

/-- All other topics have one, and are read segment by segment. -/
theorem parse_basePath_of_not_isBreak {topic : String} (h : ¬IsBreak topic) :
    ∃ e ws, segments '/' (basePath topic) = e :: ws ∧
      TopicPath.parse (basePath topic) =
        .ok ⟨e, TopicPath.idSegment ws[0]?, TopicPath.idSegment ws[1]?, ws.drop 2⟩ := by
  obtain ⟨e, rest, he, hrest, rfl⟩ := exists_eq_place_append h
  obtain ⟨ws, hws⟩ := segments_basePath_place he hrest
  exact ⟨e, ws, hws, TopicPath.parse_of_segments hws he.ne_empty⟩

/-! ## Topics that name tenant and device -/

/-- The topic reads endpoint, tenant and device, and there its identity ends. -/
structure HasForm (topic e t d rest : String) : Prop where
  eq : topic = e ++ "/" ++ t ++ "/" ++ d ++ rest
  endpoint : IsPlace e
  tenant : IsPlace t
  device : IsPlace d
  break_rest : IsBreak rest

/-- The three places of a topic that has the form, joined. -/
theorem HasForm.eq_intercalate {topic e t d rest : String} (h : HasForm topic e t d rest) :
    topic = "/".intercalate [e, t, d] ++ rest := by
  rw [h.eq]
  simp [String.intercalate_cons_cons, String.append_assoc]

theorem segments_basePath_form {topic e t d rest : String} (h : HasForm topic e t d rest) :
    ∃ ws, segments '/' (basePath topic) = e :: t :: d :: ws := by
  have hplaces : ∀ w ∈ [e, t, d], IsPlace w := by
    simp [h.endpoint, h.tenant, h.device]
  rw [h.eq_intercalate]
  exact segments_basePath_places (by simp) hplaces h.break_rest

/-- A topic whose base path has three segments at its front, none of them empty, has the form. -/
theorem exists_hasForm {topic e t d : String} {ws : List String}
    (hs : segments '/' (basePath topic) = e :: t :: d :: ws) (he : e ≠ "") (ht : t ≠ "") (hd : d ≠ "") :
    ∃ rest, HasForm topic e t d rest := by
  have hne : ∀ w ∈ [e, t, d], w ≠ "" := by simp [he, ht, hd]
  have hs : segments '/' (basePath topic) = [e, t, d] ++ ws := hs
  obtain ⟨hplaces, rest, hrest, htopic⟩ := exists_eq_places_append (by simp) hs hne
  refine ⟨rest, ?_, hplaces e (by simp), hplaces t (by simp), hplaces d (by simp), hrest⟩
  rw [htopic]
  simp [String.intercalate_cons_cons, String.append_assoc]

/-! ## Refusals in words -/

namespace TopicFault

theorem toError_noEndpoint (topic : String) :
    (noEndpoint topic).toError = .malformedTopic ("Endpoint missing in topic '" ++ topic ++ "'") := rfl

/-- The form that is expected, in quotes. -/
theorem append_expectedForm (front : String) :
    front ++ "': expected " ++ expectedForm =
      front ++ "': expected '\x7bendpoint\x7d/\x7btenant_id\x7d/\x7bdevice_id\x7d'" :=
  String.append_assoc

theorem toError_noTenant (topic : String) :
    (noTenant topic).toError = .malformedTopic ("Tenant ID missing in topic '" ++ topic ++
      "': expected '\x7bendpoint\x7d/\x7btenant_id\x7d/\x7bdevice_id\x7d'") :=
  congrArg Error.malformedTopic (append_expectedForm _)

theorem toError_noDevice (topic : String) :
    (noDevice topic).toError = .malformedTopic ("Device ID missing in topic '" ++ topic ++
      "': expected '\x7bendpoint\x7d/\x7btenant_id\x7d/\x7bdevice_id\x7d'") :=
  congrArg Error.malformedTopic (append_expectedForm _)

end TopicFault

/-! ## Decoding -/

namespace TopicResolver

/-- Decoding reads the base path and then looks for an identity. -/
theorem outcome_decode (resolver : TopicResolver) (m : Publish) (device : Option Device) :
    (resolver.decode m device).outcome =
      match TopicPath.parse (basePath m.topic) with
      | .error f => .error f.toError
      | .ok path =>
        (resolver.contextOf m device (basePath m.topic) (PropertyBag.split m.topic).2 path).mapError
          TopicFault.toError := by
  rw [← split_fst]
  simp only [decode]
  cases TopicPath.parse (PropertyBag.split m.topic).1 <;> rfl

theorem outcome_decode_of_isBreak (resolver : TopicResolver) {m : Publish} (device : Option Device)
    (h : IsBreak m.topic) :
    (resolver.decode m device).outcome =
      .error (TopicFault.noEndpoint (basePath m.topic)).toError := by
  rw [outcome_decode, parse_basePath_of_isBreak h]

/-- The context of a message from an authenticated device. -/
theorem outcome_decode_authenticated (resolver : TopicResolver) {m : Publish} (device : Device)
    {path : TopicPath} (h : TopicPath.parse (basePath m.topic) = .ok path) :
    (resolver.decode m (some device)).outcome =
      .ok {
        message := m, endpoint := resolver.endpoints.resolve path.endpoint
        tenant := device.tenant, device := device.device, topic := basePath m.topic, path
        bag := (PropertyBag.split m.topic).2, authenticated := some device } := by
  rw [outcome_decode, h]
  rfl

/-- The context of a message from a device that is known by its topic alone. -/
theorem outcome_decode_of_ids (resolver : TopicResolver) {m : Publish} {path : TopicPath} {t d : String}
    (h : TopicPath.parse (basePath m.topic) = .ok path) (ht : path.tenant = some t)
    (hd : path.device = some d) :
    (resolver.decode m none).outcome =
      .ok {
        message := m, endpoint := resolver.endpoints.resolve path.endpoint
        tenant := t, device := d, topic := basePath m.topic, path
        bag := (PropertyBag.split m.topic).2, authenticated := none } := by
  rw [outcome_decode, h]
  simp only [contextOf, identityOf, TopicPath.requireTenant, TopicPath.requireDevice, ht, hd]
  rfl

theorem outcome_decode_of_no_tenant (resolver : TopicResolver) {m : Publish} {path : TopicPath}
    (h : TopicPath.parse (basePath m.topic) = .ok path) (ht : path.tenant = none) :
    (resolver.decode m none).outcome = .error (TopicFault.noTenant path.render).toError := by
  rw [outcome_decode, h]
  simp only [contextOf, identityOf, TopicPath.requireTenant, ht]
  rfl

theorem outcome_decode_of_no_device (resolver : TopicResolver) {m : Publish} {path : TopicPath}
    {t : String} (h : TopicPath.parse (basePath m.topic) = .ok path) (ht : path.tenant = some t)
    (hd : path.device = none) :
    (resolver.decode m none).outcome = .error (TopicFault.noDevice path.render).toError := by
  rw [outcome_decode, h]
  simp only [contextOf, identityOf, TopicPath.requireTenant, TopicPath.requireDevice, ht, hd]
  rfl

end TopicResolver

/-! ## Acceptance -/

/-- A device that is not authenticated needs a topic with both ids. -/
theorem exists_ids_iff_hasForm {topic : String} :
    (∃ path t d, TopicPath.parse (basePath topic) = .ok path ∧ path.tenant = some t ∧
      path.device = some d) ↔ ∃ e t d rest, HasForm topic e t d rest := by
  constructor
  · rintro ⟨path, t, d, hpath, ht, hd⟩
    by_cases hbreak : IsBreak topic
    · rw [parse_basePath_of_isBreak hbreak] at hpath
      cases hpath
    · obtain ⟨e, rest, he, hrest, rfl⟩ := exists_eq_place_append hbreak
      obtain ⟨ws, hws⟩ := segments_basePath_place he hrest
      rw [TopicPath.parse_of_segments hws he.ne_empty] at hpath
      cases hpath
      -- both ids are there, so the base path has three segments
      obtain ⟨ht', htne⟩ := TopicPath.idSegment_eq_some_iff.mp ht
      obtain ⟨hd', hdne⟩ := TopicPath.idSegment_eq_some_iff.mp hd
      match ws, ht', hd' with
      | t' :: d' :: more, ht', hd' =>
        cases ht'
        cases hd'
        obtain ⟨tail, hform⟩ := exists_hasForm hws he.ne_empty htne hdne
        exact ⟨e, t, d, tail, hform⟩
  · rintro ⟨e, t, d, rest, h⟩
    obtain ⟨ws, hws⟩ := segments_basePath_form h
    exact ⟨_, t, d, TopicPath.parse_of_segments hws h.endpoint.ne_empty,
      TopicPath.idSegment_eq_some_iff.mpr ⟨rfl, h.tenant.ne_empty⟩,
      TopicPath.idSegment_eq_some_iff.mpr ⟨rfl, h.device.ne_empty⟩⟩

/-- The context of a topic that has the form, field by field. -/
theorem exists_context_of_hasForm (resolver : TopicResolver) {m : Publish} {e t d rest : String}
    (h : HasForm m.topic e t d rest) :
    ∃ c, (resolver.decode m none).outcome = .ok c ∧ c.tenant = t ∧ c.device = d ∧
      c.endpoint = resolver.endpoints.resolve e ∧ c.topic = basePath m.topic ∧
      c.extras = (segments '/' c.topic).drop 3 := by
  obtain ⟨ws, hws⟩ := segments_basePath_form h
  have hpath := TopicPath.parse_of_segments hws h.endpoint.ne_empty
  refine ⟨_, resolver.outcome_decode_of_ids hpath
    (TopicPath.idSegment_eq_some_iff.mpr ⟨rfl, h.tenant.ne_empty⟩)
    (TopicPath.idSegment_eq_some_iff.mpr ⟨rfl, h.device.ne_empty⟩), rfl, rfl, rfl, rfl, ?_⟩
  simp [PublishContext.extras, hws]

theorem isOk_unauthenticated_iff (resolver : TopicResolver) (m : Publish) :
    (∃ c, (resolver.decode m none).outcome = .ok c) ↔ ∃ e t d rest, HasForm m.topic e t d rest := by
  constructor
  · rintro ⟨c, hc⟩
    rw [← exists_ids_iff_hasForm]
    by_cases hbreak : IsBreak m.topic
    · rw [resolver.outcome_decode_of_isBreak none hbreak] at hc
      cases hc
    · obtain ⟨e, ws, -, hpath⟩ := parse_basePath_of_not_isBreak hbreak
      cases ht : TopicPath.idSegment ws[0]? with
      | none =>
          rw [resolver.outcome_decode_of_no_tenant hpath ht] at hc
          cases hc
      | some t =>
          cases hd : TopicPath.idSegment ws[1]? with
          | none =>
              rw [resolver.outcome_decode_of_no_device hpath ht hd] at hc
              cases hc
          | some d => exact ⟨_, t, d, hpath, ht, hd⟩
  · rintro ⟨e, t, d, rest, h⟩
    obtain ⟨c, hc, -⟩ := exists_context_of_hasForm resolver h
    exact ⟨c, hc⟩

/-- An authenticated device needs no more than an endpoint. -/
theorem isOk_authenticated_iff (resolver : TopicResolver) (m : Publish) (device : Device) :
    (∃ c, (resolver.decode m (some device)).outcome = .ok c) ↔ ¬IsBreak m.topic := by
  constructor
  · rintro ⟨c, hc⟩ hbreak
    rw [resolver.outcome_decode_of_isBreak _ hbreak] at hc
    cases hc
  · intro hbreak
    obtain ⟨e, ws, -, hpath⟩ := parse_basePath_of_not_isBreak hbreak
    exact ⟨_, resolver.outcome_decode_authenticated device hpath⟩

/-- A refused topic that has an endpoint belongs to a device that is not authenticated, and lacks the
tenant or else the device. -/
theorem refusal_of_not_isBreak (resolver : TopicResolver) {m : Publish} {device : Option Device}
    {err : Error} (hbreak : ¬IsBreak m.topic) (herr : (resolver.decode m device).outcome = .error err) :
    device = none ∧ ∃ path, TopicPath.parse (basePath m.topic) = .ok path ∧
      err = if (segments '/' (basePath m.topic))[1]?.getD "" = "" then
          .malformedTopic ("Tenant ID missing in topic '" ++ path.render ++
            "': expected '\x7bendpoint\x7d/\x7btenant_id\x7d/\x7bdevice_id\x7d'")
        else .malformedTopic ("Device ID missing in topic '" ++ path.render ++
            "': expected '\x7bendpoint\x7d/\x7btenant_id\x7d/\x7bdevice_id\x7d'") := by
  obtain ⟨e, ws, hws, hpath⟩ := parse_basePath_of_not_isBreak hbreak
  cases device with
  | some device =>
      rw [resolver.outcome_decode_authenticated device hpath] at herr
      cases herr
  | none =>
      refine ⟨rfl, _, hpath, ?_⟩
      rw [hws, List.getElem?_cons_succ]
      rcases Option.eq_none_or_eq_some (TopicPath.idSegment ws[0]?) with ht | ⟨t, ht⟩
      · rw [if_pos (TopicPath.idSegment_eq_none_iff.mp ht)]
        rw [resolver.outcome_decode_of_no_tenant hpath ht, TopicFault.toError_noTenant] at herr
        exact (Except.error.inj herr).symm
      · have htenant : ws[0]?.getD "" ≠ "" := fun hc =>
          Option.some_ne_none t (ht.symm.trans (TopicPath.idSegment_eq_none_iff.mpr hc))
        rw [if_neg htenant]
        rcases Option.eq_none_or_eq_some (TopicPath.idSegment ws[1]?) with hd | ⟨d, hd⟩
        · rw [resolver.outcome_decode_of_no_device hpath ht hd, TopicFault.toError_noDevice] at herr
          exact (Except.error.inj herr).symm
        · rw [resolver.outcome_decode_of_ids hpath ht hd] at herr
          cases herr

/-- **Which topics are accepted, with which context, and why the others are refused.** -/
theorem decode_by_topic (resolver : TopicResolver) (m : Publish) :
    ((∃ c, (resolver.decode m none).outcome = .ok c) ↔ ∃ e t d rest, HasForm m.topic e t d rest) ∧
    (∀ e t d rest, HasForm m.topic e t d rest →
      ∃ c, (resolver.decode m none).outcome = .ok c ∧ c.tenant = t ∧ c.device = d ∧
        c.endpoint = resolver.endpoints.resolve e ∧ c.topic = basePath m.topic ∧
        c.extras = (segments '/' c.topic).drop 3) ∧
    (∀ device, (∃ c, (resolver.decode m (some device)).outcome = .ok c) ↔ ¬IsBreak m.topic) ∧
    (∀ device err, (resolver.decode m device).outcome = .error err →
      err.status = 400 ∧
      (IsBreak m.topic →
        err = .malformedTopic ("Endpoint missing in topic '" ++ basePath m.topic ++ "'")) ∧
      (¬IsBreak m.topic → device = none ∧
        ∃ path, TopicPath.parse (basePath m.topic) = .ok path ∧
          err = if (segments '/' (basePath m.topic))[1]?.getD "" = "" then
              .malformedTopic ("Tenant ID missing in topic '" ++ path.render ++
                "': expected '\x7bendpoint\x7d/\x7btenant_id\x7d/\x7bdevice_id\x7d'")
            else .malformedTopic ("Device ID missing in topic '" ++ path.render ++
                "': expected '\x7bendpoint\x7d/\x7btenant_id\x7d/\x7bdevice_id\x7d'"))) := by
  refine ⟨isOk_unauthenticated_iff resolver m, fun e t d rest => exists_context_of_hasForm resolver,
    isOk_authenticated_iff resolver m, fun device err herr => ⟨?_, fun hbreak => ?_, fun hbreak => ?_⟩⟩
  · by_cases hbreak : IsBreak m.topic
    · rw [resolver.outcome_decode_of_isBreak device hbreak] at herr
      cases herr
      rfl
    · obtain ⟨-, path, -, rfl⟩ := refusal_of_not_isBreak resolver hbreak herr
      split <;> rfl
  · rw [resolver.outcome_decode_of_isBreak device hbreak, TopicFault.toError_noEndpoint] at herr
    exact (Except.error.inj herr).symm
  · exact refusal_of_not_isBreak resolver hbreak herr

/-- The slash in front of the question mark goes, the empty segment stays. -/
theorem decode_extras_and_query :
    HasForm "e/tenant/device//x/?a=b" "e" "tenant" "device" "//x/?a=b" ∧
    ∃ c, (TopicResolver.standard.decode ⟨"e/tenant/device//x/?a=b", .atMostOnce, []⟩ none).outcome = .ok c ∧
      c.tenant = "tenant" ∧ c.device = "device" ∧ c.endpoint = .event ∧
      c.topic = "e/tenant/device//x" ∧ c.extras = ["", "x"] := by
  have hform : HasForm "e/tenant/device//x/?a=b" "e" "tenant" "device" "//x/?a=b" :=
    ⟨by decide, by decide, by decide, by decide, by decide⟩
  obtain ⟨c, hc, ht, hd, he, htopic, hextras⟩ :=
    (decode_by_topic TopicResolver.standard ⟨"e/tenant/device//x/?a=b", .atMostOnce, []⟩).2.1 _ _ _ _ hform
  exact ⟨hform, c, hc, ht, hd, he.trans (by decide), htopic.trans (by decide),
    hextras.trans (by rw [htopic]; decide)⟩

/-- A missing tenant is reported before a missing device. -/
example : (TopicResolver.standard.decode ⟨"t//?a=b", .atMostOnce, []⟩ none).outcome =
    .error (.malformedTopic
      "Tenant ID missing in topic 't': expected '\x7bendpoint\x7d/\x7btenant_id\x7d/\x7bdevice_id\x7d'") := rfl

end DeviceMessaging
