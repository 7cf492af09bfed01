import DeviceMessaging.Proofs.Topic.Rendering

/-!
# `Proofs.Topic.Independence` — what the query and the table have no say in

Whoever publishes a message chooses its query, and whoever runs the resolver chooses the table of endpoints.
Neither of them decides whom the message is from: two messages with the same base path are accepted or
refused together, whatever follows the question mark and whatever the endpoint stands for.

## Contents
- `head?_segments_dropLast`: a slash at the end is no part of the first segment.
- `PublishContext.SameOrigin`, `decode_of_basePath_eq`: two runs on one base path.
- `query_has_no_say_in_identity`, with `query_naming_another_device`.
-/

namespace DeviceMessaging

open Text

/-- A slash at the end of a text is no part of its first segment. -/
theorem head?_segments_dropLast (s : String) :
    (segments '/' (dropLast '/' s)).head? = (segments '/' s).head? := by
  rcases eq_dropLast_or '/' s with hs | hs
  · rw [← hs]
  · have hsegments : segments '/' s = segments '/' (dropLast '/' s) ++ [""] := by
      rw [← segments_append_singleton, ← hs]
    rw [hsegments]
    cases hfront : segments '/' (dropLast '/' s) with
    | nil => exact absurd hfront (segments_ne_nil '/' _)
    | cons e more => rfl

/-! ## Two runs -/

/-- Two contexts tell the same of whom a message is from, and of what its topic reads. -/
structure PublishContext.SameOrigin (c c' : PublishContext) : Prop where
  tenant : c'.tenant = c.tenant
  device : c'.device = c.device
  topic : c'.topic = c.topic
  path : c'.path = c.path
  extras : c'.extras = c.extras

/-- **Two runs on one base path**: both messages are refused for the same reason, or both are accepted and
tell the same, but for the kind of the endpoint and the bag. -/
theorem decode_of_basePath_eq (first second : TopicResolver) {m n : Publish} (who : Option Device)
    (h : basePath n.topic = basePath m.topic) :
    (∃ detail, (first.decode m who).outcome = .error (.malformedTopic detail) ∧
      (second.decode n who).outcome = .error (.malformedTopic detail)) ∨
    ∃ c c', (first.decode m who).outcome = .ok c ∧ (second.decode n who).outcome = .ok c' ∧
      c.SameOrigin c' ∧ TopicPath.parse (basePath m.topic) = .ok c.path ∧
      c.endpoint = first.endpoints.resolve c.path.endpoint ∧
      c'.endpoint = second.endpoints.resolve c.path.endpoint ∧
      c.bag = (PropertyBag.split m.topic).2 := by
  cases hpath : TopicPath.parse (basePath m.topic) with
  | error f =>
      -- the base path has no endpoint, and nothing else is looked at
      have hpath' : TopicPath.parse (basePath n.topic) = .error f := h ▸ hpath
      refine .inl ⟨f.detail, ?_, ?_⟩
      · rw [TopicResolver.outcome_decode, hpath]
        rfl
      · rw [TopicResolver.outcome_decode, hpath']
        rfl
  | ok path =>
      have hpath' : TopicPath.parse (basePath n.topic) = .ok path := h ▸ hpath
      cases hids : identityOf path who with
      | error f =>
          have hrefused : ∀ (resolver : TopicResolver) (message : Publish),
              TopicPath.parse (basePath message.topic) = .ok path →
                (resolver.decode message who).outcome = .error (.malformedTopic f.detail) := by
            intro resolver message hmessage
            rw [TopicResolver.outcome_decode, hmessage]
            simp only [TopicResolver.contextOf, hids]
            rfl
          exact .inl ⟨f.detail, hrefused first m hpath, hrefused second n hpath'⟩
      | ok ids =>
          obtain ⟨tenant, device⟩ := ids
          refine .inr ⟨_, _, first.outcome_decode_of_identity hpath hids,
            second.outcome_decode_of_identity hpath' hids, ⟨rfl, rfl, h, rfl, rfl⟩, rfl, rfl, rfl, rfl⟩

/-! ## Queries and tables -/

/-- **The query and the table have no say in whom a message is from**: behind `path` any query can be written
and any table can be used, and the outcome is that of the topic without a query, less one slash at its end.
The kind of the endpoint is what the table says of the first segment, and the bag is what the query says. -/
theorem query_has_no_say_in_identity (path query : String) (hpath : '?' ∉ path.toList)
    (who : Option Device) (first second : TopicResolver) (qos qos' : QoS) (payload payload' : List UInt8) :
    let asked := (first.decode ⟨path ++ "?" ++ query, qos, payload⟩ who).outcome
    let plain := (second.decode ⟨dropLast '/' path, qos', payload'⟩ who).outcome
    (∃ detail, asked = .error (.malformedTopic detail) ∧ plain = .error (.malformedTopic detail)) ∨
    ∃ c c', asked = .ok c ∧ plain = .ok c' ∧ c.SameOrigin c' ∧
      (∀ e, (segments '/' path).head? = some e →
        first.endpoints.resolve e = second.endpoints.resolve e → c'.endpoint = c.endpoint) ∧
      c.bag = PropertyBag.ofQuery query := by
  intro asked plain
  have hplain : '?' ∉ (dropLast '/' path).toList := fun h => hpath (mem_of_mem_dropLast h)
  have hbase : basePath (dropLast '/' path) = basePath (path ++ "?" ++ query) := by
    rw [basePath_of_not_mem hplain, basePath_append_query hpath]
  have hruns := decode_of_basePath_eq first second
    (m := ⟨path ++ "?" ++ query, qos, payload⟩) (n := ⟨dropLast '/' path, qos', payload'⟩) who hbase
  refine hruns.imp_right ?_
  rintro ⟨c, c', hc, hc', hsame, hparse, hkind, hkind', hbag⟩
  refine ⟨c, c', hc, hc', hsame, ?_, ?_⟩
  · intro e he hresolve
    have hparse : TopicPath.parse (dropLast '/' path) = .ok c.path := by
      rwa [basePath_append_query hpath] at hparse
    obtain ⟨more, hsegments, -, -⟩ := TopicPath.exists_segments_of_parse hparse
    have hfirst : c.path.endpoint = e := by
      rw [← head?_segments_dropLast, hsegments] at he
      exact Option.some.inj he
    rw [hkind', hkind, hfirst, hresolve]
  · rw [hbag, split_append_query hpath]

/-- A query that names another device and contains separators of all kinds: the device of the topic stays,
and the two tables differ only about the endpoint. -/
theorem query_naming_another_device :
    let query := "device=other&tenant=/x?y/z&&"
    '?' ∉ "e/tenant/device/".toList ∧
    ∃ c c',
      (TopicResolver.standard.decode ⟨"e/tenant/device/" ++ "?" ++ query, .atMostOnce, []⟩ none).outcome =
        .ok c ∧
      ((⟨.empty⟩ : TopicResolver).decode ⟨"e/tenant/device", .atLeastOnce, [1]⟩ none).outcome = .ok c' ∧
      c.SameOrigin c' ∧ c.tenant = "tenant" ∧ c.device = "device" ∧ c.endpoint = .event ∧
      c'.endpoint = .unknown ∧ c.bag = PropertyBag.ofQuery query := by
  intro query
  have hquery : '?' ∉ "e/tenant/device/".toList := by decide
  have hform : HasForm ("e/tenant/device/" ++ "?" ++ query) "e" "tenant" "device" ("/" ++ "?" ++ query) :=
    ⟨by decide, by decide, by decide, by decide, by decide⟩
  have hform' : HasForm "e/tenant/device" "e" "tenant" "device" "" :=
    ⟨by decide, by decide, by decide, by decide, by decide⟩
  have hplain : dropLast '/' "e/tenant/device/" = "e/tenant/device" := by decide
  obtain ⟨d, hd, htenant, hdevice, hkind, -⟩ := exists_context_of_hasForm TopicResolver.standard
    (m := ⟨"e/tenant/device/" ++ "?" ++ query, .atMostOnce, []⟩) hform
  obtain ⟨d', hd', -, -, hkind', -⟩ := exists_context_of_hasForm ⟨.empty⟩
    (m := ⟨"e/tenant/device", .atLeastOnce, [1]⟩) hform'
  rcases query_has_no_say_in_identity "e/tenant/device/" query hquery none TopicResolver.standard ⟨.empty⟩
    .atMostOnce .atLeastOnce [] [1] with ⟨detail, hrefused, -⟩ | ⟨c, c', hc, hc', hsame, -, hbag⟩
  · rw [hd] at hrefused
    cases hrefused
  · rw [hplain] at hc'
    obtain rfl : d = c := Except.ok.inj (hd.symm.trans hc)
    obtain rfl : d' = c' := Except.ok.inj (hd'.symm.trans hc')
    exact ⟨hquery, d, d', hc, hc', hsame, htenant, hdevice, hkind.trans (by decide),
      hkind'.trans (by decide), hbag⟩

end DeviceMessaging
