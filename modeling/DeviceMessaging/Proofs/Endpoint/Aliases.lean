import DeviceMessaging.Proofs.Endpoint.Grammar
import DeviceMessaging.Proofs.Topic.Acceptance
import DeviceMessaging.Settings.Basic

/-!
# `Proofs.Endpoint.Aliases` — which aliases a topic can name

Alias lists and topics are read by rules of their own. An alias may not contain a slash. A topic is cut at its
first question mark and then at its slashes. So a topic can name every alias but those with a question mark.

## Contents
- `outcome_of_named`, `no_outcome_of_query`: publishing on a name of an endpoint.
- `alias_usable_iff`, `alias_with_query_unusable`: the aliases that topics can name.
-/

namespace DeviceMessaging

open Text

/-! ## Publishing on a name -/

/-- A message from a device that is not authenticated, published on the name of an endpoint. -/
def Publish.onName (name tenant device : String) (qos : QoS) (payload : List UInt8) : Publish :=
  ⟨name ++ "/" ++ tenant ++ "/" ++ device, qos, payload⟩

section Named

variable (resolver : TopicResolver) {name tenant device : String} (qos : QoS) (payload : List UInt8)

/-- A name that can be a segment is what the endpoint is resolved by. -/
theorem outcome_of_named (hname : IsPlace name) (htenant : IsPlace tenant) (hdevice : IsPlace device) :
    ∃ c, (resolver.decode (.onName name tenant device qos payload) none).outcome = .ok c ∧
      c.endpoint = resolver.endpoints.resolve name ∧ c.tenant = tenant ∧ c.device = device := by
  have hform : HasForm (Publish.onName name tenant device qos payload).topic name tenant device "" :=
    ⟨String.append_empty.symm, hname, htenant, hdevice, isBreak_empty⟩
  obtain ⟨c, hc, ht, hd, he, -⟩ := exists_context_of_hasForm resolver hform
  exact ⟨c, hc, he, ht, hd⟩

/-- A name with a question mark ends the topic before the tenant. -/
theorem no_outcome_of_query (hslash : '/' ∉ name.toList) (hquery : '?' ∈ name.toList)
    (c : PublishContext) :
    (resolver.decode (.onName name tenant device qos payload) none).outcome ≠ .ok c := by
  intro hc
  obtain ⟨e, t, d, rest, hform⟩ := (isOk_unauthenticated_iff resolver _).mp ⟨c, hc⟩
  have htopic : name ++ "/" ++ (tenant ++ "/" ++ device) = e ++ "/" ++ (t ++ "/" ++ d ++ rest) := by
    have heq : name ++ "/" ++ tenant ++ "/" ++ device = e ++ "/" ++ t ++ "/" ++ d ++ rest := hform.eq
    simpa only [String.append_assoc] using heq
  -- both sides have the same first segment, and that of a topic that is accepted has no question mark
  have hname : cut '/' (name ++ "/" ++ (tenant ++ "/" ++ device)) = some (name, tenant ++ "/" ++ device) :=
    cut_append hslash
  have hfirst : cut '/' (e ++ "/" ++ (t ++ "/" ++ d ++ rest)) = some (e, t ++ "/" ++ d ++ rest) :=
    cut_append hform.endpoint.no_slash
  rw [htopic, hfirst] at hname
  have he : e = name := congrArg Prod.fst (Option.some.inj hname)
  exact hform.endpoint.no_query (he ▸ hquery)

end Named

/-- **Topics can name exactly the aliases without a question mark**: publishing on such an alias, with any
tenant and device, is decoded to the kind of the last entry for it. Valid settings with these aliases have
the table that the aliases give, and a resolver over it. -/
theorem alias_usable_iff (aliases : String) :
    (∀ table, EndpointTable.standard.withAliases aliases = .ok table →
      ∀ name kind, LastAlias aliases name kind →
        ∀ tenant device, IsPlace tenant → IsPlace device → ∀ qos payload,
          (∃ c, ((TopicResolver.mk table).decode (.onName name tenant device qos payload) none).outcome =
              .ok c ∧ c.endpoint = kind ∧ c.tenant = tenant ∧ c.device = device) ↔
            '?' ∉ name.toList) ∧
    ∀ settings : Settings, settings.endpointAliases = aliases → settings.validate = .ok () →
      ∃ table, EndpointTable.standard.withAliases aliases = .ok table ∧
        settings.resolver = .ok ⟨table⟩ := by
  constructor
  · intro table htable name kind hlast tenant device htenant hdevice qos payload
    obtain ⟨-, entry, -, -, halias, -⟩ := id hlast
    constructor
    · rintro ⟨c, hc, -⟩ hquery
      exact no_outcome_of_query ⟨table⟩ qos payload halias.name_slash hquery c hc
    · intro hquery
      obtain ⟨c, hc, he, ht, hd⟩ :=
        outcome_of_named ⟨table⟩ qos payload ⟨halias.name_ne, halias.name_slash, hquery⟩ htenant hdevice
      exact ⟨c, hc, he.trans (resolve_of_lastAlias htable hlast), ht, hd⟩
  · rintro settings rfl hvalid
    cases htable : settings.endpointTable with
    | error f =>
        rw [Settings.validate, htable] at hvalid
        split at hvalid <;> cases hvalid
    | ok table =>
        refine ⟨table, htable, ?_⟩
        rw [Settings.resolver, htable]
        rfl

/-- Two entries for one name, the second with blanks: the name stands for the kind of the second one. -/
theorem last_alias_is_used :
    ∃ table, EndpointTable.standard.withAliases "x=event, x =command" = .ok table ∧
      ∃ c, ((TopicResolver.mk table).decode (.onName "x" "a" "b" .atMostOnce []) none).outcome = .ok c ∧
        c.endpoint = .command ∧ c.tenant = "a" ∧ c.device = "b" := by
  have halias : IsAlias "x =command" "x" .command :=
    ⟨⟨"x ", "command", rfl, by decide, by decide, by decide⟩, by decide, by decide, by decide⟩
  have hlast : LastAlias "x=event, x =command" "x" .command :=
    ⟨["x=event"], "x =command", [], by decide, halias, by simp⟩
  obtain ⟨husable, hvalid⟩ := alias_usable_iff "x=event, x =command"
  obtain ⟨table, htable, -⟩ := hvalid { endpointAliases := "x=event, x =command" } rfl rfl
  have hplaces : IsPlace "a" ∧ IsPlace "b" := by decide
  exact ⟨table, htable, (husable table htable _ _ hlast _ _ hplaces.1 hplaces.2 _ _).mpr (by decide)⟩

/-- **An alias with a question mark is accepted, and no topic can name it**: the question mark ends the
topic before its tenant. -/
theorem alias_with_query_unusable :
    ∃ settings : Settings, settings.validate = .ok () ∧
      LastAlias settings.endpointAliases "a?b" .telemetry ∧
      ∃ resolver, settings.resolver = .ok resolver ∧
        (resolver.decode (.onName "a?b" "tenant" "device" .atMostOnce []) none).outcome =
          .error (.malformedTopic
            "Tenant ID missing in topic 'a': expected '\x7bendpoint\x7d/\x7btenant_id\x7d/\x7bdevice_id\x7d'") := by
  have halias : IsAlias "a?b=telemetry" "a?b" .telemetry :=
    ⟨⟨"a?b", "telemetry", rfl, by decide, by decide, by decide⟩, by decide, by decide, by decide⟩
  have hlast : LastAlias "a?b=telemetry" "a?b" .telemetry :=
    ⟨[], "a?b=telemetry", [], by decide, halias, by simp⟩
  exact ⟨{ endpointAliases := "a?b=telemetry" }, rfl, hlast, _, rfl, rfl⟩

end DeviceMessaging
