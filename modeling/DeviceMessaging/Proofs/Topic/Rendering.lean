import DeviceMessaging.Proofs.PropertyBag.RoundTrip
import DeviceMessaging.Proofs.Topic.Identity

/-!
# `Proofs.Topic.Rendering` — contexts written as topics and decoded again

The path of a topic is written segment by segment, and ids that are absent leave an empty segment or none.
What is written reads back as the same path, since no segment of a path that was read contains a slash and
no id is empty. With the bag behind it, the text is a topic from which the same context is made.

## Contents
- `TopicPath.WellFormed`: paths that can be told from their text; `parse_render`.
- `wellFormed_of_parse`: paths that were read are of this kind.
- `WellFormed.render_inj`, `reading_undoes_writing`: these paths, and no others, read back from their text.
- `not_mem_render_of_parse`: writing a path adds no question mark.
- `PublishContext.SameReading`, `decode_rendered`: a context survives being written and decoded.
-/

namespace DeviceMessaging

open Text

/-! ## Writing and reading paths -/

namespace TopicPath

/-- A path that can be told from its text: the endpoint is not empty, and neither is an id that is there,
and no segment contains a slash. -/
structure WellFormed (p : TopicPath) : Prop where
  endpoint_ne : p.endpoint ≠ ""
  endpoint_slash : '/' ∉ p.endpoint.toList
  tenant : ∀ t, p.tenant = some t → t ≠ "" ∧ '/' ∉ t.toList
  device : ∀ d, p.device = some d → d ≠ "" ∧ '/' ∉ d.toList
  extras : ∀ s ∈ p.extras, '/' ∉ s.toList

/-- The segments that a path is written with. -/
def written (p : TopicPath) : List String := p.endpoint :: (p.idSegments ++ p.extras)

/-- The id segments are the ids, with nothing in the place of one that is absent. -/
theorem mem_idSegments {p : TopicPath} {s : String} (h : s ∈ p.idSegments) :
    s = "" ∨ p.tenant = some s ∨ p.device = some s := by
  unfold idSegments at h
  split at h
  · exact absurd h List.not_mem_nil
  · next t ht _ _ => exact .inr (.inl (by rw [List.mem_singleton.mp h, ht]))
  · rcases List.mem_cons.mp h with rfl | h
    · cases p.tenant with
      | none => exact .inl rfl
      | some t => exact .inr (.inl rfl)
    · rw [List.mem_singleton.mp h]
      cases p.device with
      | none => exact .inl rfl
      | some d => exact .inr (.inr rfl)

theorem mem_written {p : TopicPath} {s : String} (h : s ∈ p.written) :
    s = "" ∨ s = p.endpoint ∨ p.tenant = some s ∨ p.device = some s ∨ s ∈ p.extras := by
  rcases List.mem_cons.mp h with h | h
  · exact .inr (.inl h)
  · rcases List.mem_append.mp h with h | h
    · rcases mem_idSegments h with h | h | h
      · exact .inl h
      · exact .inr (.inr (.inl h))
      · exact .inr (.inr (.inr (.inl h)))
    · exact .inr (.inr (.inr (.inr h)))

theorem WellFormed.not_mem_of_mem_written {p : TopicPath} (hp : p.WellFormed) {s : String}
    (h : s ∈ p.written) : '/' ∉ s.toList := by
  rcases mem_written h with rfl | rfl | h | h | h
  · simp
  · exact hp.endpoint_slash
  · exact (hp.tenant s h).2
  · exact (hp.device s h).2
  · exact hp.extras s h

/-- The segments of the text are those that were written. -/
theorem WellFormed.segments_render {p : TopicPath} (hp : p.WellFormed) :
    segments '/' p.render = p.written := by
  have hslash : ∀ w ∈ p.written, '/' ∉ w.toList := fun w hw => hp.not_mem_of_mem_written hw
  exact segments_intercalate (List.cons_ne_nil _ _) hslash

theorem idSegment_getD {id : Option String} (h : ∀ s, id = some s → s ≠ "") :
    idSegment (some (id.getD "")) = id := by
  cases id with
  | none => rfl
  | some s => exact idSegment_eq_some_iff.mpr ⟨rfl, h s rfl⟩

/-- **A well-formed path reads back from its own text.** -/
theorem parse_render {p : TopicPath} (hp : p.WellFormed) : parse p.render = .ok p := by
  rw [parse_of_segments hp.segments_render hp.endpoint_ne]
  obtain ⟨endpoint, tenant, device, extras⟩ := p
  have htenant : idSegment (some (tenant.getD "")) = tenant :=
    idSegment_getD fun t ht => (hp.tenant t ht).1
  have hdevice : idSegment (some (device.getD "")) = device :=
    idSegment_getD fun d hd => (hp.device d hd).1
  -- the id segments are written as far as the last one that is needed
  unfold idSegments
  dsimp only
  split
  · rfl
  · next t => exact congrArg (fun id => Except.ok (⟨endpoint, id, none, []⟩ : TopicPath)) htenant
  · show Except.ok (⟨endpoint, idSegment (some (tenant.getD "")), idSegment (some (device.getD "")),
      extras⟩ : TopicPath) = .ok ⟨endpoint, tenant, device, extras⟩
    rw [htenant, hdevice]

/-- Reading gives the first segment, the next two as ids and the rest as it is. -/
theorem exists_segments_of_parse {s : String} {p : TopicPath} (h : parse s = .ok p) :
    ∃ more, segments '/' s = p.endpoint :: more ∧ p.endpoint ≠ "" ∧
      p = ⟨p.endpoint, idSegment more[0]?, idSegment more[1]?, more.drop 2⟩ := by
  cases hs : segments '/' s with
  | nil => exact absurd hs (segments_ne_nil '/' s)
  | cons e more =>
      by_cases he : e = ""
      · subst he
        rw [parse_of_no_endpoint hs] at h
        cases h
      · rw [parse_of_segments hs he] at h
        cases h
        exact ⟨more, rfl, he, rfl⟩

/-- The parts of a path that was read are segments of the text. -/
theorem mem_segments_of_parse {s w : String} {p : TopicPath} (h : parse s = .ok p)
    (hw : w = p.endpoint ∨ p.tenant = some w ∨ p.device = some w ∨ w ∈ p.extras) :
    w ∈ segments '/' s := by
  obtain ⟨more, hs, -, hp⟩ := exists_segments_of_parse h
  rw [hp] at hw
  rw [hs]
  rcases hw with hw | hw | hw | hw
  · exact List.mem_cons.mpr (.inl hw)
  · exact List.mem_cons_of_mem _ (List.mem_of_getElem? (idSegment_eq_some_iff.mp hw).1)
  · exact List.mem_cons_of_mem _ (List.mem_of_getElem? (idSegment_eq_some_iff.mp hw).1)
  · exact List.mem_cons_of_mem _ (List.mem_of_mem_drop hw)

/-- **Paths that were read are well-formed.** -/
theorem wellFormed_of_parse {s : String} {p : TopicPath} (h : parse s = .ok p) : p.WellFormed := by
  have hslash : ∀ w, w = p.endpoint ∨ p.tenant = some w ∨ p.device = some w ∨ w ∈ p.extras →
      '/' ∉ w.toList := fun w hw => not_mem_of_mem_segments (mem_segments_of_parse h hw)
  obtain ⟨more, -, hne, hp⟩ := exists_segments_of_parse h
  have hid : ∀ {w segment}, idSegment segment = some w → w ≠ "" := fun hw =>
    (idSegment_eq_some_iff.mp hw).2
  refine ⟨hne, hslash _ (.inl rfl), ?_, ?_, ?_⟩
  · intro t ht
    refine ⟨?_, hslash t (.inr (.inl ht))⟩
    rw [hp] at ht
    exact hid ht
  · intro d hd
    refine ⟨?_, hslash d (.inr (.inr (.inl hd)))⟩
    rw [hp] at hd
    exact hid hd
  · intro w hw
    exact hslash w (.inr (.inr (.inr hw)))

/-- Writing a path that was read adds no characters but slashes. -/
theorem not_mem_render_of_parse {s : String} {p : TopicPath} {c : Char} (h : parse s = .ok p)
    (hc : c ≠ '/') (hs : c ∉ s.toList) : c ∉ p.render.toList := by
  intro hmem
  have hcases : c = '/' ∨ ∃ w ∈ p.written, c ∈ w.toList := mem_intercalate hmem
  rcases hcases with hslash | ⟨w, hw, hcw⟩
  · exact hc hslash
  · rcases mem_written hw with rfl | hpart
    · simp at hcw
    · exact hs (mem_of_mem_segments (mem_segments_of_parse h hpart) hcw)

/-- Well-formed paths with the same text are the same. -/
theorem WellFormed.render_inj {p q : TopicPath} (hp : p.WellFormed) (hq : q.WellFormed)
    (h : p.render = q.render) : p = q := by
  have hpq : parse p.render = .ok q := by
    rw [h]
    exact parse_render hq
  exact Except.ok.inj ((parse_render hp).symm.trans hpq)

/-- **Reading undoes writing exactly on the well-formed paths.** All that was read is well-formed, so paths that
were read are the same if they are written alike. -/
theorem reading_undoes_writing :
    (∀ p : TopicPath, parse p.render = .ok p ↔ p.WellFormed) ∧
    (∀ s p, parse s = .ok p → p.WellFormed) ∧
    ∀ s s' p p', parse s = .ok p → parse s' = .ok p' → p.render = p'.render → p = p' := by
  refine ⟨fun p => ⟨wellFormed_of_parse, parse_render⟩, fun s p => wellFormed_of_parse, ?_⟩
  intro s s' p p' hp hp' h
  exact (wellFormed_of_parse hp).render_inj (wellFormed_of_parse hp') h

/-- An empty device segment at the end is not written, so both texts are read as one path. -/
theorem one_path_of_two_texts :
    ∃ p p', parse "e/tenant/" = .ok p ∧ parse "e/tenant" = .ok p' ∧ p.WellFormed ∧
      p.render = "e/tenant" ∧ p'.render = "e/tenant" ∧ p = p' := by
  obtain ⟨-, hread, hsame⟩ := reading_undoes_writing
  have hp : parse "e/tenant/" = .ok ⟨"e", some "tenant", none, []⟩ := rfl
  have hp' : parse "e/tenant" = .ok ⟨"e", some "tenant", none, []⟩ := rfl
  exact ⟨_, _, hp, hp', hread _ _ hp, by decide, by decide, hsame _ _ _ _ hp hp' rfl⟩

/-- An id with a slash comes back as two, and one that is empty as none. -/
example : parse (render ⟨"e", some "a/b", none, [""]⟩) = .ok ⟨"e", some "a", some "b", ["", ""]⟩ ∧
    parse (render ⟨"e", some "", some "d", []⟩) = .ok ⟨"e", none, some "d", []⟩ := ⟨rfl, rfl⟩

end TopicPath

/-! ## Writing and decoding contexts -/

/-- The context of a topic that was read, when the path gives an identity. -/
theorem TopicResolver.outcome_decode_of_identity (resolver : TopicResolver) {m : Publish}
    {who : Option Device} {path : TopicPath} {tenant device : String}
    (hpath : TopicPath.parse (basePath m.topic) = .ok path)
    (hids : identityOf path who = .ok (tenant, device)) :
    (resolver.decode m who).outcome = .ok {
      message := m, endpoint := resolver.endpoints.resolve path.endpoint, tenant, device
      topic := basePath m.topic, path, bag := (PropertyBag.split m.topic).2, authenticated := who } := by
  rw [outcome_decode, hpath]
  simp only [contextOf, hids]
  rfl

/-- Two contexts tell the same of what was published, though perhaps by other topics. -/
structure PublishContext.SameReading (c c' : PublishContext) : Prop where
  endpoint : c'.endpoint = c.endpoint
  tenant : c'.tenant = c.tenant
  device : c'.device = c.device
  path : c'.path = c.path
  extras : c'.extras = c.extras
  bag : c'.bag = c.bag
  entries : c'.bag.entries = c.bag.entries
  contentType : c'.contentType = c.contentType
  authenticated : c'.authenticated = c.authenticated

/-- A topic that splits into the bag of a context and a text of its path gives the same context. -/
theorem sameReading_of_split {resolver : TopicResolver} {m m' : Publish} {who : Option Device}
    {c : PublishContext} (hc : (resolver.decode m who).outcome = .ok c) {base : String}
    (hsplit : PropertyBag.split m'.topic = (base, c.bag)) (hbase : TopicPath.parse base = .ok c.path) :
    ∃ c', (resolver.decode m' who).outcome = .ok c' ∧ c'.topic = base ∧ c.SameReading c' := by
  obtain ⟨path, tenant, device, -, hids, rfl⟩ := resolver.context_of_outcome hc
  have hbasePath : basePath m'.topic = base := by rw [← split_fst, hsplit]
  have hpath : TopicPath.parse (basePath m'.topic) = .ok path := by
    rw [hbasePath]
    exact hbase
  have hbag : (PropertyBag.split m'.topic).2 = (PropertyBag.split m.topic).2 := by rw [hsplit]
  refine ⟨_, resolver.outcome_decode_of_identity hpath hids, hbasePath, ?_⟩
  rw [hbag]
  exact ⟨rfl, rfl, rfl, rfl, rfl, rfl, rfl, rfl, rfl⟩

/-- **A context can be written as a topic and decoded again**, from its topic or from its path, and is
the same but for the text of the topic. -/
theorem decode_rendered (resolver : TopicResolver) (m : Publish) (who : Option Device)
    (c : PublishContext) (h : (resolver.decode m who).outcome = .ok c) :
    ∀ base, base = c.topic ∨ base = c.path.render → ∀ qos payload,
      ∃ c', (resolver.decode ⟨c.bag.appendTo base, qos, payload⟩ who).outcome = .ok c' ∧
        c'.topic = base ∧ c.SameReading c' := by
  obtain ⟨path, tenant, device, hpath, -, hfields⟩ := resolver.context_of_outcome h
  have htopic : c.topic = basePath m.topic := by rw [hfields]
  have hcpath : c.path = path := by rw [hfields]
  have hbag : c.bag = (PropertyBag.split m.topic).2 := by rw [hfields]
  have hwritten : WellWritten c.bag.entries := by
    rw [hbag]
    exact PropertyBag.wellWritten_split m.topic
  intro base hbase qos payload
  -- neither text has a question mark, and both read as the path of the context
  have hquery : '?' ∉ base.toList ∧ TopicPath.parse base = .ok c.path := by
    rcases hbase with rfl | rfl
    · rw [htopic, hcpath]
      exact ⟨not_mem_basePath m.topic, hpath⟩
    · rw [hcpath]
      exact ⟨TopicPath.not_mem_render_of_parse hpath (by decide) (not_mem_basePath m.topic),
        TopicPath.parse_render (TopicPath.wellFormed_of_parse hpath)⟩
  exact sameReading_of_split h (PropertyBag.split_appendTo hwritten hquery.1) hquery.2

/-- A topic with nothing but an endpoint, in which a key occurs twice: the topic of the context and its path
are written differently, and both are decoded to the same context. -/
theorem decode_rendered_with_query :
    let message : Publish := ⟨"e//?x=1&y&x=/?", .atLeastOnce, [1]⟩
    let who : Option Device := some ⟨"tenant", "4711"⟩
    ∃ c, (TopicResolver.standard.decode message who).outcome = .ok c ∧
      c.topic = "e/" ∧ c.path.render = "e" ∧
      (∃ c', (TopicResolver.standard.decode ⟨"e//?x=/?&y=", .atMostOnce, []⟩ who).outcome = .ok c' ∧
        c'.topic = "e/" ∧ c.SameReading c') ∧
      ∃ c', (TopicResolver.standard.decode ⟨"e/?x=/?&y=", .atMostOnce, []⟩ who).outcome = .ok c' ∧
        c'.topic = "e" ∧ c.SameReading c' := by
  intro message who
  have hbase : basePath message.topic = "e/" := by decide
  have hbag : ∀ base, (PropertyBag.split message.topic).2.appendTo base = base ++ "/?" ++ "x=/?&y=" := by
    intro base
    rw [PropertyBag.appendTo, if_neg (by decide)]
    exact congrArg (base ++ "/?" ++ ·) (by decide)
  have hpath : TopicPath.parse (basePath message.topic) = .ok ⟨"e", none, none, []⟩ := by
    rw [hbase]
    rfl
  have hc := TopicResolver.standard.outcome_decode_authenticated ⟨"tenant", "4711"⟩ hpath
  have hrendered := decode_rendered TopicResolver.standard message who _ hc
  refine ⟨_, hc, hbase, by decide, ?_, ?_⟩
  · have htopic := hrendered "e/" (.inl hbase.symm) .atMostOnce []
    rwa [hbag] at htopic
  · have hshort := hrendered "e" (.inr (by decide)) .atMostOnce []
    rwa [hbag] at hshort

end DeviceMessaging
