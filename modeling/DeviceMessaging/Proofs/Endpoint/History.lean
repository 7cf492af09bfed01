import DeviceMessaging.Proofs.Endpoint.Grammar

/-!
# `Proofs.Endpoint.History` — tables and the steps that made them

A table is made step by step, and a step that fails leaves it as it was. A step that succeeds writes kinds to
some names, and every other name keeps its kind. So the last step that writes to a name decides what the name
stands for, and the steps that fail may as well be left out. As long as nobody writes the unknown kind, tables
hold no more than what they answer.

## Contents
- `EndpointTable.after`: the table that a history leaves.
- `Edit.succeeds`, `isOk_edited`, `after_filter_succeeds`: steps that fail leave no trace.
- `Edit.Writes`, with `resolve_keep_iff` and `resolve_after_iff`: the last step that writes to a name decides.
- `Known`, with `Known.after` and `beq_iff_resolve`: tables that hold no unknown kind.
- `table_tells_last_writes`: all of this of one history.
-/

namespace DeviceMessaging

namespace EndpointTable

/-- The table that is kept after all the steps. -/
def after (t : EndpointTable) (edits : List Edit) : EndpointTable := edits.foldl keep t

theorem after_cons (t : EndpointTable) (e : Edit) (edits : List Edit) :
    t.after (e :: edits) = (t.keep e).after edits := rfl

/-! ## Steps that fail -/

/-- Whether a step succeeds, which no table has a say in. -/
def Edit.succeeds : Edit → Bool
  | .name _ _ => true
  | .aliases s => (readAliases (aliasEntries s)).isOk

theorem isOk_edited (t : EndpointTable) (e : Edit) : (t.edited e).isOk = e.succeeds := by
  cases e with
  | name n k => rfl
  | aliases s =>
      show (t.withAliases s).isOk = (readAliases (aliasEntries s)).isOk
      unfold withAliases
      cases readAliases (aliasEntries s) <;> rfl

theorem keep_of_ok {t table : EndpointTable} {e : Edit} (h : t.edited e = .ok table) :
    t.keep e = table := by
  unfold keep
  rw [h]

theorem keep_of_error {t : EndpointTable} {e : Edit} {f : AliasFault} (h : t.edited e = .error f) :
    t.keep e = t := by
  unfold keep
  rw [h]

theorem keep_of_not_succeeds (t : EndpointTable) {e : Edit} (h : e.succeeds = false) : t.keep e = t := by
  rw [← isOk_edited t e] at h
  cases hedited : t.edited e with
  | error f => exact keep_of_error hedited
  | ok table =>
      rw [hedited] at h
      cases h

/-- **Steps that fail leave no trace.** -/
theorem after_filter_succeeds (t : EndpointTable) (edits : List Edit) :
    t.after (edits.filter Edit.succeeds) = t.after edits := by
  induction edits generalizing t with
  | nil => rfl
  | cons e edits ih =>
      cases he : e.succeeds with
      | true => rw [List.filter_cons_of_pos he, after_cons, after_cons, ih]
      | false =>
          rw [List.filter_cons_of_neg (by simp [he]), after_cons, keep_of_not_succeeds t he, ih]

/-! ## Steps that write -/

/-- A step that succeeds writes a kind to a name: the step gives the name this kind, or adds a list of aliases
whose last entry for the name has it. -/
def Edit.Writes (name : String) : Edit → EndpointKind → Prop
  | .name n k, kind => n = name ∧ k = kind
  | .aliases s, kind => (Edit.aliases s).succeeds = true ∧ LastAlias s name kind

/-- **One step**: a name stands for what the step writes to it, or else for what it stood for. -/
theorem resolve_keep_iff (name : String) (t : EndpointTable) (e : Edit) (kind : EndpointKind) :
    (t.keep e).resolve name = kind ↔
      e.Writes name kind ∨ (∀ k, ¬e.Writes name k) ∧ t.resolve name = kind := by
  cases e with
  | name n k =>
      have hwrites : ∀ k', Edit.Writes name (.name n k) k' ↔ (n, k) = (name, k') := fun k' =>
        Iff.of_eq (Prod.mk.injEq n k name k').symm
      have hinsert : t.keep (.name n k) = t.insert n k := rfl
      simp only [hinsert, hwrites]
      exact resolve_insert_iff (a := (n, k))
  | aliases s =>
      have hok : (t.edited (.aliases s)).isOk = (Edit.aliases s).succeeds := isOk_edited t (.aliases s)
      cases hedited : t.edited (.aliases s) with
      | error f =>
          rw [hedited] at hok
          have hwrites : ∀ k, ¬Edit.Writes name (.aliases s) k := fun k h => nomatch hok.trans h.1
          rw [keep_of_error hedited]
          exact ⟨fun h => .inr ⟨hwrites, h⟩, fun h => (h.resolve_left (hwrites kind)).2⟩
      | ok table =>
          rw [hedited] at hok
          have hwrites : ∀ k, Edit.Writes name (.aliases s) k ↔ LastAlias s name k := fun k =>
            and_iff_right hok.symm
          have hsilent : (∀ k, ¬LastAlias s name k) ↔ ∀ e ∈ aliasEntries s, ∀ k, ¬IsAlias e name k :=
            forall_not_lastWord_iff
          simp only [keep_of_ok hedited, hwrites, hsilent]
          exact resolve_withAliases_iff hedited name kind

/-- **All steps**: the last step that writes to a name decides what it stands for. -/
theorem resolve_after_iff (start : EndpointTable) (edits : List Edit) (name : String)
    (kind : EndpointKind) :
    (start.after edits).resolve name = kind ↔ LastWord (Edit.Writes name) edits kind ∨
      (∀ e ∈ edits, ∀ k, ¬e.Writes name k) ∧ start.resolve name = kind :=
  shows_foldl (fun t k => t.resolve name = k) (resolve_keep_iff name) edits start kind

/-- A list of aliases writes only known kinds. -/
theorem unknown_of_keep_aliases {t : EndpointTable} {aliases name : String}
    (h : (t.keep (.aliases aliases)).resolve name = .unknown) : t.resolve name = .unknown := by
  rcases (resolve_keep_iff name t (.aliases aliases) .unknown).mp h with ⟨-, hlast⟩ | ⟨-, hkept⟩
  · obtain ⟨-, entry, -, -, halias, -⟩ := hlast
    exact absurd rfl halias.known
  · exact hkept

/-! ## What tables hold -/

/-- No name is kept with the unknown kind. -/
def Known (t : EndpointTable) : Prop := ∀ name, t.names.find? name ≠ some .unknown

theorem known_empty : empty.Known := fun _ => nofun

theorem Known.insert {t : EndpointTable} (ht : t.Known) {kind : EndpointKind} (hkind : kind ≠ .unknown)
    (name : String) : (t.insert name kind).Known := by
  intro n
  show (t.names.insert name kind).find? n ≠ some .unknown
  rw [Keyed.find?_insert]
  split
  · exact fun h => hkind (Option.some.inj h)
  · exact ht n

theorem Known.foldl_insert {t : EndpointTable} (ht : t.Known) {named : List (String × EndpointKind)}
    (h : ∀ a ∈ named, a.2 ≠ .unknown) : (named.foldl (fun t a => t.insert a.1 a.2) t).Known := by
  induction named generalizing t with
  | nil => exact ht
  | cons a named ih =>
      obtain ⟨ha, hnamed⟩ := List.forall_mem_cons.mp h
      exact ih (ht.insert ha a.1) hnamed

theorem known_standard : standard.Known := by
  have h : ∀ a ∈ [("telemetry", EndpointKind.telemetry), ("t", .telemetry), ("event", .event),
      ("e", .event), ("command", .command), ("c", .command)], a.2 ≠ .unknown := by decide
  exact known_empty.foldl_insert h

theorem Known.keep {t : EndpointTable} (ht : t.Known) {e : Edit} (he : ∀ n, e ≠ .name n .unknown) :
    (t.keep e).Known := by
  cases e with
  | name n k =>
      have hk : k ≠ .unknown := fun hk => he n (hk ▸ rfl)
      exact ht.insert hk n
  | aliases s =>
      cases hedited : t.edited (.aliases s) with
      | error f =>
          rw [keep_of_error hedited]
          exact ht
      | ok table =>
          rw [keep_of_ok hedited]
          obtain ⟨named, hnamed, rfl⟩ := withAliases_eq_ok_iff.mp hedited
          refine ht.foldl_insert fun a ha => ?_
          obtain ⟨entry, -, halias⟩ := isAlias_of_mem_readAliases hnamed ha
          exact halias.known

/-- No step of the history gives a name the unknown kind. -/
def KnownOnly (edits : List Edit) : Prop := ∀ name, .name name .unknown ∉ edits

/-- **Unknown kinds are not kept, unless they are written.** -/
theorem Known.after {t : EndpointTable} (ht : t.Known) {edits : List Edit} (h : KnownOnly edits) :
    (t.after edits).Known := by
  induction edits generalizing t with
  | nil => exact ht
  | cons e edits ih =>
      have he : ∀ n, e ≠ .name n .unknown := fun n hn => h n (hn ▸ List.mem_cons_self)
      exact ih (ht.keep he) fun n hn => h n (List.mem_cons_of_mem e hn)

/-- What is kept under a name can be told from what the name stands for. -/
theorem Known.find?_eq {t : EndpointTable} (ht : t.Known) (name : String) :
    t.names.find? name = if t.resolve name = .unknown then none else some (t.resolve name) := by
  have hname := ht name
  unfold resolve
  cases hfind : t.names.find? name with
  | none => rfl
  | some kind =>
      rw [hfind] at hname
      have hkind : kind ≠ .unknown := fun hk => hname (congrArg some hk)
      exact (if_neg hkind).symm

/-- **Tables without unknown kinds are equal if they answer alike.** -/
theorem beq_iff_resolve {a b : EndpointTable} (ha : a.Known) (hb : b.Known) :
    (a == b) = true ↔ ∀ name, a.resolve name = b.resolve name := by
  rw [beq_iff]
  constructor
  · intro h name
    unfold resolve
    rw [h name]
  · intro h name
    rw [ha.find?_eq, hb.find?_eq, h name]

/-! ## Histories -/

/-- The tables that histories start from. -/
def IsStart (t : EndpointTable) : Prop := t = standard ∨ t = empty

theorem IsStart.known {t : EndpointTable} (h : t.IsStart) : t.Known := by
  rcases h with rfl | rfl
  · exact known_standard
  · exact known_empty

/-- **A table tells the last writes of its history.** Steps that fail could be left out, lists of aliases make
no name unknown, and tables for which nobody wrote the unknown kind are equal exactly if they answer alike,
however they were made. -/
theorem table_tells_last_writes :
    (∀ (start : EndpointTable) (edits : List Edit) (name : String) (kind : EndpointKind),
      (start.after edits).resolve name = kind ↔ LastWord (Edit.Writes name) edits kind ∨
        (∀ e ∈ edits, ∀ k, ¬e.Writes name k) ∧ (start.names.find? name).getD .unknown = kind) ∧
    (∀ (t : EndpointTable) (e : Edit),
      (t.edited e).isOk = e.succeeds ∧ (e.succeeds = false → t.keep e = t)) ∧
    (∀ (start : EndpointTable) (edits : List Edit),
      start.after (edits.filter Edit.succeeds) = start.after edits) ∧
    (∀ (t : EndpointTable) (aliases name : String),
      (t.keep (.aliases aliases)).resolve name = .unknown → t.resolve name = .unknown) ∧
    ∀ start start' : EndpointTable, start.IsStart → start'.IsStart →
      ∀ edits edits', KnownOnly edits → KnownOnly edits' →
        ((start.after edits == start'.after edits') = true ↔
          ∀ name, (start.after edits).resolve name = (start'.after edits').resolve name) := by
  refine ⟨resolve_after_iff, fun t e => ⟨isOk_edited t e, keep_of_not_succeeds t⟩,
    after_filter_succeeds, fun t aliases name => unknown_of_keep_aliases, ?_⟩
  intro start start' hstart hstart' edits edits' hedits hedits'
  exact beq_iff_resolve (hstart.known.after hedits) (hstart'.known.after hedits')

/-- A standard name is given another kind and gets its own back from a list of aliases; a list in between is
refused for its second entry. The table is the standard one again, and has no name more. -/
theorem standard_by_detour :
    (standard.keep (.aliases "t=command,t")).resolve "x" = .unknown ∧ standard.resolve "x" = .unknown ∧
    (standard.after [.name "t" .event, .aliases "t=command,t", .aliases "t = telemetry"] ==
      standard.after []) = true := by
  obtain ⟨-, hfails, -, hunknown, hequal⟩ := table_tells_last_writes
  have hkept : standard.keep (.aliases "t=command,t") = standard := (hfails standard _).2 rfl
  have hx : (standard.keep (.aliases "t=command,t")).resolve "x" = .unknown := by
    rw [hkept]
    rfl
  refine ⟨hx, hunknown standard _ "x" hx, ?_⟩
  refine (hequal standard standard (.inl rfl) (.inl rfl) _ _ ?_ ?_).mpr ?_
  · intro name
    simp
  · exact fun name => List.not_mem_nil
  · intro name
    have hafter : standard.after [.name "t" .event, .aliases "t=command,t", .aliases "t = telemetry"] =
        (standard.insert "t" .event).insert "t" .telemetry := rfl
    rw [hafter, resolve_insert, resolve_insert]
    by_cases hname : name = "t"
    · rw [if_pos hname, hname]
      rfl
    · rw [if_neg hname, if_neg hname]
      rfl

/-- A name that is kept with the unknown kind answers like one that is not kept, and the tables differ. -/
example : (empty.insert "x" .unknown == empty) = false ∧
    (empty.insert "x" .unknown).resolve "x" = empty.resolve "x" := by decide

end EndpointTable

end DeviceMessaging
