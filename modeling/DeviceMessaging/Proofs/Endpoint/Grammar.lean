import DeviceMessaging.Endpoint.Table
import DeviceMessaging.Proofs.LastWord
import DeviceMessaging.Proofs.Text.Segments

/-!
# `Proofs.Endpoint.Grammar` — which alias lists are accepted

An alias is what stands before the first equals sign of an entry, less the blanks around it, and may not contain
a slash; its kind stands behind the equals sign. A list is accepted when every entry is an alias, and then the
last entry for a name decides what the name stands for. Otherwise the first entry that is no alias is reported:
all of it if it has no equals sign, else its name if that cannot be a segment, else its kind.

## Contents
- `IsAlias`, with `readAlias_eq_ok_iff`: the entries that are accepted.
- `IsFaulty`, with `readAlias_eq_error_iff`: the entries that are refused, and why.
- `exists_readAliases_iff`, `readAliases_eq_error_iff`: lists of entries.
- `LastAlias`, with `resolve_withAliases_iff`: what the names of an accepted list stand for.
- `FirstFault`, `alias_grammar`: adding a list to a table.
-/

namespace DeviceMessaging

open Text

/-! ## Entries that are accepted -/

/-- An entry `name=kind`: the name stands before the first equals sign and the kind behind it, both with
blanks around them; the name is not empty and has no slash, and the kind is a known one. -/
structure IsAlias (entry name : String) (kind : EndpointKind) : Prop where
  sides : ∃ left right, entry = left ++ "=" ++ right ∧ '=' ∉ left.toList ∧ trim left = name ∧
    trim right = kind.name
  known : kind ≠ .unknown
  name_ne : name ≠ ""
  name_slash : '/' ∉ name.toList

theorem ofName_eq_ok_iff {name : String} {kind : EndpointKind} :
    EndpointKind.ofName name = .ok kind ↔ kind ≠ .unknown ∧ name = kind.name := by
  rw [← EndpointKind.ofName?_eq_some_iff, EndpointKind.ofName]
  cases EndpointKind.ofName? name <;> simp

/-- What is read of an entry with two sides. -/
theorem readAlias_append {left : String} (h : '=' ∉ left.toList) (right : String) :
    readAlias (left ++ "=" ++ right) =
      if trim left = "" ∨ '/' ∈ (trim left).toList then .error (.badName (trim left))
      else (EndpointKind.ofName (trim right)).map fun kind => (trim left, kind) := by
  have hcut : cut '=' (left ++ "=" ++ right) = some (left, right) := cut_append h
  rw [readAlias, hcut]

/-- **Exactly the entries of the form `name=kind` are accepted.** -/
theorem readAlias_eq_ok_iff {entry name : String} {kind : EndpointKind} :
    readAlias entry = .ok (name, kind) ↔ IsAlias entry name kind := by
  constructor
  · intro h
    rcases cut_cases '=' entry with hentry | ⟨left, right, hleft, heq⟩
    · rw [readAlias, cut_of_not_mem hentry] at h
      cases h
    · obtain rfl : entry = left ++ "=" ++ right := heq
      rw [readAlias_append hleft] at h
      split at h
      · cases h
      · next hname =>
          rw [not_or] at hname
          cases hkind : EndpointKind.ofName (trim right) with
          | error f =>
              rw [hkind] at h
              cases h
          | ok kind' =>
              rw [hkind] at h
              cases h
              obtain ⟨hknown, hright⟩ := ofName_eq_ok_iff.mp hkind
              exact ⟨⟨left, right, rfl, hleft, rfl, hright⟩, hknown, hname.1, hname.2⟩
  · rintro ⟨⟨left, right, rfl, hleft, rfl, hright⟩, hknown, hne, hslash⟩
    have hkind : EndpointKind.ofName (trim right) = .ok kind := ofName_eq_ok_iff.mpr ⟨hknown, hright⟩
    rw [readAlias_append hleft, if_neg (not_or.mpr ⟨hne, hslash⟩), hkind]
    rfl

/-- An entry names one name. -/
theorem IsAlias.name_eq {entry name name' : String} {kind kind' : EndpointKind}
    (h : IsAlias entry name kind) (h' : IsAlias entry name' kind') : name = name' := by
  have heq := (readAlias_eq_ok_iff.mpr h).symm.trans (readAlias_eq_ok_iff.mpr h')
  exact congrArg Prod.fst (Except.ok.inj heq)

/-! ## Entries that are refused -/

/-- An entry that is no alias, and what is wrong with it. -/
inductive IsFaulty : String → AliasFault → Prop where
  | noPair {entry : String} (hentry : '=' ∉ entry.toList) : IsFaulty entry (.noPair entry)
  | badName {left : String} (hleft : '=' ∉ left.toList)
      (hname : trim left = "" ∨ '/' ∈ (trim left).toList) (right : String) :
      IsFaulty (left ++ "=" ++ right) (.badName (trim left))
  | badKind {left right : String} (hleft : '=' ∉ left.toList) (hne : trim left ≠ "")
      (hslash : '/' ∉ (trim left).toList)
      (hkind : trim right ≠ "telemetry" ∧ trim right ≠ "event" ∧ trim right ≠ "command") :
      IsFaulty (left ++ "=" ++ right) (.badKind (trim right))

theorem ofName_eq_error_iff {name : String} {f : AliasFault} :
    EndpointKind.ofName name = .error f ↔
      f = .badKind name ∧ name ≠ "telemetry" ∧ name ≠ "event" ∧ name ≠ "command" := by
  unfold EndpointKind.ofName EndpointKind.ofName?
  split
  · next hsome => grind
  · next hnone => grind

/-- **All other entries are refused**, each with its first fault. -/
theorem readAlias_eq_error_iff {entry : String} {f : AliasFault} :
    readAlias entry = .error f ↔ IsFaulty entry f := by
  constructor
  · intro h
    rcases cut_cases '=' entry with hentry | ⟨left, right, hleft, heq⟩
    · rw [readAlias, cut_of_not_mem hentry] at h
      cases h
      exact .noPair hentry
    · obtain rfl : entry = left ++ "=" ++ right := heq
      rw [readAlias_append hleft] at h
      split at h
      · next hname =>
          cases h
          exact .badName hleft hname right
      · next hname =>
          rw [not_or] at hname
          cases hkind : EndpointKind.ofName (trim right) with
          | ok kind =>
              rw [hkind] at h
              cases h
          | error g =>
              rw [hkind] at h
              cases h
              obtain ⟨rfl, hunknown⟩ := ofName_eq_error_iff.mp hkind
              exact .badKind hleft hname.1 hname.2 hunknown
  · intro h
    cases h with
    | noPair hentry => rw [readAlias, cut_of_not_mem hentry]
    | badName hleft hname right => rw [readAlias_append hleft, if_pos hname]
    | badKind hleft hne hslash hkind =>
        rw [readAlias_append hleft, if_neg (not_or.mpr ⟨hne, hslash⟩), ofName_eq_error_iff.mpr ⟨rfl, hkind⟩]
        rfl

/-! ## Lists of entries -/

theorem readAliases_cons_ok {e : String} {es : List String} {named : List (String × EndpointKind)}
    (h : readAliases (e :: es) = .ok named) :
    ∃ a rest, readAlias e = .ok a ∧ readAliases es = .ok rest ∧ named = a :: rest := by
  rw [readAliases] at h
  cases ha : readAlias e with
  | error f =>
      rw [ha] at h
      cases h
  | ok a =>
      cases hrest : readAliases es with
      | error f =>
          rw [ha, hrest] at h
          cases h
      | ok rest =>
          rw [ha, hrest] at h
          cases h
          exact ⟨a, rest, rfl, rfl, rfl⟩

/-- What was read of a list, its entries say. -/
theorem isAlias_of_mem_readAliases {es : List String} {named : List (String × EndpointKind)}
    (h : readAliases es = .ok named) {a : String × EndpointKind} (ha : a ∈ named) :
    ∃ e ∈ es, IsAlias e a.1 a.2 := by
  induction es generalizing named with
  | nil =>
      cases h
      exact absurd ha List.not_mem_nil
  | cons e es ih =>
      obtain ⟨b, rest, hb, hrest, rfl⟩ := readAliases_cons_ok h
      rcases List.mem_cons.mp ha with rfl | ha
      · exact ⟨e, List.mem_cons_self, readAlias_eq_ok_iff.mp hb⟩
      · obtain ⟨e', he', halias⟩ := ih hrest ha
        exact ⟨e', List.mem_cons_of_mem e he', halias⟩

/-- A list is read when each of its entries is an alias. -/
theorem exists_readAliases_iff {es : List String} :
    (∃ named, readAliases es = .ok named) ↔ ∀ e ∈ es, ∃ name kind, IsAlias e name kind := by
  induction es with
  | nil => exact ⟨fun _ e he => absurd he List.not_mem_nil, fun _ => ⟨[], rfl⟩⟩
  | cons e es ih =>
      rw [List.forall_mem_cons, ← ih]
      constructor
      · rintro ⟨named, h⟩
        obtain ⟨a, rest, ha, hrest, -⟩ := readAliases_cons_ok h
        exact ⟨⟨a.1, a.2, readAlias_eq_ok_iff.mp ha⟩, rest, hrest⟩
      · rintro ⟨⟨name, kind, halias⟩, rest, hrest⟩
        refine ⟨(name, kind) :: rest, ?_⟩
        rw [readAliases, readAlias_eq_ok_iff.mpr halias, hrest]
        rfl

/-- Reading stops at the first entry that is no alias. -/
theorem readAliases_eq_error_iff {es : List String} {f : AliasFault} :
    readAliases es = .error f ↔ ∃ before e after, es = before ++ e :: after ∧
      (∀ e' ∈ before, ∃ name kind, IsAlias e' name kind) ∧ IsFaulty e f := by
  constructor
  · intro h
    induction es with
    | nil => cases h
    | cons e es ih =>
        rw [readAliases] at h
        cases he : readAlias e with
        | error g =>
            rw [he] at h
            cases h
            exact ⟨[], e, es, rfl, fun e' he' => absurd he' List.not_mem_nil, readAlias_eq_error_iff.mp he⟩
        | ok a =>
            cases hes : readAliases es with
            | ok rest =>
                rw [he, hes] at h
                cases h
            | error g =>
                rw [he, hes] at h
                cases h
                obtain ⟨before, d, after, rfl, hbefore, hd⟩ := ih hes
                have halias : ∃ name kind, IsAlias e name kind := ⟨a.1, a.2, readAlias_eq_ok_iff.mp he⟩
                exact ⟨e :: before, d, after, rfl, List.forall_mem_cons.mpr ⟨halias, hbefore⟩, hd⟩
  · rintro ⟨before, e, after, rfl, hbefore, he⟩
    induction before with
    | nil =>
        show readAliases (e :: after) = .error f
        rw [readAliases, readAlias_eq_error_iff.mpr he]
    | cons d before ih =>
        obtain ⟨⟨name, kind, halias⟩, hbefore⟩ := List.forall_mem_cons.mp hbefore
        show readAliases (d :: (before ++ e :: after)) = .error f
        rw [readAliases, readAlias_eq_ok_iff.mpr halias, ih hbefore]
        rfl

/-! ## Tables -/

/-- Adding a list is inserting the aliases that are read of it. -/
theorem withAliases_eq_ok_iff {t table : EndpointTable} {aliases : String} :
    t.withAliases aliases = .ok table ↔ ∃ named, readAliases (aliasEntries aliases) = .ok named ∧
      named.foldl (fun t a => t.insert a.1 a.2) t = table := by
  unfold EndpointTable.withAliases
  cases readAliases (aliasEntries aliases) with
  | error f => exact ⟨nofun, nofun⟩
  | ok named =>
      constructor
      · rintro ⟨⟩
        exact ⟨named, rfl, rfl⟩
      · rintro ⟨_, ⟨⟩, rfl⟩
        rfl

theorem withAliases_eq_error_iff {t : EndpointTable} {aliases : String} {f : AliasFault} :
    t.withAliases aliases = .error f ↔ readAliases (aliasEntries aliases) = .error f := by
  unfold EndpointTable.withAliases
  cases readAliases (aliasEntries aliases) with
  | error g =>
      constructor
      · rintro ⟨⟩
        rfl
      · rintro ⟨⟩
        rfl
  | ok named => exact ⟨nofun, nofun⟩

/-- Lists of aliases can be added to every table, and nothing else can be added to any. -/
theorem exists_withAliases_iff {t : EndpointTable} {aliases : String} :
    (∃ table, t.withAliases aliases = .ok table) ↔
      ∀ e ∈ aliasEntries aliases, ∃ name kind, IsAlias e name kind := by
  rw [← exists_readAliases_iff]
  constructor
  · rintro ⟨table, htable⟩
    obtain ⟨named, hnamed, -⟩ := withAliases_eq_ok_iff.mp htable
    exact ⟨named, hnamed⟩
  · rintro ⟨named, hnamed⟩
    exact ⟨_, withAliases_eq_ok_iff.mpr ⟨named, hnamed, rfl⟩⟩

/-- An alias that is inserted decides what its name stands for. -/
theorem resolve_insert_iff {t : EndpointTable} {a : String × EndpointKind} {name : String}
    {kind : EndpointKind} :
    (t.insert a.1 a.2).resolve name = kind ↔
      a = (name, kind) ∨ (∀ k, a ≠ (name, k)) ∧ t.resolve name = kind := by
  obtain ⟨n, k⟩ := a
  rw [EndpointTable.resolve_insert]
  by_cases hname : name = n
  · simp [hname]
  · simp [hname, Ne.symm hname]

/-- Of the aliases that are read of a list, the last one for a name decides. -/
theorem resolve_foldl_insert_iff {es : List String} {named : List (String × EndpointKind)}
    (h : readAliases es = .ok named) (t : EndpointTable) (name : String) (kind : EndpointKind) :
    (named.foldl (fun t a => t.insert a.1 a.2) t).resolve name = kind ↔
      LastWord (IsAlias · name ·) es kind ∨
        (∀ e ∈ es, ∀ k, ¬IsAlias e name k) ∧ t.resolve name = kind := by
  induction es generalizing named t with
  | nil =>
      cases h
      simp [LastWord]
  | cons e es ih =>
      obtain ⟨a, rest, ha, hrest, rfl⟩ := readAliases_cons_ok h
      have halias : ∀ k, IsAlias e name k ↔ a = (name, k) := by
        intro k
        rw [← readAlias_eq_ok_iff, ha, Except.ok.injEq]
      rw [List.foldl_cons, ih hrest, resolve_insert_iff, lastWord_cons, List.forall_mem_cons]
      simp only [halias]
      tauto

/-- An alias list registers a name, and the last of its entries for the name gives it a kind. -/
def LastAlias (aliases name : String) (kind : EndpointKind) : Prop :=
  ∃ before entry after, aliasEntries aliases = before ++ entry :: after ∧ IsAlias entry name kind ∧
    ∀ e ∈ after, ∀ k, ¬IsAlias e name k

/-- **The names of a list stand for what its last entries say**, and all others for what they stood for. -/
theorem resolve_withAliases_iff {t table : EndpointTable} {aliases : String}
    (htable : t.withAliases aliases = .ok table) (name : String) (kind : EndpointKind) :
    table.resolve name = kind ↔ LastAlias aliases name kind ∨
      (∀ e ∈ aliasEntries aliases, ∀ k, ¬IsAlias e name k) ∧ t.resolve name = kind := by
  obtain ⟨named, hnamed, rfl⟩ := withAliases_eq_ok_iff.mp htable
  exact resolve_foldl_insert_iff hnamed t name kind

/-- **The last entry for a name decides** what the name stands for. -/
theorem resolve_of_lastAlias {t table : EndpointTable} {aliases name : String} {kind : EndpointKind}
    (htable : t.withAliases aliases = .ok table) (h : LastAlias aliases name kind) :
    table.resolve name = kind :=
  (resolve_withAliases_iff htable name kind).mpr (.inl h)

/-! ## Adding a list to a table -/

/-- The fault of the first entry that is no alias. -/
def FirstFault (aliases : String) (f : AliasFault) : Prop :=
  ∃ before e after, aliasEntries aliases = before ++ e :: after ∧
    (∀ e' ∈ before, ∃ name kind, IsAlias e' name kind) ∧ IsFaulty e f

/-- **Exactly the lists of aliases can be added to a table.** The last entry for a name decides, and names that
the list does not have are left as they are. Other lists are refused for their first faulty entry, and the error
quotes the entry, its name or its kind. -/
theorem alias_grammar (t : EndpointTable) (aliases : String) :
    ((∃ table, t.withAliases aliases = .ok table) ↔
      ∀ e ∈ aliasEntries aliases, ∃ name kind, IsAlias e name kind) ∧
    (∀ table, t.withAliases aliases = .ok table → ∀ name kind,
      table.resolve name = kind ↔ LastAlias aliases name kind ∨
        (∀ e ∈ aliasEntries aliases, ∀ k, ¬IsAlias e name k) ∧ t.resolve name = kind) ∧
    (∀ f, t.withAliases aliases = .error f ↔ FirstFault aliases f) ∧
    (∀ f : AliasFault, f.toError = .invalidConfig f.detail ∧ f.toError.status = 500) ∧
    (∀ entry, (AliasFault.noPair entry).toError =
      .invalidConfig ("Invalid endpoint alias '" ++ entry ++ "': expected 'alias=kind'")) ∧
    (∀ name, (AliasFault.badName name).toError =
      .invalidConfig ("Invalid endpoint alias name '" ++ name ++ "'")) ∧
    ∀ kind, (AliasFault.badKind kind).toError = .invalidConfig ("Unknown endpoint kind '" ++ kind ++
      "': expected telemetry, event or command") := by
  refine ⟨exists_withAliases_iff, fun table htable => resolve_withAliases_iff htable, fun f => ?_,
    fun f => ⟨rfl, rfl⟩, fun _ => rfl, fun _ => rfl, fun _ => rfl⟩
  exact withAliases_eq_error_iff.trans readAliases_eq_error_iff

/-- A standard name that a list has twice, with an em quad and a no-break space in the second entry: the second
entry decides, and another standard name stays as it is. A list with two faulty entries is refused for the
first. -/
theorem standard_name_twice :
    (∃ table, EndpointTable.standard.withAliases "t=event,,\u2001t =\u00A0command" = .ok table ∧
      table.resolve "t" = .command ∧ table.resolve "e" = .event) ∧
    EndpointTable.standard.withAliases "x=event,a/b=metrics,y" = .error (.badName "a/b") := by
  have hfirst : IsAlias "t=event" "t" .event := readAlias_eq_ok_iff.mp rfl
  have hsecond : IsAlias "t =\u00A0command" "t" .command := readAlias_eq_ok_iff.mp rfl
  have hentries : aliasEntries "t=event,,\u2001t =\u00A0command" = ["t=event", "t =\u00A0command"] := by
    decide
  constructor
  · obtain ⟨haccepted, hresolve, -, -⟩ :=
      alias_grammar EndpointTable.standard "t=event,,\u2001t =\u00A0command"
    rw [hentries] at haccepted hresolve
    obtain ⟨table, htable⟩ := haccepted.mpr
      (List.forall_mem_cons.mpr ⟨⟨_, _, hfirst⟩, List.forall_mem_singleton.mpr ⟨_, _, hsecond⟩⟩)
    have hlast : LastAlias "t=event,,\u2001t =\u00A0command" "t" .command :=
      ⟨["t=event"], _, [], hentries, hsecond, by simp⟩
    refine ⟨table, htable, (hresolve table htable _ _).mpr (.inl hlast),
      (hresolve table htable _ _).mpr (.inr ⟨?_, rfl⟩)⟩
    refine List.forall_mem_cons.mpr ⟨fun kind halias => ?_, List.forall_mem_singleton.mpr fun kind halias => ?_⟩
    · exact absurd (hfirst.name_eq halias) (by decide)
    · exact absurd (hsecond.name_eq halias) (by decide)
  · refine ((alias_grammar _ _).2.2.1 _).mpr ⟨["x=event"], "a/b=metrics", ["y"], by decide, ?_, ?_⟩
    · intro e he
      rw [List.mem_singleton.mp he]
      exact ⟨"x", .event, readAlias_eq_ok_iff.mp rfl⟩
    · exact readAlias_eq_error_iff.mp rfl

end DeviceMessaging
