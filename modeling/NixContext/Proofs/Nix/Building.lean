import NixContext.Nix.Options
import NixContext.Proofs.Validation.Issues
import Mathlib.Data.List.Basic

/-! # Options from named values

Options can be built exactly if every name is that of an option and every value is one that the
option takes. Otherwise everything is reported that is wrong with the given options, one by one:
first the options in their order, then the names that are none (`Options.build_outcomes`). One
name is out of reach of this, since it stands for the record itself
(`Options.not_forall_build_ok_or_rejected`).
-/

namespace NixContext.Nix.Options

open Check Checked

/-- The values that an option of a kind takes; with null it is not set. -/
def Kind.Takes (v : Value) : Kind → Prop
  | truth => v = .null ∨ IsTruth v
  | path => v = .null ∨ IsPath v
  | entries => v = .null ∨ ∃ es : List String, (v = .list (es.map .str) ∨ v = .tuple (es.map .str)) ∧
      ∀ e ∈ es, isEntry e

/-- The name is that of an option, and the option takes the value. -/
def Takes (name : String) (v : Value) : Prop :=
  ∃ k, kinds.lookup name = some k ∧ k.Takes v

/-- What is wrong with a value for a kind of option. -/
def Kind.issues (v : Value) : Kind → List Issue
  | truth => (orNull Check.truth v).issues
  | path => (orNull Check.path v).issues
  | entries => (entrySet v).issues

/-- What is wrong with an option. -/
def refusal (name : String) (v : Value) : List Issue :=
  match kinds.lookup name with
  | some k => (k.issues v).map (Issue.under (.field name))
  | none => [⟨.unexpected, [.field name]⟩]

/-- Named values as the entries that options are made of. -/
def given (t : Table Value) : List (Value × Value) :=
  t.entries.map fun e => (.str e.1, e.2)

/-- What is wrong with named values: the options in their order, then the other names. -/
def refusals (t : Table Value) : List Issue :=
  (fieldNames.flatMap fun name => (t.find? name).elim [] (refusal name)) ++
    (t.entries.filter (·.1 ∉ fieldNames)).flatMap fun e => refusal e.1 e.2

variable {v : Value} {name : String} {k : Kind} {t : Table Value}

theorem exists_ofList_iff {es : List String} :
    (∃ s, EntrySetOf.ofList isEntry es = .ok s) ↔ ∀ e ∈ es, isEntry e := by
  have hfind : (∀ e ∈ es, isEntry e) ↔ es.find? (fun e => !isEntry e) = none := by simp
  rw [hfind]
  cases he : es.find? (fun e => !isEntry e) with
  | some e => simp [EntrySetOf.ofList_of_find?_eq_some he]
  | none =>
    obtain ⟨s, hs, -⟩ := EntrySetOf.ofList_of_find?_eq_none he
    exact iff_of_true ⟨s, hs⟩ rfl

section Kinds

theorem entrySet_of_ne_null (h : v ≠ .null) : entrySet v =
    (texts .notTuple v).bind fun es =>
      match EntrySetOf.ofList isEntry es with
      | .ok s => .ok (some s)
      | .error e => fail (.badEntry e) := by
  rw [entrySet, orNull_of_ne_null h]
  cases texts .notTuple v <;> rfl

theorem isExplained_entrySet (v : Value) : IsExplained (entrySet v) := by
  by_cases hv : v = .null
  · rw [hv]
    exact isExplained_ok _
  · rw [entrySet_of_ne_null hv]
    refine (isExplained_texts .notTuple v).bind fun es => ?_
    split
    · exact isExplained_ok _
    · exact isExplained_fail _

theorem exists_entrySet_iff : (∃ s, entrySet v = .ok s) ↔ Kind.entries.Takes v := by
  by_cases hv : v = .null
  · rw [hv]
    exact iff_of_true ⟨none, rfl⟩ (.inl rfl)
  · have htakes : Kind.entries.Takes v ↔
        ∃ es, texts .notTuple v = .ok es ∧ ∃ s, EntrySetOf.ofList isEntry es = .ok s := by
      simp [Kind.Takes, hv, texts_eq_ok_iff, exists_ofList_iff]
    rw [htakes, entrySet_of_ne_null hv]
    cases texts .notTuple v with
    | error is => exact iff_of_false nofun nofun
    | ok es => cases h : EntrySetOf.ofList isEntry es <;> simp [Except.bind, h, fail]

theorem Kind.issues_eq_nil_iff : k.issues v = [] ↔ k.Takes v := by
  cases k with
  | truth =>
    rw [Kind.issues, (isExplained_orNull isExplained_truth v).issues_eq_nil_iff, exists_orNull_iff,
      exists_truth_iff, Kind.Takes]
  | path =>
    rw [Kind.issues, (isExplained_orNull isExplained_path v).issues_eq_nil_iff, exists_orNull_iff,
      exists_path_iff, Kind.Takes]
  | entries =>
    rw [Kind.issues, (isExplained_entrySet v).issues_eq_nil_iff, exists_entrySet_iff]

end Kinds

section Named

theorem findEntry_given (name : String) (t : Table Value) :
    Value.findEntry (.str name) (given t) = t.find? name := by
  rw [given, Table.find?]
  induction t.entries with
  | nil => rfl
  | cons e es ih =>
    rw [List.map_cons, Value.findEntry, List.lookup_cons, ih]
    show (if e.1 == name then _ else _) = _
    rw [BEq.comm]
    cases name == e.1 <;> rfl

theorem strayIssues_given (t : Table Value) : strayIssues fieldNames (given t) =
    (t.entries.filter (·.1 ∉ fieldNames)).map fun e => ⟨.unexpected, [.field e.1]⟩ := by
  rw [given, strayIssues]
  induction t.entries with
  | nil => rfl
  | cons e es ih =>
    rw [List.map_cons, List.filterMap_cons, ih, strayIssue?]
    by_cases h : e.1 ∈ fieldNames <;> simp [h]

theorem lookup_kinds : ∀ f ∈ kinds, kinds.lookup f.1 = some f.2 := by
  decide +kernel

theorem kinds_names : kinds.map Prod.fst = fieldNames :=
  rfl

theorem lookup_kinds_eq_none_iff : kinds.lookup name = none ↔ name ∉ fieldNames := by
  rw [← kinds_names, List.lookup_eq_none_iff, List.mem_map]
  simp only [bne_iff_ne, not_exists, not_and, ne_comm (b := name), ne_eq]

theorem refusal_of_not_mem (h : name ∉ fieldNames) :
    refusal name v = [⟨.unexpected, [.field name]⟩] := by
  rw [refusal, lookup_kinds_eq_none_iff.mpr h]

theorem refusal_eq_nil_iff : refusal name v = [] ↔ Takes name v := by
  rw [refusal, Takes]
  cases kinds.lookup name with
  | none => simp
  | some k => simp [Kind.issues_eq_nil_iff]

/-- All that is wrong with an option is reported at its name. -/
theorem head?_location_of_mem_refusal {i : Issue} (h : i ∈ refusal name v) :
    i.location.head? = some (.field name) := by
  rw [refusal] at h
  split at h
  · obtain ⟨j, -, rfl⟩ := List.mem_map.mp h
    rfl
  · rw [List.mem_singleton.mp h]
    rfl

/-- What is wrong with named values is what is wrong with each of them. -/
theorem issues_ofEntries (t : Table Value) : (ofEntries (given t)).issues = refusals t := by
  have hfields : (fieldNames.flatMap fun name => (t.find? name).elim [] (refusal name)) =
      kinds.flatMap fun f =>
        (t.find? f.1).elim [] fun v => (f.2.issues v).map (Issue.under (.field f.1)) := by
    rw [← kinds_names, List.flatMap_map]
    refine List.flatMap_congr fun f hf => ?_
    cases t.find? f.1 with
    | none => rfl
    | some v =>
      show refusal f.1 v = _
      rw [refusal, lookup_kinds f hf]
      rfl
  have hstray : ((t.entries.filter (·.1 ∉ fieldNames)).flatMap fun e => refusal e.1 e.2) =
      strayIssues fieldNames (given t) := by
    rw [strayIssues_given, List.map_eq_flatMap]
    refine List.flatMap_congr fun e he => ?_
    exact refusal_of_not_mem (by simpa using (List.mem_filter.mp he).2)
  -- the checks of the fields stand in the order of the kinds
  rw [refusals, hfields, hstray, ofEntries]
  simp only [issues_guarded, issues_also, issues_optional, findEntry_given]
  simp only [kinds, List.flatMap_cons, List.flatMap_nil, List.append_nil, ← List.append_assoc]
  rfl

theorem isExplained_ofEntries (es : List (Value × Value)) : IsExplained (ofEntries es) := by
  have htruth := isExplained_orNull isExplained_truth
  have hpath := isExplained_orNull isExplained_path
  refine ((((((((isExplained_ok Options.mk).also ?_).also ?_).also ?_).also ?_).also ?_).also
    ?_).also ?_).guarded _
  · exact isExplained_optional htruth
  · exact isExplained_optional htruth
  · exact isExplained_optional htruth
  · exact isExplained_optional hpath
  · exact isExplained_optional isExplained_entrySet
  · exact isExplained_optional isExplained_entrySet
  · exact isExplained_optional isExplained_entrySet

theorem ofEntries_eq_ok_iff {es : List (Value × Value)} {o : Options} : ofEntries es = .ok o ↔
    (optional "accept_flake_config" (orNull Check.truth) none es = .ok o.acceptFlakeConfig ∧
      optional "warn_dirty" (orNull Check.truth) none es = .ok o.warnDirty ∧
      optional "show_trace" (orNull Check.truth) none es = .ok o.showTrace ∧
      optional "netrc_file" (orNull Check.path) none es = .ok o.netrcFile ∧
      optional "extra_experimental_features" entrySet none es = .ok o.extraExperimentalFeatures ∧
      optional "extra_substituters" entrySet none es = .ok o.extraSubstituters ∧
      optional "extra_trusted_public_keys" entrySet none es = .ok o.extraTrustedPublicKeys) ∧
    strayIssues fieldNames es = [] := by
  simp only [ofEntries, guarded_eq_ok_iff, also_eq_ok_iff, Except.ok.injEq]
  constructor
  · rintro ⟨⟨_, keys, ⟨_, substituters, ⟨_, features, ⟨_, netrc, ⟨_, trace, ⟨_, dirty,
      ⟨_, accept, rfl, haccept, rfl⟩, hdirty, rfl⟩, htrace, rfl⟩, hnetrc, rfl⟩, hfeatures, rfl⟩,
      hsubstituters, rfl⟩, hkeys, rfl⟩, hs⟩
    exact ⟨⟨haccept, hdirty, htrace, hnetrc, hfeatures, hsubstituters, hkeys⟩, hs⟩
  · rintro ⟨⟨haccept, hdirty, htrace, hnetrc, hfeatures, hsubstituters, hkeys⟩, hs⟩
    exact ⟨⟨_, _, ⟨_, _, ⟨_, _, ⟨_, _, ⟨_, _, ⟨_, _, ⟨_, _, rfl, haccept, rfl⟩, hdirty, rfl⟩,
      htrace, rfl⟩, hnetrc, rfl⟩, hfeatures, rfl⟩, hsubstituters, rfl⟩, hkeys, rfl⟩, hs⟩

theorem refusals_eq_nil_iff :
    refusals t = [] ↔ ∀ name v, t.find? name = some v → Takes name v := by
  rw [refusals, List.append_eq_nil_iff, List.flatMap_eq_nil_iff, List.flatMap_eq_nil_iff]
  constructor
  · rintro ⟨hfields, hstray⟩ name v hv
    by_cases hn : name ∈ fieldNames
    · have h := hfields name hn
      rw [hv] at h
      exact refusal_eq_nil_iff.mp h
    · have he : (name, v) ∈ t.entries.filter (·.1 ∉ fieldNames) :=
        List.mem_filter.mpr ⟨Table.find?_eq_some_iff.mp hv, by simpa using hn⟩
      exact refusal_eq_nil_iff.mp (hstray _ he)
  · intro h
    refine ⟨fun name _ => ?_, fun e he => ?_⟩
    · cases hv : t.find? name with
      | none => rfl
      | some v => exact refusal_eq_nil_iff.mpr (h name v hv)
    · have hv := Table.find?_eq_some_iff.mpr (List.mem_filter.mp he).1
      exact refusal_eq_nil_iff.mpr (h e.1 e.2 hv)

end Named

theorem ofEntries_of_build {us : List (Value × Value)} {o : Options} (h : build us = .ok o) :
    ofEntries us = .ok o := by
  unfold build at h
  split at h
  · cases h
  · cases hu : ofEntries us with
    | error is => rw [hu] at h; cases h
    | ok p => rw [hu] at h; exact congrArg Except.ok (Except.ok.inj h)

theorem reservedName_not_mem : reservedName ∉ fieldNames := by
  decide +kernel

theorem not_takes_reservedName (v : Value) : ¬ Takes reservedName v := by
  rintro ⟨k, hk, -⟩
  rw [lookup_kinds_eq_none_iff.mpr reservedName_not_mem] at hk
  cases hk

theorem any_reservedName (t : Table Value) :
    (given t).any (fun e => e.1 = .str reservedName) = t.contains reservedName := by
  rw [Bool.eq_iff_iff, Table.contains, Option.isSome_iff_exists]
  simp [given, Table.find?_eq_some_iff]

theorem build_cases (t : Table Value) :
    (t.contains reservedName ∧ build (given t) = .error .reservedName) ∨
      (¬ t.contains reservedName ∧ refusals t = [] ∧ ∃ o, build (given t) = .ok o) ∨
      (¬ t.contains reservedName ∧ refusals t ≠ [] ∧
        build (given t) = .error (.rejected (refusals t))) := by
  rw [build, any_reservedName]
  by_cases hr : t.contains reservedName
  · exact .inl ⟨hr, if_pos hr⟩
  · rw [if_neg hr]
    have he := isExplained_ofEntries (given t)
    by_cases hn : refusals t = []
    · obtain ⟨o, ho⟩ := he.issues_eq_nil_iff.mp ((issues_ofEntries t).trans hn)
      exact .inr (.inl ⟨hr, hn, o, by rw [ho]; rfl⟩)
    · have ho := he.eq_error (by rwa [issues_ofEntries])
      refine .inr (.inr ⟨hr, hn, ?_⟩)
      rw [ho, issues_ofEntries]
      rfl

/-- Options are built exactly if every given name is that of an option which takes its value.
Otherwise all that is wrong with the options is reported, each at its name, unless one of the names
is the reserved one. All texts here are texts of characters; what else can happen if surrogates
stand alone in them is said of `RawOptions.build`. -/
theorem build_outcomes (t : Table Value) :
    ((∃ o, build (given t) = .ok o) ↔ ∀ name v, t.find? name = some v → Takes name v) ∧
      (build (given t) = .error .reservedName ↔ t.contains reservedName) ∧
      (∀ is, build (given t) = .error (.rejected is) ↔
        ¬ t.contains reservedName ∧ (∃ name v, t.find? name = some v ∧ ¬ Takes name v) ∧
          is = refusals t) ∧
      ∀ name v, (refusal name v = [] ↔ Takes name v) ∧
        ∀ i ∈ refusal name v, i.location.head? = some (.field name) := by
  have hrefused : (∃ name v, t.find? name = some v ∧ ¬ Takes name v) ↔ refusals t ≠ [] := by
    simp only [ne_eq, refusals_eq_nil_iff, not_forall, exists_prop]
  have hrefusal : ∀ name v, (refusal name v = [] ↔ Takes name v) ∧
      ∀ i ∈ refusal name v, i.location.head? = some (.field name) :=
    fun name v => ⟨refusal_eq_nil_iff, fun i => head?_location_of_mem_refusal⟩
  rw [← refusals_eq_nil_iff, hrefused]
  rcases build_cases t with ⟨hr, hb⟩ | ⟨hr, hn, o, hb⟩ | ⟨hr, hn, hb⟩
  · -- the reserved name is that of no option, so the values are not all taken here either
    have hn : refusals t ≠ [] := by
      obtain ⟨v, hv⟩ := Option.isSome_iff_exists.mp hr
      exact hrefused.mp ⟨reservedName, v, hv, not_takes_reservedName v⟩
    refine ⟨?_, ?_, ?_, hrefusal⟩ <;> simp [hb, hr, hn]
  · refine ⟨?_, ?_, ?_, hrefusal⟩ <;> simp [hb, hr, hn]
  · refine ⟨?_, ?_, ?_, hrefusal⟩ <;> simp [hb, hr, hn, eq_comm]

/-- A value of the wrong kind, an entry with a blank and a name that is none; then two options that
are taken, and the reserved name. -/
theorem build_outcomes_mixedOptions :
    build (given (Table.ofList [("colour", .int 1), ("warn_dirty", .null),
        ("extra_substituters", .list [.str "a", .str "b c"]),
        ("accept_flake_config", .str "maybe")])) =
      .error (.rejected [⟨.unreadableTruth, [.field "accept_flake_config"]⟩,
        ⟨.badEntry "b c", [.field "extra_substituters"]⟩, ⟨.unexpected, [.field "colour"]⟩]) ∧
    (∃ o, build (given (Table.ofList [("warn_dirty", .str "No"),
      ("extra_substituters", .tuple [.str "a"])])) = .ok o) ∧
    build (given (Table.ofList [("colour", .int 1), (reservedName, .null)])) =
      .error .reservedName := by
  refine ⟨?_, ?_, ?_⟩
  · obtain ⟨-, -, hrejected, -⟩ := build_outcomes (Table.ofList [("colour", .int 1),
      ("warn_dirty", .null), ("extra_substituters", .list [.str "a", .str "b c"]),
      ("accept_flake_config", .str "maybe")])
    refine (hrejected _).mpr ⟨by decide +kernel, ⟨"colour", .int 1, rfl, ?_⟩, by decide +kernel⟩
    rintro ⟨k, hk, -⟩
    cases hk
  · obtain ⟨hbuilt, -⟩ := build_outcomes (Table.ofList [("warn_dirty", .str "No"),
      ("extra_substituters", .tuple [.str "a"])])
    refine hbuilt.mpr fun name v hv => ?_
    have he : (name, v) ∈ [("warn_dirty", Value.str "No"),
        ("extra_substituters", .tuple [.str "a"])] := Table.find?_eq_some_iff.mp hv
    simp only [List.mem_cons, Prod.mk.injEq, List.not_mem_nil, or_false] at he
    rcases he with ⟨rfl, rfl⟩ | ⟨rfl, rfl⟩
    · exact ⟨.truth, rfl, .inr (.inl (by decide +kernel))⟩
    · exact ⟨.entries, rfl, .inr ⟨["a"], .inr rfl, by decide +kernel⟩⟩
  · obtain ⟨-, hreserved, -⟩ := build_outcomes (Table.ofList [("colour", .int 1),
      (reservedName, .null)])
    exact hreserved.mpr (by decide +kernel)

/-- The reserved name is neither taken nor reported. -/
theorem not_forall_build_ok_or_rejected :
    ¬ ∀ t : Table Value, (∃ o, build (given t) = .ok o) ∨
      ∃ is, build (given t) = .error (.rejected is) := by
  intro h
  have hr : build (given (Table.ofList [(reservedName, .bool true)])) = .error .reservedName := rfl
  rcases h (Table.ofList [(reservedName, .bool true)]) with ⟨o, ho⟩ | ⟨is, his⟩
  · cases hr.symm.trans ho
  · cases hr.symm.trans his

end NixContext.Nix.Options
