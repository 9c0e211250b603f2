import NixContext.Proofs.Nix.Entries

/-! # Options in another order

The order in which options are given shows nowhere: they are looked up by their names, so options
in another order are the same options, or are refused for the same reasons in the same order.
Names that are none add their own issues behind those of the options and leave these as they are
(`RawOptions.build_reordered`). A name that cannot be encoded does not: it hides them
(`RawOptions.not_forall_build_reports_fieldIssues`).
-/

namespace NixContext

namespace Checked

variable {α β : Type} {c : Checked α}

/-- No text is reported for being no entry. -/
def ReportsNoEntry (c : Checked α) : Prop :=
  ∀ i ∈ c.issues, ∀ e, i.cause ≠ .badEntry e

theorem reportsNoEntry_ok (a : α) : ReportsNoEntry (.ok a) :=
  nofun

theorem reportsNoEntry_fail {x : Cause} (hx : ∀ e, x ≠ .badEntry e) :
    ReportsNoEntry (fail x : Checked α) := by
  intro i hi
  rw [List.mem_singleton.mp hi]
  exact hx

theorem ReportsNoEntry.ite {p : Prop} [Decidable p] {d : Checked α} (hc : ReportsNoEntry c)
    (hd : ReportsNoEntry d) : ReportsNoEntry (if p then c else d) := by
  split
  · exact hc
  · exact hd

theorem ReportsNoEntry.map (hc : ReportsNoEntry c) (f : α → β) : ReportsNoEntry (c.map f) := by
  rwa [ReportsNoEntry, issues_map]

theorem ReportsNoEntry.under (hc : ReportsNoEntry c) (s : Step) : ReportsNoEntry (c.under s) := by
  intro i hi
  rw [issues_under] at hi
  obtain ⟨j, hj, rfl⟩ := List.mem_map.mp hi
  exact hc j hj

theorem ReportsNoEntry.items {check : β → Checked α} (h : ∀ b, ReportsNoEntry (check b)) (i : Nat)
    (bs : List β) : ReportsNoEntry (items check i bs) := by
  induction bs generalizing i with
  | nil => exact reportsNoEntry_ok _
  | cons b bs ih =>
    intro j hj
    rw [Checked.items, issues_also, List.mem_append] at hj
    exact hj.elim (((h b).under _).map _ j) (ih _ j)

end Checked

namespace Nix.RawOptions

open Checked EntrySetOf
open Options (Kind kinds fieldNames reservedName)

variable {os us : List (RawText × RawValue)} {v : RawValue} {name : String} {e : String}
  {es : List RawText} {f : String × Kind}

/-- The values that are given under the names of options. -/
def known (os : List (RawText × RawValue)) : List (RawText × RawValue) :=
  os.filter (·.1 ∈ fieldNames.map RawText.ofString)

/-- The texts that are given for a set. -/
def GivesTexts (os : List (RawText × RawValue)) (name : String) (es : List RawText) : Prop :=
  given? os name = some (.list (es.map .str)) ∨ given? os name = some (.tuple (es.map .str))

section Lookup

theorem given?_eq_some_iff (hd : (os.map Prod.fst).Nodup) :
    given? os name = some v ↔ (.ofString name, v) ∈ os := by
  refine ⟨mem_of_given?, fun hmem => ?_⟩
  obtain ⟨before, behind, rfl⟩ := List.append_of_mem hmem
  rw [given?, List.lookup_eq_some_iff]
  refine ⟨before, behind, rfl, fun o ho => ?_⟩
  rw [List.map_append, List.nodup_append] at hd
  exact bne_iff_ne.mpr fun he => hd.2.2 _ (List.mem_map_of_mem ho) _ (.head _) he.symm

theorem given?_of_perm (hd : (os.map Prod.fst).Nodup) (h : os.Perm us) (name : String) :
    given? os name = given? us name := by
  ext v
  rw [given?_eq_some_iff hd, given?_eq_some_iff ((h.map _).nodup hd), h.mem_iff]

theorem nodup_known (hd : (os.map Prod.fst).Nodup) : ((known os).map Prod.fst).Nodup :=
  (List.filter_sublist.map Prod.fst).nodup hd

theorem given?_known (hd : (os.map Prod.fst).Nodup) (hn : name ∈ fieldNames) :
    given? (known os) name = given? os name := by
  ext v
  rw [given?_eq_some_iff (nodup_known hd), given?_eq_some_iff hd, known, List.mem_filter,
    and_iff_left]
  simpa using List.mem_map_of_mem hn

theorem readField_congr (h : given? os f.1 = given? us f.1) : readField os f = readField us f := by
  rw [readField, readField, h]

theorem readField_known (hd : (os.map Prod.fst).Nodup) (hf : f ∈ kinds) :
    readField (known os) f = readField os f :=
  readField_congr (given?_known hd (List.mem_map_of_mem hf))

end Lookup

section Known

/-- Options of which every name is known are built from what the fields are read as. -/
theorem build_of_forall_mem (hnames : ∀ n ∈ os.map Prod.fst, n ∈ fieldNames.map RawText.ofString) :
    ((∃ f ∈ kinds, Unencodable os f) → build os = .error .unencodable) ∧
      ((∀ f ∈ kinds, ¬ Unencodable os f) → build os =
        if fieldIssues os = [] then .ok (settings os) else .error (.rejected (fieldIssues os))) := by
  have hr : .ofString reservedName ∉ os.map Prod.fst := by
    intro hr
    obtain ⟨n, hn, he⟩ := List.mem_map.mp (hnames _ hr)
    exact Options.reservedName_not_mem (RawText.ofString_inj.mp he ▸ hn)
  have hstray : strayNames os = ([] : List String).map .ofString :=
    List.filter_eq_nil_iff.mpr fun n hn => by simpa using hnames n hn
  refine ⟨fun ⟨f, hf, hu⟩ => build_of_unencodable hr hf hu, fun hu => ?_⟩
  rw [build_of_names hr hu hstray]
  simp [strayIssues]

theorem build_congr (hos : ∀ n ∈ os.map Prod.fst, n ∈ fieldNames.map RawText.ofString)
    (hus : ∀ n ∈ us.map Prod.fst, n ∈ fieldNames.map RawText.ofString)
    (h : ∀ f ∈ kinds, readField os f = readField us f) : build os = build us := by
  have hiff : ∀ f ∈ kinds, (Unencodable os f ↔ Unencodable us f) := fun f hf => by
    rw [Unencodable, Unencodable, h f hf]
  by_cases hu : ∃ f ∈ kinds, Unencodable os f
  · obtain ⟨f, hf, hu⟩ := hu
    rw [(build_of_forall_mem hos).1 ⟨f, hf, hu⟩,
      (build_of_forall_mem hus).1 ⟨f, hf, (hiff f hf).mp hu⟩]
  · have hos' : ∀ f ∈ kinds, ¬ Unencodable os f := fun f hf hf' => hu ⟨f, hf, hf'⟩
    have hissues : fieldIssues os = fieldIssues us :=
      List.flatMap_congr fun f hf => by rw [refusal, refusal, h f hf]
    have hsettings : settings os = settings us := by
      rw [settings, settings]
      congr 1
      exact List.map_congr_left fun f hf => by rw [setting, setting, h f hf]
    rw [(build_of_forall_mem hos).2 hos',
      (build_of_forall_mem hus).2 fun f hf => mt (hiff f hf).mpr (hos' f hf), hissues, hsettings]

theorem mem_fieldNames_of_mem_known :
    ∀ n ∈ (known os).map Prod.fst, n ∈ fieldNames.map RawText.ofString := by
  intro n hn
  obtain ⟨o, ho, rfl⟩ := List.mem_map.mp hn
  simpa using (List.mem_filter.mp ho).2

theorem known_of_forall_mem (hnames : ∀ n ∈ os.map Prod.fst, n ∈ fieldNames.map RawText.ofString) :
    known os = os :=
  List.filter_eq_self.mpr fun o ho => by simpa using hnames o.1 (List.mem_map_of_mem ho)

variable (hd : (os.map Prod.fst).Nodup)

include hd

theorem build_known (hu : ∀ f ∈ kinds, ¬ Unencodable os f) : build (known os) =
    if fieldIssues os = [] then .ok (settings os) else .error (.rejected (fieldIssues os)) := by
  have hfields : ∀ f ∈ kinds, readField (known os) f = readField os f := fun f hf =>
    readField_known hd hf
  have hissues : fieldIssues (known os) = fieldIssues os :=
    List.flatMap_congr fun f hf => by rw [refusal, refusal, hfields f hf]
  have hsettings : settings (known os) = settings os := by
    rw [settings, settings]
    congr 1
    exact List.map_congr_left fun f hf => by rw [setting, setting, hfields f hf]
  rw [(build_of_forall_mem mem_fieldNames_of_mem_known).2, hissues, hsettings]
  intro f hf
  rw [Unencodable, hfields f hf]
  exact hu f hf

end Known

section Reports

theorem reportsNoEntry_truth (v : Value) : ReportsNoEntry (Check.truth v) := by
  have hint : ∀ n, ReportsNoEntry (Check.truthOfInt n) := fun n =>
    (reportsNoEntry_ok _).ite ((reportsNoEntry_ok _).ite (reportsNoEntry_fail nofun))
  cases v with
  | bool b => exact reportsNoEntry_ok b
  | int n => exact (hint n).ite (reportsNoEntry_fail nofun)
  | float x => exact (hint _).ite (reportsNoEntry_fail nofun)
  | str s => exact (reportsNoEntry_ok _).ite ((reportsNoEntry_ok _).ite (reportsNoEntry_fail nofun))
  | null | list _ | tuple _ | map _ | path _ => exact reportsNoEntry_fail nofun

theorem reportsNoEntry_rawTruth (v : RawValue) : ReportsNoEntry v.truth := by
  cases v with
  | bool b => exact reportsNoEntry_truth (.bool b)
  | int n => exact reportsNoEntry_truth (.int n)
  | float x => exact reportsNoEntry_truth (.float x)
  | str s =>
    rw [RawValue.truth]
    split
    · exact reportsNoEntry_truth _
    · exact reportsNoEntry_fail (by simp)
  | null | list _ | tuple _ | map _ | path _ => exact reportsNoEntry_fail (by simp)

theorem reportsNoEntry_rawPath (v : RawValue) : ReportsNoEntry v.rawPath := by
  cases v <;> first | exact reportsNoEntry_ok _ | exact reportsNoEntry_fail nofun

theorem reportsNoEntry_texts (v : RawValue) : ReportsNoEntry v.texts := by
  have htext : ∀ v : RawValue, ReportsNoEntry v.text := by
    intro v
    cases v <;> first | exact reportsNoEntry_ok _ | exact reportsNoEntry_fail nofun
  cases v <;> first | exact .items htext 0 _ | exact reportsNoEntry_fail nofun

/-- Only a list or a tuple of texts is taken for texts. -/
theorem eq_of_texts (h : v.texts = .ok es) : v = .list (es.map .str) ∨ v = .tuple (es.map .str) := by
  have hitems : ∀ (i : Nat) (xs : List RawValue) (es : List RawText),
      Checked.items RawValue.text i xs = .ok es → xs = es.map .str := by
    intro i xs
    induction xs generalizing i with
    | nil =>
      rintro es ⟨⟩
      rfl
    | cons x xs ih =>
      intro es hes
      obtain ⟨g, ts, hg, hts, rfl⟩ := also_eq_ok_iff.mp hes
      cases x with
      | str s =>
        cases hg
        rw [ih _ ts hts]
        rfl
      | null | bool _ | int _ | float _ | list _ | tuple _ | map _ | path _ => cases hg
  cases v with
  | list xs => exact .inl (congrArg _ (hitems 0 xs es h))
  | tuple xs => exact .inr (congrArg _ (hitems 0 xs es h))
  | null | bool _ | int _ | float _ | str _ | map _ | path _ => cases h

theorem read_reports (k : Kind) (v : RawValue) :
    (∃ c, read k v = .ok c ∧ ReportsNoEntry c) ∨ (k = .entries ∧
      ∃ es e, (v = .list (es.map .str) ∨ v = .tuple (es.map .str)) ∧
        FirstStray isRawEntry es e) := by
  unfold read
  split
  · exact .inl ⟨_, rfl, reportsNoEntry_ok _⟩
  · exact .inl ⟨_, rfl, (reportsNoEntry_rawTruth v).map _⟩
  · exact .inl ⟨_, rfl, (reportsNoEntry_rawPath v).map _⟩
  · split
    · next es hes =>
      by_cases hall : ∀ d ∈ es, isRawEntry d
      · obtain ⟨s, hs, -⟩ := ofList_of_valid hall
        exact .inl ⟨_, by rw [entrySet, hs]; rfl, reportsNoEntry_ok _⟩
      · obtain ⟨e, he⟩ := exists_firstStray hall
        exact .inr ⟨rfl, es, e, eq_of_texts hes, he⟩
    · next is his =>
      -- that all items are texts is checked before any of them is checked as an entry
      have his' : is = v.texts.issues := by rw [his]; rfl
      exact .inl ⟨_, rfl, his' ▸ reportsNoEntry_texts v⟩

/-- Only a list of texts is searched for one that is no entry. -/
theorem readField_reports (os : List (RawText × RawValue)) (f : String × Kind) :
    (∃ c, readField os f = .ok c ∧ ReportsNoEntry c) ∨ (f.2 = .entries ∧
      ∃ es e, GivesTexts os f.1 es ∧ FirstStray isRawEntry es e) := by
  cases hv : given? os f.1 with
  | none => exact .inl ⟨_, by rw [readField, hv], reportsNoEntry_ok _⟩
  | some v =>
    rcases read_reports f.2 v with ⟨c, hc, hreports⟩ | ⟨hk, es, e, htexts, he⟩
    · refine .inl ⟨c.under (.field f.1), ?_, hreports.under _⟩
      rw [readField, hv]
      show (read f.2 v).map _ = _
      rw [hc]
      rfl
    · refine .inr ⟨hk, es, e, ?_, he⟩
      rcases htexts with rfl | rfl
      · exact .inl hv
      · exact .inr hv

/-- The first text that is no entry is all that is reported, if it can be encoded. -/
theorem readField_of_firstStray {e : RawText} (hk : f.2 = .entries) (hes : GivesTexts os f.1 es)
    (he : FirstStray isRawEntry es e) : readField os f = match e.string? with
      | some d => .ok (.error [⟨.badEntry d, [.field f.1]⟩])
      | none => .error .unencodable := by
  have hfield : readField os f = (entrySet es).map fun c =>
      under (.field f.1) (c.map fun s => some (.entries s)) := by
    obtain ⟨name, k⟩ := f
    obtain rfl : k = .entries := hk
    exact hes.elim (readField_of_texts · (.inl rfl)) (readField_of_texts · (.inr rfl))
  rw [hfield, entrySet_of_firstStray he]
  cases e.string? <;> rfl

theorem unencodable_iff : Unencodable os f ↔ f.2 = .entries ∧ ∃ es e, GivesTexts os f.1 es ∧
    FirstStray isRawEntry es e ∧ ∀ d, e ≠ .ofString d := by
  rw [Unencodable]
  constructor
  · intro hu
    rcases readField_reports os f with ⟨c, hc, -⟩ | ⟨hk, es, e, hes, he⟩
    · cases hc.symm.trans hu
    · refine ⟨hk, es, e, hes, he, fun d hd => ?_⟩
      rw [readField_of_firstStray hk hes he, RawText.string?_eq_some_iff.mpr hd] at hu
      cases hu
  · rintro ⟨hk, es, e, hes, he, hd⟩
    have hnone : e.string? = none :=
      Option.eq_none_iff_forall_ne_some.mpr fun d h => hd d (RawText.string?_eq_some_iff.mp h)
    rw [readField_of_firstStray hk hes he, hnone]

theorem exists_eq_ofString {e : RawText} (hu : ¬ Unencodable os f) (hk : f.2 = .entries)
    (hes : GivesTexts os f.1 es) (he : FirstStray isRawEntry es e) : ∃ d, e = .ofString d := by
  by_contra hn
  exact hu (unencodable_iff.mpr ⟨hk, es, e, hes, he, fun d hd => hn ⟨d, hd⟩⟩)

theorem refusal_of_badEntry {i : Issue} (hi : i ∈ refusal os f) (he : i.cause = .badEntry e) :
    refusal os f = [⟨.badEntry e, [.field f.1]⟩] ∧
      ∃ es, GivesTexts os f.1 es ∧ FirstStray isRawEntry es (.ofString e) := by
  rw [refusal] at hi ⊢
  rcases readField_reports os f with ⟨c, hc, hreports⟩ | ⟨hk, es, d, hes, hd⟩
  · rw [hc] at hi
    exact absurd he (hreports i hi e)
  · rw [readField_of_firstStray hk hes hd] at hi ⊢
    cases hs : d.string? with
    | none =>
      rw [hs] at hi
      cases hi
    | some t =>
      rw [hs] at hi
      obtain rfl := List.mem_singleton.mp hi
      obtain rfl := Cause.badEntry.inj he
      rw [RawText.string?_eq_some_iff.mp hs] at hd
      exact ⟨rfl, es, hes, hd⟩

/-- All that is wrong with an option is reported at its name. -/
theorem head?_location_of_mem_refusal {i : Issue} (hi : i ∈ refusal os f) :
    i.location.head? = some (.field f.1) := by
  rw [refusal, readField] at hi
  cases hv : given? os f.1 with
  | none =>
    rw [hv] at hi
    cases hi
  | some v =>
    rw [hv] at hi
    rcases read_cases f.2 v with h | ⟨c, h, -⟩
    · simp only [h] at hi
      cases hi
    · simp only [h] at hi
      change i ∈ (c.under _).issues at hi
      rw [issues_under] at hi
      obtain ⟨j, -, rfl⟩ := List.mem_map.mp hi
      rfl

end Reports

/-- Options in another order give the same options, or are refused with the same issues in the same
order, which is that of the options: for each option what is wrong with it, and of the texts of a
set the first that is no entry. Names that are none of an option are reported behind these issues
and change none of them, unless one of them cannot be encoded: it is reported alone. This holds if
no text has to be reported that cannot be encoded. -/
theorem build_reordered (hd : (os.map Prod.fst).Nodup) (h : os.Perm us) :
    ((∀ n ∈ os.map Prod.fst, n ∈ fieldNames.map RawText.ofString) → known os = os ∧
      build os = build us ∧ (build os).map toArgs = (build us).map toArgs) ∧
    build (known os) = build (known us) ∧ fieldIssues os = fieldIssues us ∧
    (∀ f ∈ kinds, (∀ i ∈ refusal os f, i.location.head? = some (.field f.1) ∧
      ∀ e, i.cause = .badEntry e → refusal os f = [⟨.badEntry e, [.field f.1]⟩] ∧
        ∃ es, GivesTexts os f.1 es ∧ FirstStray isRawEntry es (.ofString e))) ∧
    ((∀ f ∈ kinds, ∀ es e, f.2 = .entries → GivesTexts os f.1 es → FirstStray isRawEntry es e →
        ∃ d, e = .ofString d) →
      ((fieldIssues os = [] ∧ ∃ o, build (known os) = .ok o) ∨
        (fieldIssues os ≠ [] ∧ build (known os) = .error (.rejected (fieldIssues os)))) ∧
      (.ofString reservedName ∉ os.map Prod.fst →
        (∀ names : List String, names ≠ [] → strayNames os = names.map .ofString →
          build os = .error (.rejected (fieldIssues os ++ strayIssues names))) ∧
        ∀ n ∈ strayNames os, (∀ d, n ≠ .ofString d) →
          build os = .error (.rejected [⟨.illFormedText, []⟩]))) := by
  have hfields : ∀ f ∈ kinds, readField os f = readField us f := fun f _ =>
    readField_congr (given?_of_perm hd h f.1)
  refine ⟨fun hnames => ?_, ?_, ?_, fun f _ i hi => ?_, fun hencodable => ?_⟩
  · have hus : ∀ n ∈ us.map Prod.fst, n ∈ fieldNames.map RawText.ofString := fun n hn =>
      hnames n ((h.map _).mem_iff.mpr hn)
    have hsame := build_congr hnames hus hfields
    exact ⟨known_of_forall_mem hnames, hsame, congrArg (Except.map toArgs) hsame⟩
  · refine build_congr mem_fieldNames_of_mem_known mem_fieldNames_of_mem_known fun f hf => ?_
    rw [readField_known hd hf, readField_known ((h.map _).nodup hd) hf, hfields f hf]
  · exact List.flatMap_congr fun f hf => by rw [refusal, refusal, hfields f hf]
  · exact ⟨head?_location_of_mem_refusal hi, fun e he => refusal_of_badEntry hi he⟩
  · have hu : ∀ f ∈ kinds, ¬ Unencodable os f := by
      intro f hf hu
      obtain ⟨hk, es, e, hes, he, hn⟩ := unencodable_iff.mp hu
      obtain ⟨d, hd⟩ := hencodable f hf es e hk hes he
      exact hn d hd
    refine ⟨?_, fun hr => ⟨fun names hne hstray => ?_, fun n hn hnd => ?_⟩⟩
    · rw [build_known hd hu]
      by_cases hnil : fieldIssues os = []
      · exact .inl ⟨hnil, settings os, if_pos hnil⟩
      · exact .inr ⟨hnil, if_neg hnil⟩
    · rw [build_of_names hr hu hstray, if_neg fun hnil => hne hnil.2]
    · exact build_of_illFormed hr hu hn hnd

/-- Two orders of options with a truth value that cannot be read, a set with two texts that are no
entries, and names that are none. -/
theorem build_reordered_mixedOptions :
    let bad := (RawText.ofString "extra_substituters",
      RawValue.tuple [.str (.ofString "a"), .str [], .str (.ofString "b c")])
    let maybe := (RawText.ofString "accept_flake_config", RawValue.str (.ofString "maybe"))
    build [bad, maybe] = build [maybe, bad] ∧
      build [(.ofString "x", .null), bad, (.ofString "colour", .int 1), maybe] =
        .error (.rejected [⟨.unreadableTruth, [.field "accept_flake_config"]⟩,
          ⟨.badEntry "", [.field "extra_substituters"]⟩, ⟨.unexpected, [.field "x"]⟩,
          ⟨.unexpected, [.field "colour"]⟩]) ∧
      build [([.surrogate 0], .null), maybe] = .error (.rejected [⟨.illFormedText, []⟩]) := by
  intro bad maybe
  refine ⟨?_, ?_, ?_⟩
  · have hp : [bad, maybe].Perm [maybe, bad] := .swap maybe bad []
    exact ((build_reordered (by decide +kernel) hp).1 (by decide +kernel)).2.1
  · have hp : [(.ofString "x", .null), bad, (.ofString "colour", .int 1), maybe].Perm _ := .rfl
    have hu : ∀ f ∈ kinds, readField [(.ofString "x", .null), bad, (.ofString "colour", .int 1),
        maybe] f ≠ .error .unencodable := by decide +kernel
    obtain ⟨-, -, -, -, hbuilt⟩ := build_reordered (by decide +kernel) hp
    obtain ⟨-, hstray⟩ := hbuilt fun f hf es e hk => exists_eq_ofString (hu f hf) hk
    exact ((hstray (by decide +kernel)).1 ["x", "colour"] nofun rfl).trans (by decide +kernel)
  · have hp : [([.surrogate 0], .null), maybe].Perm _ := .rfl
    have hu : ∀ f ∈ kinds, readField [([.surrogate 0], .null), maybe] f ≠ .error .unencodable := by
      decide +kernel
    obtain ⟨-, -, -, -, hbuilt⟩ := build_reordered (by decide +kernel) hp
    obtain ⟨-, hstray⟩ := hbuilt fun f hf es e hk => exists_eq_ofString (hu f hf) hk
    refine (hstray (by decide +kernel)).2 [.surrogate 0] (by decide +kernel) fun d hd => ?_
    have hnone : RawText.string? [.surrogate 0] = none := rfl
    rw [RawText.string?_eq_some_iff.mpr hd] at hnone
    cases hnone

/-- A name that cannot be encoded, behind a text that is no entry: the text is not reported. -/
theorem not_forall_build_reports_fieldIssues :
    ¬ ∀ os : List (RawText × RawValue), (os.map Prod.fst).Nodup →
      .ofString reservedName ∉ os.map Prod.fst → strayNames os ≠ [] →
        ∃ is, build os = .error (.rejected (fieldIssues os ++ is)) := by
  intro h
  obtain ⟨is, his⟩ := h [(.ofString "extra_substituters", .list [.str (.ofString "a b")]),
    ([.surrogate 0x4ff], .int 1)] (by decide +kernel) (by decide +kernel) (by decide +kernel)
  have hhidden : build [(.ofString "extra_substituters", .list [.str (.ofString "a b")]),
    ([.surrogate 0x4ff], .int 1)] = .error (.rejected [⟨.illFormedText, []⟩]) := rfl
  have hfields : fieldIssues [(.ofString "extra_substituters", .list [.str (.ofString "a b")]),
    ([.surrogate 0x4ff], .int 1)] = [⟨.badEntry "a b", [.field "extra_substituters"]⟩] := rfl
  rw [hhidden, hfields] at his
  cases his

end Nix.RawOptions

end NixContext
