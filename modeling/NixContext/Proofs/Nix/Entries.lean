import NixContext.Proofs.Nix.RawBuilding
import Mathlib.Data.List.Nodup

/-! # Sets of entries

The texts of a set are collected in one pass, which stops at the first text that is no entry and
leaves out every text that it has met before (`EntrySetOf.collect_eq`). So an option for a set is
refused exactly if some text is no entry, and otherwise it holds each text once, in the order of
the first occurrences (`RawOptions.build_entries`). The first text that is no entry is reported,
unless it cannot be encoded (`RawOptions.not_forall_build_names_firstStray`).
-/

namespace NixContext.Nix

section Distinct

variable {α : Type} [BEq α] [LawfulBEq α]

theorem distinct_append (a b : List α) :
    distinct (a ++ b) = distinct a ++ (distinct b).filter (· ∉ a) := by
  induction a with
  | nil => simp [distinct]
  | cons d a ih =>
    have hfilter : ((distinct b).filter (· ∉ a)).filter (· != d) =
        (distinct b).filter (· ∉ d :: a) := by
      rw [List.filter_filter]
      refine List.filter_congr fun x _ => ?_
      by_cases hx : x = d <;> simp [hx]
    rw [List.cons_append, distinct, ih, List.filter_append, hfilter]
    rfl

theorem distinct_distinct (es : List α) : distinct (distinct es) = distinct es :=
  distinct_of_nodup (nodup_distinct es)

theorem pairwise_distinct (es : List α) :
    (distinct es).Pairwise fun d e => es.idxOf d < es.idxOf e := by
  induction es with
  | nil => exact .nil
  | cons d es ih =>
    have hidx : ∀ x ∈ (distinct es).filter (· != d), (d :: es).idxOf x = es.idxOf x + 1 := by
      intro x hx
      have hne : x ≠ d := by simpa using (List.mem_filter.mp hx).2
      exact List.idxOf_cons_ne es hne.symm
    refine .cons (fun x hx => ?_) ?_
    · rw [hidx x hx, List.idxOf_cons_self]
      omega
    · refine (ih.filter _).imp_of_mem fun hx hy hxy => ?_
      rw [hidx _ hx, hidx _ hy]
      omega

end Distinct

namespace EntrySetOf

variable {α : Type} {isEntry : α → Bool} {e : α} {es seen : List α}

variable (isEntry) in
/-- The first text that is no entry. -/
def FirstStray (es : List α) (e : α) : Prop :=
  ∃ before behind, es = before ++ e :: behind ∧ (∀ d ∈ before, isEntry d) ∧ ¬ isEntry e

theorem firstStray_iff : FirstStray isEntry es e ↔ es.find? (!isEntry ·) = some e := by
  rw [List.find?_eq_some_iff_append, FirstStray]
  constructor
  · rintro ⟨before, behind, rfl, hbefore, he⟩
    exact ⟨by simpa using he, before, behind, rfl, by simpa using hbefore⟩
  · rintro ⟨he, before, behind, rfl, hbefore⟩
    exact ⟨before, behind, rfl, by simpa using hbefore, by simpa using he⟩

theorem exists_firstStray (h : ¬ ∀ e ∈ es, isEntry e) : ∃ e, FirstStray isEntry es e := by
  have hsome : (es.find? (!isEntry ·)).isSome := by simpa using h
  obtain ⟨e, he⟩ := Option.isSome_iff_exists.mp hsome
  exact ⟨e, firstStray_iff.mpr he⟩

variable [BEq α] [LawfulBEq α]

variable (isEntry) in
/-- Takes the next text of a set to those that are kept. -/
def collectStep (kept : List α) (e : α) : Except α (List α) :=
  if isEntry e then .ok (if e ∈ kept then kept else kept ++ [e]) else .error e

variable (isEntry) in
/-- The texts of a set, one after the other, or the first that is no entry. -/
def collect (es : List α) : Except α (List α) :=
  es.foldlM (collectStep isEntry) []

theorem collectStep_distinct (he : isEntry e) :
    collectStep isEntry (distinct seen) e = .ok (distinct (seen ++ [e])) := by
  rw [collectStep, if_pos he, distinct_append]
  by_cases hs : e ∈ seen <;> simp [mem_distinct, distinct, hs]

theorem foldlM_collectStep (seen es : List α) :
    es.foldlM (collectStep isEntry) (distinct seen) =
      match es.find? (!isEntry ·) with
      | some e => .error e
      | none => .ok (distinct (seen ++ es)) := by
  -- the texts that are kept are always the distinct ones of those that were met
  induction es generalizing seen with
  | nil => simp [pure, Except.pure]
  | cons e es ih =>
    rw [List.foldlM_cons, List.find?_cons]
    by_cases he : isEntry e
    · rw [collectStep_distinct he, he]
      show es.foldlM (collectStep isEntry) (distinct (seen ++ [e])) = _
      rw [ih, List.append_assoc]
      rfl
    · rw [collectStep, if_neg he, eq_false_of_ne_true he]
      rfl

theorem ofList_of_firstStray (h : FirstStray isEntry es e) : ofList isEntry es = .error e :=
  ofList_of_find?_eq_some (firstStray_iff.mp h)

theorem ofList_of_valid (h : ∀ e ∈ es, isEntry e) :
    ∃ s, ofList isEntry es = .ok s ∧ s.entries = distinct es :=
  ofList_of_find?_eq_none (by simpa using h)

theorem collect_eq (es : List α) : collect isEntry es = (ofList isEntry es).map entries := by
  have hrun : collect isEntry es = _ := foldlM_collectStep [] es
  rw [hrun]
  cases he : es.find? (!isEntry ·) with
  | some e =>
    rw [ofList_of_find?_eq_some he]
    rfl
  | none =>
    obtain ⟨s, hs, hentries⟩ := ofList_of_find?_eq_none he
    rw [hs]
    exact congrArg Except.ok hentries.symm

end EntrySetOf

theorem isRawEntry_iff {e : RawText} : isRawEntry e ↔ e ≠ [] ∧ ∀ c ∈ e, ¬ c.isBlank := by
  simp [isRawEntry]

namespace RawOptions

open Checked EntrySetOf
open Options (Kind kinds fieldNames reservedName)

variable {os : List (RawText × RawValue)} {v : RawValue} {name : String} {es : List RawText}
  {e : RawText} {f : String × Kind}

/-- The options that are sets. -/
def setNames : List String :=
  ["extra_experimental_features", "extra_substituters", "extra_trusted_public_keys"]

/-- The name is that of an option, and the option takes the value. -/
def Takes (name : RawText) (v : RawValue) : Prop :=
  ∃ f ∈ kinds, name = .ofString f.1 ∧ ∃ x, read f.2 v = .ok (.ok x)

section Fields

theorem mem_kinds_of_mem_setNames (h : name ∈ setNames) : (name, .entries) ∈ kinds := by
  have hall : ∀ name ∈ setNames, (name, .entries) ∈ kinds := by decide +kernel
  exact hall name h

theorem eq_of_mem_kinds {g : String × Kind} (hf : f ∈ kinds) (hg : g ∈ kinds) (h : f.1 = g.1) :
    f = g := by
  have hnodup : (kinds.map Prod.fst).Nodup := by decide +kernel
  exact List.inj_on_of_nodup_map hnodup hf hg h

theorem mem_of_given? (h : given? os name = some v) : (.ofString name, v) ∈ os := by
  rw [given?, List.lookup_eq_some_iff] at h
  obtain ⟨before, behind, rfl, -⟩ := h
  exact List.mem_append_right _ (.head _)

/-- A field that takes what is given for it is read. -/
theorem readField_of_takes (hf : f ∈ kinds)
    (h : ∀ v, given? os f.1 = some v → Takes (.ofString f.1) v) :
    ∃ x, readField os f = .ok (.ok x) := by
  rw [readField]
  split
  · next v hv =>
    obtain ⟨g, hg, hname, x, hx⟩ := h v hv
    rw [eq_of_mem_kinds hf hg (RawText.ofString_inj.mp hname), hx]
    exact ⟨x, rfl⟩
  · exact ⟨none, rfl⟩

theorem entrySet_of_firstStray (he : FirstStray isRawEntry es e) :
    entrySet es = match e.string? with
      | some d => .ok (fail (.badEntry d))
      | none => .error .unencodable := by
  cases hs : e.string? <;> simp only [entrySet, ofList_of_firstStray he, hs]

theorem readField_of_texts (hv : given? os name = some v)
    (htexts : v = .list (es.map .str) ∨ v = .tuple (es.map .str)) :
    readField os (name, .entries) = (entrySet es).map fun c =>
      under (.field name) (c.map fun s => some (.entries s)) := by
  have hitems : Checked.items RawValue.text 0 (es.map .str) = .ok es :=
    items_map (f := RawValue.str) (fun _ => rfl) 0 es
  have hread : read .entries v =
      (entrySet es).map (Except.map fun s => some (.entries s)) := by
    rcases htexts with rfl | rfl <;>
    · rw [read, RawValue.texts, hitems]
      nofun
  rw [readField, hv]
  show (read .entries v).map _ = _
  rw [hread]
  cases entrySet es <;> rfl

end Fields

section Given

variable (hname : name ∈ setNames) (hv : given? os name = some v)
  (htexts : v = .list (es.map .str) ∨ v = .tuple (es.map .str))
  (hothers : ∀ o ∈ os, o.1 ≠ .ofString name → Takes o.1 o.2)

include hothers

theorem readField_of_ne (hf : f ∈ kinds) (hne : f.1 ≠ name) :
    ∃ x, readField os f = .ok (.ok x) :=
  readField_of_takes hf fun _ hv => hothers _ (mem_of_given? hv) (mt RawText.ofString_inj.mp hne)

include hname

theorem mem_fieldNames_of_given {n : RawText} (hn : n ∈ os.map Prod.fst) :
    n ∈ fieldNames.map RawText.ofString := by
  obtain ⟨o, ho, rfl⟩ := List.mem_map.mp hn
  have hfield : ∃ f ∈ kinds, o.1 = .ofString f.1 := by
    by_cases h : o.1 = .ofString name
    · exact ⟨_, mem_kinds_of_mem_setNames hname, h⟩
    · obtain ⟨f, hf, hn, -⟩ := hothers o ho h
      exact ⟨f, hf, hn⟩
  obtain ⟨f, hf, hn⟩ := hfield
  exact List.mem_map.mpr ⟨f.1, List.mem_map_of_mem hf, hn.symm⟩

theorem strayNames_eq_nil : strayNames os = [] :=
  List.filter_eq_nil_iff.mpr fun _ hn => by
    simpa using mem_fieldNames_of_given hname hothers hn

theorem reservedName_not_given : .ofString reservedName ∉ os.map Prod.fst := by
  intro hr
  obtain ⟨n, hn, he⟩ := List.mem_map.mp (mem_fieldNames_of_given hname hothers hr)
  exact Options.reservedName_not_mem (RawText.ofString_inj.mp he ▸ hn)

/-- If the other options are taken, nothing is reported but what is wrong with this one. -/
theorem fieldIssues_eq_refusal : fieldIssues os = refusal os (name, .entries) := by
  have hother : ∀ f ∈ kinds, f.1 ≠ name → refusal os f = [] := by
    intro f hf hne
    obtain ⟨x, hx⟩ := readField_of_ne hothers hf hne
    rw [refusal, hx]
    rfl
  have hnodup : kinds.Nodup := by decide +kernel
  have hmem := mem_kinds_of_mem_setNames hname
  obtain ⟨before, behind, hkinds⟩ := List.append_of_mem hmem
  rw [hkinds, List.nodup_middle, List.nodup_cons, List.mem_append, not_or] at hnodup
  have hrest : ∀ fs : List (String × Kind), (name, .entries) ∉ fs → fs ⊆ kinds →
      fs.flatMap (refusal os) = [] := by
    intro fs hn hsub
    refine List.flatMap_eq_nil_iff.mpr fun f hf => hother f (hsub hf) fun he => hn ?_
    rwa [← eq_of_mem_kinds (hsub hf) hmem he]
  rw [fieldIssues, hkinds, List.flatMap_append, List.flatMap_cons,
    hrest before hnodup.1.1 (by simp [hkinds]), hrest behind hnodup.1.2 (by simp [hkinds])]
  exact List.append_nil _

include hv htexts

theorem build_of_texts : build os = match entrySet es with
    | .ok (.ok _) => .ok (settings os)
    | .ok (.error is) => .error (.rejected (is.map (Issue.under (.field name))))
    | .error _ => .error .unencodable := by
  have hr := reservedName_not_given hname hothers
  have hfield := readField_of_texts hv htexts
  have hmem := mem_kinds_of_mem_setNames hname
  rcases entrySet_cases es with h | ⟨c, h, hc⟩
  · rw [h] at hfield ⊢
    exact build_of_unencodable hr hmem hfield
  · rw [h] at hfield ⊢
    have hu : ∀ f ∈ kinds, ¬ Unencodable os f := by
      intro f hf hu
      by_cases he : f.1 = name
      · rw [eq_of_mem_kinds hf hmem he] at hu
        cases hfield.symm.trans hu
      · obtain ⟨x, hx⟩ := readField_of_ne hothers hf he
        cases hx.symm.trans hu
    have hissues : fieldIssues os = c.issues.map (Issue.under (.field name)) := by
      rw [fieldIssues_eq_refusal hname hothers, refusal, hfield]
      cases c <;> rfl
    have hstray : strayNames os = ([] : List String).map .ofString :=
      strayNames_eq_nil hname hothers
    rw [build_of_names hr hu hstray, hissues]
    cases c with
    | ok s => rfl
    | error is =>
      have hne : is.map (Issue.under (.field name)) ≠ [] := mt List.map_eq_nil_iff.mp (hc is rfl)
      rw [issues, if_neg fun h => hne h.1, strayIssues, List.map_nil, List.append_nil]

theorem build_of_firstStray (he : FirstStray isRawEntry es e) :
    (∀ d, e = .ofString d → build os = .error (.rejected [⟨.badEntry d, [.field name]⟩])) ∧
      ((∀ d, e ≠ .ofString d) → build os = .error .unencodable) := by
  rw [build_of_texts hname hv htexts hothers, entrySet_of_firstStray he]
  constructor
  · rintro d rfl
    rw [RawText.string?_ofString]
    rfl
  · intro h
    have hnone : e.string? = none :=
      Option.eq_none_iff_forall_ne_some.mpr fun d hd => h d (RawText.string?_eq_some_iff.mp hd)
    rw [hnone]

theorem build_of_valid (hall : ∀ e ∈ es, isRawEntry e) :
    ∃ o s, build os = .ok o ∧ (name, some (.entries s)) ∈ o.fields ∧
      s.entries = distinct es := by
  obtain ⟨s, hlist, hs⟩ := ofList_of_valid hall
  have hset : entrySet es = .ok (.ok s) := by rw [entrySet, hlist]
  refine ⟨settings os, s, ?_, ?_, hs⟩
  · rw [build_of_texts hname hv htexts hothers, hset]
  · have hsetting : setting os (name, .entries) = some (.entries s) := by
      rw [setting, readField_of_texts hv htexts, hset]
      rfl
    exact List.mem_map.mpr ⟨_, mem_kinds_of_mem_setNames hname, by rw [hsetting]⟩

end Given

/-- A set option is refused exactly if one of its texts is empty or has a blank. The first such text
is reported, unless a surrogate stands alone in it: then nothing can be reported. Otherwise the
option holds the texts without repetitions, each at its first occurrence. -/
theorem build_entries (hname : name ∈ setNames) (hv : given? os name = some v)
    (htexts : v = .list (es.map .str) ∨ v = .tuple (es.map .str))
    (hothers : ∀ o ∈ os, o.1 ≠ .ofString name → Takes o.1 o.2) :
    ((∃ x, build os = .error x) ↔ ∃ e ∈ es, e = [] ∨ ∃ c ∈ e, c.isBlank) ∧
      (∀ e, FirstStray isRawEntry es e → collect isRawEntry es = .error e ∧
        (∀ d, e = .ofString d → build os = .error (.rejected [⟨.badEntry d, [.field name]⟩])) ∧
        ((∀ d, e ≠ .ofString d) → build os = .error .unencodable)) ∧
      ((∀ e ∈ es, isRawEntry e) → collect isRawEntry es = .ok (distinct es) ∧
        ∃ o s, build os = .ok o ∧ (name, some (.entries s)) ∈ o.fields ∧
          s.entries = distinct es) ∧
      ((distinct es).Nodup ∧ (∀ e, e ∈ distinct es ↔ e ∈ es) ∧
        (distinct es).Pairwise fun d e => es.idxOf d < es.idxOf e) ∧
      (∀ ds, distinct (es ++ ds) = distinct es ++ (distinct ds).filter (· ∉ es)) ∧
      distinct (distinct es) = distinct es ∧ (es.Nodup → distinct es = es) := by
  have hstray : (∃ e ∈ es, e = [] ∨ ∃ c ∈ e, c.isBlank) ↔ ¬ ∀ e ∈ es, isRawEntry e := by
    simp only [isRawEntry_iff, not_forall, not_and_or, not_not, ne_eq, exists_prop]
  refine ⟨?_, fun e he => ⟨?_, build_of_firstStray hname hv htexts hothers he⟩, fun hall => ⟨?_,
    build_of_valid hname hv htexts hothers hall⟩, ⟨nodup_distinct es, fun e => mem_distinct,
    pairwise_distinct es⟩, distinct_append es, distinct_distinct es, distinct_of_nodup⟩
  · rw [hstray]
    constructor
    · rintro ⟨x, hx⟩ hall
      obtain ⟨o, -, ho, -⟩ := build_of_valid hname hv htexts hothers hall
      cases ho.symm.trans hx
    · intro hn
      obtain ⟨e, he⟩ := exists_firstStray hn
      obtain ⟨hreported, hlost⟩ := build_of_firstStray hname hv htexts hothers he
      by_cases hd : ∃ d, e = .ofString d
      · obtain ⟨d, hd⟩ := hd
        exact ⟨_, hreported d hd⟩
      · exact ⟨_, hlost fun d h => hd ⟨d, h⟩⟩
  · rw [collect_eq, ofList_of_firstStray he]
    rfl
  · obtain ⟨s, hlist, hs⟩ := ofList_of_valid hall
    rw [collect_eq, hlist, ← hs]
    rfl

/-- A surrogate that stands alone, followed by a blank and a letter. -/
def strayBehindSurrogate : RawText :=
  RawChar.surrogate 0x4ff :: RawText.ofString " b"

/-- A text with a blank that stands there twice is reported once, and the empty text behind it is
not. With a surrogate before the blank it is lost, and without the blank it is taken. -/
theorem build_entries_repeated :
    build [(.ofString "extra_substituters",
      .list [.str (.ofString "a"), .str (.ofString "b c"), .str [], .str (.ofString "b c")])] =
        .error (.rejected [⟨.badEntry "b c", [.field "extra_substituters"]⟩]) ∧
    build [(.ofString "extra_substituters", .tuple [.str strayBehindSurrogate])] =
      .error .unencodable ∧
    ∃ o s, build [(.ofString "warn_dirty", .bool false), (.ofString "extra_substituters",
      .tuple [.str (.ofString "b"), .str [.surrogate 0], .str (.ofString "b")])] = .ok o ∧
        ("extra_substituters", some (.entries s)) ∈ o.fields ∧
        s.entries = [RawText.ofString "b", [.surrogate 0]] := by
  refine ⟨?_, ?_, ?_⟩
  · obtain ⟨-, hstray, -⟩ := @build_entries
      [(.ofString "extra_substituters", _)] _ "extra_substituters"
      [.ofString "a", .ofString "b c", [], .ofString "b c"] (by decide) rfl (.inl rfl)
      (by simp)
    refine (hstray (.ofString "b c") ⟨[.ofString "a"], [[], .ofString "b c"], rfl, ?_, ?_⟩).2.1 _ rfl
    · decide +kernel
    · decide +kernel
  · obtain ⟨-, hstray, -⟩ := @build_entries
      [(.ofString "extra_substituters", _)] _ "extra_substituters"
      [strayBehindSurrogate] (by decide) rfl (.inr rfl) (by simp)
    refine (hstray strayBehindSurrogate ⟨[], [], rfl, nofun, by decide +kernel⟩).2.2 ?_
    intro d hd
    have hnone : strayBehindSurrogate.string? = none := rfl
    rw [RawText.string?_eq_some_iff.mpr hd] at hnone
    cases hnone
  · have hothers : ∀ o ∈ [(RawText.ofString "warn_dirty", RawValue.bool false),
        (.ofString "extra_substituters", .tuple [.str (.ofString "b"), .str [.surrogate 0],
          .str (.ofString "b")])], o.1 ≠ .ofString "extra_substituters" → Takes o.1 o.2 := by
      intro o ho hne
      simp only [List.mem_cons, List.not_mem_nil, or_false] at ho
      rcases ho with rfl | rfl
      · exact ⟨("warn_dirty", .truth), by decide, rfl, some (.truth false), rfl⟩
      · exact absurd rfl hne
    obtain ⟨-, -, hvalid, -⟩ := @build_entries _ _ "extra_substituters"
      [.ofString "b", [.surrogate 0], .ofString "b"] (by decide) rfl (.inr rfl)
      hothers
    exact (hvalid (by decide +kernel)).2

/-- Not every text that is no entry can be named. -/
theorem not_forall_build_names_firstStray :
    ¬ ∀ es e, FirstStray isRawEntry es e → ∃ d,
      build [(.ofString "extra_substituters", .list (es.map .str))] =
        .error (.rejected [⟨.badEntry d, [.field "extra_substituters"]⟩]) := by
  intro h
  obtain ⟨d, hd⟩ := h [strayBehindSurrogate] strayBehindSurrogate
    ⟨[], [], rfl, nofun, by decide +kernel⟩
  have hlost : build [(.ofString "extra_substituters", .list [.str strayBehindSurrogate])] =
      .error .unencodable := rfl
  cases hlost.symm.trans hd

end RawOptions

end NixContext.Nix
