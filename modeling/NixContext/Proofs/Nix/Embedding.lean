import NixContext.Proofs.Nix.RawBuilding
import Mathlib.Data.List.Nodup

/-! # Texts of characters as raw texts

Values whose texts are texts of characters are raw values. Options are built from them as from the
values themselves: the same options, with the same flags, or the same issues
(`RawOptions.build_ofTable`).
-/

namespace NixContext

namespace Path

variable {α β : Type} {f : α → β} {slash dot : α}

theorem map_intercalate (sep : List α) (ps : List (List α)) :
    (sep.intercalate ps).map f = (sep.map f).intercalate (ps.map (List.map f)) := by
  induction ps with
  | nil => rfl
  | cons p ps ih =>
    cases ps with
    | nil => simp
    | cons q ps => simpa using ih

variable [DecidableEq α] [DecidableEq β]

theorem splitOn_map (hf : f.Injective) (s : List α) :
    (s.map f).splitOn (f slash) = (s.splitOn slash).map (List.map f) := by
  induction s with
  | nil => simp
  | cons c s ih =>
    rw [List.map_cons, List.splitOn_cons_eq_if_modifyHead, List.splitOn_cons_eq_if_modifyHead, ih]
    by_cases hc : c = slash
    · simp [hc]
    · obtain ⟨p, ps, hp⟩ := List.exists_cons_of_ne_nil (List.splitOn_ne_nil slash s)
      simp [hc, hf.eq_iff, hp]

theorem normalize_map (hf : f.Injective) (s : List α) :
    normalize (f slash) (f dot) (s.map f) = (normalize slash dot s).map f := by
  have hroot : root (f slash) (s.map f) = (root slash s).map f := by
    have htake : (s.map f).takeWhile (· = f slash) = (s.takeWhile (· = slash)).map f := by
      rw [List.takeWhile_map]
      simp [Function.comp_def, hf.eq_iff]
    rw [root, root, htake, List.length_map]
    split <;> rfl
  have hcomponents : components (f slash) (f dot) (s.map f) =
      (components slash dot s).map (List.map f) := by
    have hproper : isProper (f dot) ∘ List.map f = isProper dot := by
      funext p
      have hdot : p.map f = [f dot] ↔ p = [dot] := hf.list_map.eq_iff (b := [dot])
      have hnil : p.map f = [] ↔ p = [] := List.map_eq_nil_iff
      simp only [Function.comp_def, isProper, bne, beq_eq_decide, hdot, hnil]
    rw [components, components, splitOn_map hf, List.filter_map, hproper]
  rw [normalize, normalize, hroot, hcomponents, build, build]
  simp only [List.map_eq_nil_iff, apply_ite (List.map f), List.map_append, map_intercalate,
    List.map_cons, List.map_nil]

end Path

theorem RawChar.char_injective : RawChar.char.Injective :=
  fun _ _ => RawChar.char.inj

/-- A path as one with a raw text. -/
def RawPath.ofPath (p : Path) : RawPath :=
  ⟨p.chars.map .char, by rw [Path.normalize_map RawChar.char_injective, p.isNormal]⟩

theorem RawPath.ofText_ofString (s : String) :
    RawPath.ofText (.ofString s) = .ofPath (Path.ofText s) :=
  PathOf.ext (Path.normalize_map RawChar.char_injective s.toList)

namespace Nix

theorem isRawEntry_ofString (e : String) : isRawEntry (.ofString e) = isEntry e := by
  have hempty : RawText.ofString e = [] ↔ e = "" := by
    rw [RawText.ofString, List.map_eq_nil_iff, String.toList_eq_nil_iff]
  have hblank : (RawText.ofString e).any RawChar.isBlank = e.toList.any Text.isBlank := by
    rw [RawText.ofString, List.any_map]
    rfl
  simp only [isRawEntry, isEntry, hblank, bne, beq_eq_decide, hempty]

theorem distinct_map {α β : Type} [BEq α] [LawfulBEq α] [BEq β] [LawfulBEq β] {f : α → β}
    (hf : f.Injective) (es : List α) : distinct (es.map f) = (distinct es).map f := by
  induction es with
  | nil => rfl
  | cons e es ih =>
    have hbeq : ∀ d, (f d == f e) = (d == e) := fun d => by
      rw [Bool.eq_iff_iff, beq_iff_eq, beq_iff_eq, hf.eq_iff]
    rw [List.map_cons, distinct, distinct, ih, List.filter_map, List.map_cons]
    simp only [Function.comp_def, bne, hbeq]

theorem ofString_injective : RawText.ofString.Injective :=
  fun _ _ => RawText.ofString_inj.mp

/-- A set of entries as one of raw entries. -/
def EntrySet.raw (s : EntrySet) : RawEntrySet where
  entries := s.entries.map .ofString
  nodup := (List.nodup_map_iff ofString_injective).mpr s.nodup
  valid e he := by
    obtain ⟨d, hd, rfl⟩ := List.mem_map.mp he
    rw [isRawEntry_ofString]
    exact s.valid d hd

/-- The value of an option as one with raw texts. -/
def OptionValue.raw : OptionValue → RawOptionValue
  | truth b => .truth b
  | path p => .path (.ofPath p)
  | entries s => .entries s.raw

theorem OptionValue.text_raw (v : OptionValue) : v.raw.text = .ofString v.text := by
  cases v with
  | truth b => rfl
  | path p =>
    show p.chars.map RawChar.char = (String.ofList p.chars).toList.map .char
    rw [String.toList_ofList]
  | entries s =>
    show [RawChar.char ' '].intercalate (s.entries.map RawText.ofString) =
      (" ".intercalate s.entries).toList.map .char
    rw [String.toList_intercalate, Path.map_intercalate, List.map_map]
    rfl

/-- Options as options with raw texts. -/
def Options.raw (o : Options) : RawOptions where
  fields := o.fields.map fun f => (f.1, f.2.map OptionValue.raw)
  names := rfl

theorem Options.toArgs_raw (o : Options) : o.raw.toArgs = o.toArgs.map .ofString := by
  rw [RawOptions.toArgs, Options.toArgs, Options.raw, List.flatMap_map, List.map_flatMap]
  refine List.flatMap_congr fun f _ => ?_
  obtain ⟨name, _ | v⟩ := f
  · rfl
  · show [_, _, v.raw.text] = _
    rw [OptionValue.text_raw]
    rfl

end Nix

namespace RawValue

mutual

/-- A value as a raw one. -/
def ofValue : Value → RawValue
  | .null => null
  | .bool b => bool b
  | .int i => int i
  | .float x => float x
  | .str s => str (.ofString s)
  | .list xs => list (ofValues xs)
  | .tuple xs => tuple (ofValues xs)
  | .map es => map (ofEntries es)
  | .path p => path (.ofPath p)

/-- Values as raw ones. -/
def ofValues : List Value → List RawValue
  | [] => []
  | x :: xs => ofValue x :: ofValues xs

/-- The entries of a map as raw ones. -/
def ofEntries : List (Value × Value) → List (RawValue × RawValue)
  | [] => []
  | (k, v) :: es => (ofValue k, ofValue v) :: ofEntries es

end

theorem truth_ofValue (v : Value) : (ofValue v).truth = Check.truth v := by
  cases v with
  | str s => rw [ofValue, truth, RawText.string?_ofString]
  | _ => rfl

theorem rawPath_ofValue (v : Value) : (ofValue v).rawPath = (Check.path v).map .ofPath := by
  cases v with
  | str s => exact congrArg Except.ok (RawPath.ofText_ofString s)
  | _ => rfl

theorem text_ofValue (v : Value) : (ofValue v).text = (Check.text v).map .ofString := by
  cases v <;> rfl

theorem items_ofValues (i : Nat) (xs : List Value) : Checked.items text i (ofValues xs) =
    (Checked.items Check.text i xs).map (List.map .ofString) := by
  induction xs generalizing i with
  | nil => rfl
  | cons x xs ih =>
    rw [ofValues, Checked.items, Checked.items, text_ofValue, ih]
    cases Check.text x <;> cases Checked.items Check.text (i + 1) xs <;> rfl

theorem texts_ofValue (v : Value) :
    (ofValue v).texts = (Check.texts .notTuple v).map (List.map .ofString) := by
  cases v with
  | list xs => exact items_ofValues 0 xs
  | tuple xs => exact items_ofValues 0 xs
  | _ => rfl

end RawValue

namespace Nix.RawOptions

open Options (Kind given kinds fieldNames reservedName)

variable {t : Table Value} {k : Kind} {name : String}

/-- Named values as raw ones. -/
def ofTable (t : Table Value) : List (RawText × RawValue) :=
  t.entries.map fun e => (.ofString e.1, .ofValue e.2)

/-- What a value is for an option of some kind. -/
def check (v : Value) : Kind → Checked (Option OptionValue)
  | .truth => (Check.orNull Check.truth v).map (Option.map .truth)
  | .path => (Check.orNull Check.path v).map (Option.map .path)
  | .entries => (Options.entrySet v).map (Option.map .entries)

theorem ofList_map (ts : List String) : EntrySetOf.ofList isRawEntry (ts.map .ofString) =
    ((EntrySetOf.ofList isEntry ts).map EntrySet.raw).mapError .ofString := by
  have hfind : (ts.map RawText.ofString).find? (!isRawEntry ·) =
      (ts.find? (!isEntry ·)).map .ofString := by
    rw [List.find?_map]
    simp only [Function.comp_def, isRawEntry_ofString]
  cases he : ts.find? (!isEntry ·) with
  | some e =>
    rw [he] at hfind
    rw [EntrySetOf.ofList_of_find?_eq_some he, EntrySetOf.ofList_of_find?_eq_some hfind]
    rfl
  | none =>
    rw [he] at hfind
    obtain ⟨s, hs, hentries⟩ := EntrySetOf.ofList_of_find?_eq_none he
    obtain ⟨r, hr, hraw⟩ := EntrySetOf.ofList_of_find?_eq_none hfind
    have hsame : r = EntrySet.raw s := EntrySetOf.ext <| by
      rw [hraw, distinct_map ofString_injective, ← hentries]
      rfl
    rw [hs, hr, hsame]
    rfl

theorem entrySet_map (ts : List String) : entrySet (ts.map .ofString) =
    .ok (((EntrySetOf.ofList isEntry ts).map EntrySet.raw).mapError fun e =>
      [⟨.badEntry e, []⟩]) := by
  rw [entrySet, ofList_map]
  cases EntrySetOf.ofList isEntry ts with
  | ok s => rfl
  | error e =>
    simp only [Except.map, Except.mapError, RawText.string?_ofString]
    rfl

theorem read_ofValue (k : Kind) (v : Value) :
    read k (.ofValue v) = .ok ((check v k).map (Option.map OptionValue.raw)) := by
  by_cases hv : v = .null
  · rw [hv]
    cases k <;> rfl
  have hne : RawValue.ofValue v ≠ .null := by
    cases v <;> first | exact absurd rfl hv | nofun
  cases k with
  | truth =>
    rw [read, RawValue.truth_ofValue, check, Check.orNull_of_ne_null hv]
    · cases Check.truth v <;> rfl
    · exact hne
  | path =>
    rw [read, RawValue.rawPath_ofValue, check, Check.orNull_of_ne_null hv]
    · cases Check.path v <;> rfl
    · exact hne
  | entries =>
    rw [read, RawValue.texts_ofValue, check, Options.entrySet_of_ne_null hv]
    · cases Check.texts .notTuple v with
      | error is => rfl
      | ok ts =>
        show (entrySet (ts.map .ofString)).map _ = _
        rw [entrySet_map]
        rw [Except.bind]
        cases EntrySetOf.ofList isEntry ts <;> rfl
    · exact hne

theorem issues_check (k : Kind) (v : Value) : (check v k).issues = k.issues v := by
  cases k <;> exact Checked.issues_map _ _

theorem given?_ofTable (name : String) (t : Table Value) :
    given? (ofTable t) name = (t.find? name).map .ofValue := by
  rw [given?, ofTable, Table.find?]
  induction t.entries with
  | nil => rfl
  | cons e es ih =>
    have hname : (RawText.ofString name == RawText.ofString e.1) = (name == e.1) := by
      simp only [beq_eq_decide, RawText.ofString_inj]
    rw [List.map_cons, List.lookup_cons, List.lookup_cons, hname, ih]
    cases name == e.1 <;> rfl

theorem readField_ofTable (t : Table Value) (f : String × Kind) : readField (ofTable t) f =
    .ok ((Check.optional f.1 (check · f.2) none (given t)).map (Option.map OptionValue.raw)) := by
  rw [readField, given?_ofTable, Check.optional, Options.findEntry_given]
  cases t.find? f.1 with
  | none => rfl
  | some v =>
    show (read f.2 (.ofValue v)).map _ = _
    rw [read_ofValue]
    show Except.ok (Checked.under _ (Except.map _ (check v f.2))) =
      Except.ok (Except.map _ ((check v f.2).under _))
    cases check v f.2 <;> rfl

theorem not_unencodable_ofTable (t : Table Value) (f : String × Kind) :
    ¬ Unencodable (ofTable t) f := by
  rw [Unencodable, readField_ofTable]
  intro h
  cases h

theorem refusal_ofTable {f : String × Kind} (hf : f ∈ kinds) :
    refusal (ofTable t) f = (t.find? f.1).elim [] (Options.refusal f.1) := by
  rw [refusal, readField_ofTable]
  show Checked.issues (Except.map _ _) = _
  rw [Checked.issues_map, Check.issues_optional, Options.findEntry_given]
  cases t.find? f.1 with
  | none => rfl
  | some v =>
    show (check v f.2).issues.map _ = Options.refusal f.1 v
    rw [issues_check, Options.refusal, Options.lookup_kinds f hf]

theorem fieldIssues_ofTable (t : Table Value) : fieldIssues (ofTable t) =
    fieldNames.flatMap fun name => (t.find? name).elim [] (Options.refusal name) := by
  rw [fieldIssues, ← Options.kinds_names, List.flatMap_map]
  exact List.flatMap_congr fun f hf => refusal_ofTable hf

theorem names_ofTable (t : Table Value) : (ofTable t).map Prod.fst = t.names.map .ofString := by
  rw [ofTable, Table.names, List.map_map, List.map_map]
  rfl

theorem strayNames_ofTable (t : Table Value) :
    strayNames (ofTable t) = (t.names.filter (· ∉ fieldNames)).map .ofString := by
  rw [strayNames, names_ofTable, List.filter_map]
  congr 2
  funext n
  simp only [Function.comp_def, List.mem_map_of_injective ofString_injective]

theorem issues_ofTable (t : Table Value) : fieldIssues (ofTable t) ++
    strayIssues (t.names.filter (· ∉ fieldNames)) = Options.refusals t := by
  rw [Options.refusals, fieldIssues_ofTable, strayIssues, Table.names, List.filter_map,
    List.map_map, List.map_eq_flatMap]
  congr 1
  refine List.flatMap_congr fun e he => ?_
  exact (Options.refusal_of_not_mem (by simpa using (List.mem_filter.mp he).2)).symm

theorem setting_ofTable {α : Type} {read : Value → Checked (Option α)} {wrap : α → OptionValue}
    {x : Option α} {k : Kind} (hk : ∀ v, check v k = (read v).map (Option.map wrap))
    (hx : Check.optional name read none (given t) = .ok x) :
    setting (ofTable t) (name, k) = (x.map wrap).map OptionValue.raw := by
  have hcheck : Check.optional name (check · k) none (given t) = .ok (x.map wrap) := by
    rw [Check.optional] at hx ⊢
    split at hx
    · next v _ =>
      rw [Checked.under_eq_ok_iff] at hx
      rw [Checked.under_eq_ok_iff, hk, hx]
      rfl
    · cases hx
      rfl
  rw [setting, readField_ofTable, hcheck]
  rfl

theorem settings_ofTable {o : Options} (ho : Options.ofEntries (given t) = .ok o) :
    settings (ofTable t) = o.raw := by
  obtain ⟨⟨haccept, hdirty, htrace, hnetrc, hfeatures, hsubstituters, hkeys⟩, -⟩ :=
    Options.ofEntries_eq_ok_iff.mp ho
  have htruth {name : String} {x : Option Bool}
      (hx : Check.optional name (Check.orNull Check.truth) none (given t) = .ok x) :=
    setting_ofTable (k := .truth) (fun _ => rfl) hx
  have hentries {name : String} {x : Option EntrySet}
      (hx : Check.optional name Options.entrySet none (given t) = .ok x) :=
    setting_ofTable (k := .entries) (fun _ => rfl) hx
  have hpath := setting_ofTable (k := .path) (fun _ => rfl) hnetrc
  simp only [settings, kinds, Options.raw, Options.fields, List.map_cons, List.map_nil,
    htruth haccept, htruth hdirty, htruth htrace, hpath, hentries hfeatures,
    hentries hsubstituters, hentries hkeys]

theorem mem_names_ofTable :
    .ofString name ∈ (ofTable t).map Prod.fst ↔ t.contains name := by
  rw [names_ofTable, List.mem_map_of_injective ofString_injective, Table.contains,
    Option.isSome_iff_exists, Table.names, List.mem_map]
  simp [Table.find?_eq_some_iff]

theorem build_ofTable (t : Table Value) :
    build (ofTable t) = (Options.build (given t)).map Options.raw := by
  have hu : ∀ f ∈ kinds, ¬ Unencodable (ofTable t) f := fun f _ => not_unencodable_ofTable t f
  have hissues := issues_ofTable t
  rcases Options.build_cases t with ⟨hr, hb⟩ | ⟨hr, hn, o, hb⟩ | ⟨hr, hn, hb⟩
  · rw [hb, build_of_reserved (mem_names_ofTable.mpr hr)]
    rfl
  · rw [hn, List.append_eq_nil_iff] at hissues
    rw [hb, build_of_names (mt mem_names_ofTable.mp hr) hu (strayNames_ofTable t),
      if_pos ⟨hissues.1, List.map_eq_nil_iff.mp hissues.2⟩,
      settings_ofTable (Options.ofEntries_of_build hb)]
    rfl
  · have hne : ¬ (fieldIssues (ofTable t) = [] ∧ t.names.filter (· ∉ fieldNames) = []) := by
      rintro ⟨hfields, hnames⟩
      rw [hfields, hnames] at hissues
      exact hn hissues.symm
    rw [hb, build_of_names (mt mem_names_ofTable.mp hr) hu (strayNames_ofTable t), if_neg hne,
      hissues]
    rfl

/-- Values whose texts are texts of characters give the same options as they are, with the same
flags, or the same issues. -/
theorem toArgs_build_ofTable (t : Table Value) : (build (ofTable t)).map toArgs =
    (Options.build (given t)).map fun o => o.toArgs.map .ofString := by
  rw [build_ofTable]
  cases Options.build (given t) with
  | error x => rfl
  | ok o => exact congrArg Except.ok o.toArgs_raw

end Nix.RawOptions

end NixContext
