import Mathlib.Data.List.TakeWhile
import NixContext.Context.Loading
import NixContext.Proofs.Context.Writes
import NixContext.Proofs.Reference.Expansion

/-! # Settings given by entries

The entries of a settings file are expanded in order, so that the first variable that is not
set is reported before anything is validated. Entries fit if all their keys are settings and
every value that is not null passes validation. An overlay of them has a value for exactly the
settings to which they give one (`Overlay.isSome_value?`).
-/

namespace NixContext

namespace Value

theorem findEntry_map_snd (g : Value → Value) (k : Value) (es : List (Value × Value)) :
    findEntry k (es.map fun e => (e.1, g e.2)) = (findEntry k es).map g := by
  induction es with
  | nil => rfl
  | cons e es ih =>
    rw [List.map_cons, findEntry, findEntry]
    split
    · rfl
    · exact ih

theorem mapTexts_eq_null_iff {f : String → String} {v : Value} :
    v.mapTexts f = .null ↔ v = .null := by
  cases v <;> simp [mapTexts]

end Value

section Expansion

/-- The first variable without a value that the texts of entries refer to, in order. -/
def firstUnset? (s : Surroundings) (es : List (Value × Value)) : Option UnsetVariable :=
  (es.flatMap fun e => e.2.texts.flatMap fun t =>
    Piece.references (Value.cutText t)).findSome? (Reference.unset? s)

/-- The entries with all references in their texts replaced. -/
def expandedEntries (s : Surroundings) (es : List (Value × Value)) : List (Value × Value) :=
  es.map fun e =>
    (e.1, e.2.mapTexts fun t => String.ofList ((Value.cutText t).flatMap (Piece.value s)))

theorem expandEntries_eq (s : Surroundings) (es : List (Value × Value)) :
    expandEntries s es = unless? (firstUnset? s es) (expandedEntries s es) := by
  induction es with
  | nil => rfl
  | cons e es ih =>
    obtain ⟨k, v⟩ := e
    rw [expandEntries, Value.expandReferences_eq, Value.expansion, ih,
      unless?_bind (fun w fs => (k, w) :: fs)]
    rw [firstUnset?.eq_def s ((k, v) :: es), List.flatMap_cons, List.findSome?_append]
    rfl

end Expansion

namespace Setting

/-- What validation makes of a value for a setting. -/
def validated? (f : Setting) (v : Value) : Option Value :=
  match f with
  | configDir | cacheDir | dataDir => (Check.path v).toOption.map .path
  | collectMetrics => (Check.truth v).toOption.map .bool
  | extraArgs => (Check.texts .notList v).toOption.map fun xs => .list (xs.map .str)

/-- The value of a setting among entries, unless it is null. -/
def valueIn? (es : List (Value × Value)) (f : Setting) : Option Value :=
  (Value.findEntry (.str f.name) es).filter (· ≠ .null)

/-- The settings that entries give, each with its validated value. -/
def given (es : List (Value × Value)) : List (Setting × Value) :=
  all.filterMap fun f => ((f.valueIn? es).bind f.validated?).map (f, ·)

variable {es : List (Value × Value)} {f : Setting} {v w : Value}

theorem mem_all (f : Setting) : f ∈ all := by
  cases f <;> decide

theorem valueIn?_eq_some_iff :
    f.valueIn? es = some v ↔ Value.findEntry (.str f.name) es = some v ∧ v ≠ .null := by
  simp [valueIn?, Option.filter_eq_some_iff]

theorem valueIn?_eq_none_iff : f.valueIn? es = none ↔
    Value.findEntry (.str f.name) es = none ∨ Value.findEntry (.str f.name) es = some .null := by
  rw [valueIn?, Option.filter_eq_none_iff]
  cases Value.findEntry (.str f.name) es <;> simp

theorem valueIn?_expandedEntries (s : Surroundings) (es : List (Value × Value)) (f : Setting) :
    (f.valueIn? (expandedEntries s es)).isSome = (f.valueIn? es).isSome := by
  rw [valueIn?, valueIn?, expandedEntries, Value.findEntry_map_snd]
  cases Value.findEntry (.str f.name) es with
  | none => rfl
  | some v =>
    simp only [Option.map_some, Option.filter_some, ne_eq, Value.mapTexts_eq_null_iff]
    split <;> rfl

theorem mem_given : (f, w) ∈ given es ↔ ∃ v, f.valueIn? es = some v ∧ f.validated? v = some w := by
  rw [given, List.mem_filterMap]
  constructor
  · rintro ⟨g, -, hg⟩
    obtain ⟨x, hx, he⟩ := Option.map_eq_some_iff.mp hg
    cases he
    exact Option.bind_eq_some_iff.mp hx
  · rintro ⟨v, hv, hw⟩
    exact ⟨f, mem_all f, by rw [hv, Option.bind_some, hw]; rfl⟩

theorem nodup_given (es : List (Value × Value)) : ((given es).map Prod.fst).Nodup := by
  have hs : ∀ (o : Setting → Option Value) (fs : List Setting),
      ((fs.filterMap fun f => (o f).map (f, ·)).map Prod.fst).Sublist fs := by
    intro o fs
    induction fs with
    | nil => exact .slnil
    | cons f fs ih =>
      rw [List.filterMap_cons]
      cases o f with
      | none => exact ih.cons f
      | some w => exact ih.cons_cons f
  exact (hs _ all).nodup (by decide)

end Setting

namespace Overlay

open Setting

/-- Entries that pass validation: settings only, each null or with a value that passes. -/
def Fits (es : List (Value × Value)) : Prop :=
  (∀ e ∈ es, ∃ f : Setting, e.1 = .str f.name) ∧
    ∀ (f : Setting) v, f.valueIn? es = some v → (f.validated? v).isSome

variable {es : List (Value × Value)} {o : Overlay} {f : Setting} {w : Value}

theorem ofEntries_eq_ok_iff : ofEntries es = .ok o ↔
    (Check.optional "config_dir" (Check.orNull Check.path) none es = .ok o.configDir ∧
      Check.optional "cache_dir" (Check.orNull Check.path) none es = .ok o.cacheDir ∧
      Check.optional "data_dir" (Check.orNull Check.path) none es = .ok o.dataDir ∧
      Check.optional "collect_metrics" (Check.orNull Check.truth) none es =
        .ok o.collectMetrics ∧
      Check.optional "extra_nix_args" (Check.orNull (Check.texts .notList)) none es =
        .ok o.extraArgs) ∧
      Check.strayIssues (Setting.all.map Setting.name) es = [] := by
  simp only [ofEntries, Checked.guarded_eq_ok_iff, Checked.also_eq_ok_iff, Except.ok.injEq]
  constructor
  · rintro ⟨⟨_, args, ⟨_, metrics, ⟨_, data, ⟨_, cache, ⟨_, config, rfl, hconfig, rfl⟩,
      hcache, rfl⟩, hdata, rfl⟩, hmetrics, rfl⟩, hargs, rfl⟩, hs⟩
    exact ⟨⟨hconfig, hcache, hdata, hmetrics, hargs⟩, hs⟩
  · rintro ⟨⟨hconfig, hcache, hdata, hmetrics, hargs⟩, hs⟩
    exact ⟨⟨_, _, ⟨_, _, ⟨_, _, ⟨_, _, ⟨_, _, rfl, hconfig, rfl⟩, hcache, rfl⟩, hdata, rfl⟩,
      hmetrics, rfl⟩, hargs, rfl⟩, hs⟩

/-- What a setter is given for a field that the overlay holds. -/
def argument? (o : Overlay) : Setting → Option Value
  | .configDir => o.configDir.map .path
  | .cacheDir => o.cacheDir.map .path
  | .dataDir => o.dataDir.map .path
  | .collectMetrics => o.collectMetrics.map .bool
  | .extraArgs => o.extraArgs.map fun xs => .list (xs.map .str)

/-- A setter keeps what the overlay writes. -/
theorem value?_eq_bind (o : Overlay) (f : Setting) :
    o.value? f = (o.argument? f).bind f.kept? := by
  obtain ⟨config, cache, data, metrics, args⟩ := o
  cases f
  case configDir => cases config <;> rfl
  case cacheDir => cases cache <;> rfl
  case dataDir => cases data <;> rfl
  case collectMetrics => cases metrics <;> rfl
  case extraArgs => cases args <;> rfl

/-- No setter rejects what an overlay holds: paths, truths and lists of texts. -/
theorem exists_kept?_of_argument? {v : Value} (h : o.argument? f = some v) :
    ∃ w, f.kept? v = some w := by
  cases f <;> obtain ⟨x, -, rfl⟩ := Option.map_eq_some_iff.mp h <;> exact ⟨_, rfl⟩

/-- The attributes of an overlay are what it holds, null where it holds nothing. -/
theorem given?_fields (o : Overlay) (f : Setting) : o.fields.given? f = o.argument? f := by
  obtain ⟨config, cache, data, metrics, args⟩ := o
  cases f
  case configDir => cases config <;> rfl
  case cacheDir => cases cache <;> rfl
  case dataDir => cases data <;> rfl
  case collectMetrics => cases metrics <;> rfl
  case extraArgs => cases args <;> rfl

theorem takes_fields (o : Overlay) (f : Setting) : o.fields.takes f := by
  rw [Fields.takes, given?_fields]
  cases ha : o.argument? f with
  | none => rfl
  | some v =>
    obtain ⟨w, hw⟩ := exists_kept?_of_argument? ha
    rw [Option.all_some, hw]
    rfl

/-- No setter rejects what an overlay holds, so all of it is kept. -/
theorem kept?_fields (o : Overlay) : o.fields.kept? Setting.all = o.value? := by
  funext f
  have hall : Setting.all.takeWhile o.fields.takes = Setting.all :=
    List.takeWhile_eq_self_iff.mpr fun g _ => o.takes_fields g
  rw [Fields.kept?, hall, if_pos (mem_all f), given?_fields, ← value?_eq_bind]

theorem exists_apply (o : Overlay) {d : Draft} (hh : d.hidden = []) :
    ∃ d', (Draft.apply o.fields).run d = (⟨[], .ok ()⟩, d') ∧ d.Writes o.value? d' := by
  obtain ⟨d', h, hw⟩ := Draft.give_spec o.fields Setting.all hh
  rw [if_pos (List.all_eq_true.mpr fun f _ => o.takes_fields f)] at h
  rw [kept?_fields] at hw
  exact ⟨d', h, hw⟩

/-- The draft that an overlay makes of a fresh one. -/
def draft (o : Overlay) (e : Engine) : Draft :=
  ((Draft.apply o.fields).run (.fresh e)).2

theorem run_apply_fresh (o : Overlay) (e : Engine) :
    (Draft.apply o.fields).run (.fresh e) = (⟨[], .ok ()⟩, o.draft e) := by
  obtain ⟨d', h, -⟩ := o.exists_apply (d := .fresh e) rfl
  rw [draft, h]

theorem writes_draft (o : Overlay) (e : Engine) : (Draft.fresh e).Writes o.value? (o.draft e) := by
  obtain ⟨d', h, hw⟩ := o.exists_apply (d := .fresh e) rfl
  rw [draft, h]
  exact hw

theorem value?_draft (o : Overlay) (e : Engine) (f : Setting) :
    (o.draft e).value? f = (o.value? f).or f.initial? := by
  rw [(o.writes_draft e).value, Draft.value?_fresh]

theorem declares_of_value? (h : o.value? f = some w) : f.Declares w := by
  rw [value?_eq_bind] at h
  obtain ⟨v, -, hw⟩ := Option.bind_eq_some_iff.mp h
  exact declares_of_kept? hw

theorem isDeclared_draft (o : Overlay) (e : Engine) : (o.draft e).IsDeclared e :=
  (Draft.isDeclared_fresh e).writes (fun _ _ => declares_of_value?) (o.writes_draft e)

/-- An overlay holds what its entries give. -/
theorem argument?_eq_some_iff (h : ofEntries es = .ok o) :
    o.argument? f = some w ↔ (f, w) ∈ given es := by
  obtain ⟨⟨hconfig, hcache, hdata, hmetrics, hargs⟩, -⟩ := ofEntries_eq_ok_iff.mp h
  simp only [mem_given, valueIn?_eq_some_iff, and_assoc]
  cases f
  case configDir => exact Check.map_eq_some_iff_of_optional_orNull hconfig
  case cacheDir => exact Check.map_eq_some_iff_of_optional_orNull hcache
  case dataDir => exact Check.map_eq_some_iff_of_optional_orNull hdata
  case collectMetrics => exact Check.map_eq_some_iff_of_optional_orNull hmetrics
  case extraArgs => exact Check.map_eq_some_iff_of_optional_orNull hargs

theorem strayIssues_eq_nil_iff : Check.strayIssues (Setting.all.map Setting.name) es = [] ↔
    ∀ e ∈ es, ∃ f : Setting, e.1 = .str f.name := by
  rw [Check.strayIssues_eq_nil_iff]
  refine forall₂_congr fun e _ => ?_
  constructor
  · rintro ⟨s, hs, he⟩
    obtain ⟨f, -, rfl⟩ := List.mem_map.mp hs
    exact ⟨f, he⟩
  · rintro ⟨f, he⟩
    exact ⟨f.name, List.mem_map.mpr ⟨f, mem_all f, rfl⟩, he⟩

/-- The check of a field accepts exactly if validation accepts the entry of the setting. -/
theorem exists_optional_iff {α : Type} {check : Value → Checked α} {g : α → Value}
    (hv : ∀ v, f.validated? v = (check v).toOption.map g) :
    (∃ x, Check.optional f.name (Check.orNull check) none es = .ok x) ↔
      ∀ v, f.valueIn? es = some v → (f.validated? v).isSome := by
  have hok : ∀ v, (∃ a, check v = .ok a) ↔ (f.validated? v).isSome := by
    intro v
    rw [hv]
    cases check v <;> simp [Except.toOption]
  simp only [Check.exists_optional_orNull_iff, valueIn?_eq_some_iff, and_imp, hok]

theorem isSome_value? (h : ofEntries es = .ok o) (f : Setting) :
    (o.value? f).isSome = (f.valueIn? es).isSome := by
  have hn : o.value? f = none ↔ f.valueIn? es = none :=
    (value?_eq_none_iff h f).trans valueIn?_eq_none_iff.symm
  rw [Bool.eq_iff_iff, ← Option.ne_none_iff_isSome, ← Option.ne_none_iff_isSome, Ne, Ne, hn]

/-- Entries that fit give a value for every setting whose entry is not null. -/
theorem Fits.exists_mem_given (h : Fits es) (f : Setting) :
    (∃ w, (f, w) ∈ given es) ↔ (f.valueIn? es).isSome := by
  simp only [mem_given]
  constructor
  · rintro ⟨w, v, hv, -⟩
    rw [hv]
    rfl
  · intro hs
    obtain ⟨v, hv⟩ := Option.isSome_iff_exists.mp hs
    obtain ⟨w, hw⟩ := Option.isSome_iff_exists.mp (h.2 f v hv)
    exact ⟨w, v, hv, hw⟩

/-- Entries make an overlay exactly if they fit. -/
theorem exists_ofEntries_iff : (∃ o, ofEntries es = .ok o) ↔ Fits es := by
  constructor
  · rintro ⟨o, ho⟩
    obtain ⟨⟨hconfig, hcache, hdata, hmetrics, hargs⟩, hs⟩ := ofEntries_eq_ok_iff.mp ho
    refine ⟨strayIssues_eq_nil_iff.mp hs, fun f => ?_⟩
    cases f
    case configDir => exact (exists_optional_iff fun _ => rfl).mp ⟨_, hconfig⟩
    case cacheDir => exact (exists_optional_iff fun _ => rfl).mp ⟨_, hcache⟩
    case dataDir => exact (exists_optional_iff fun _ => rfl).mp ⟨_, hdata⟩
    case collectMetrics => exact (exists_optional_iff fun _ => rfl).mp ⟨_, hmetrics⟩
    case extraArgs => exact (exists_optional_iff fun _ => rfl).mp ⟨_, hargs⟩
  · rintro ⟨hs, hf⟩
    obtain ⟨config, hconfig⟩ := (exists_optional_iff fun _ => rfl).mpr (hf .configDir)
    obtain ⟨cache, hcache⟩ := (exists_optional_iff fun _ => rfl).mpr (hf .cacheDir)
    obtain ⟨data, hdata⟩ := (exists_optional_iff fun _ => rfl).mpr (hf .dataDir)
    obtain ⟨metrics, hmetrics⟩ := (exists_optional_iff fun _ => rfl).mpr (hf .collectMetrics)
    obtain ⟨args, hargs⟩ := (exists_optional_iff fun _ => rfl).mpr (hf .extraArgs)
    exact ⟨⟨config, cache, data, metrics, args⟩, ofEntries_eq_ok_iff.mpr
      ⟨⟨hconfig, hcache, hdata, hmetrics, hargs⟩, strayIssues_eq_nil_iff.mpr hs⟩⟩

end Overlay

namespace Draft

/-- The entries of a settings file are expanded, then validated, then applied. -/
theorem ofSettings_eq (e : Engine) (s : Surroundings) (es : List (Value × Value)) :
    ofSettings e s es =
      match firstUnset? s es with
      | some u => .error (.unsetVariable u)
      | none =>
        match Overlay.ofEntries (expandedEntries s es) with
        | .error is => .error (.rejected .overlay is)
        | .ok o => .ok (o.draft e) := by
  rw [ofSettings, expandEntries_eq]
  cases firstUnset? s es with
  | some u => rfl
  | none =>
    show (do let o ← (Overlay.ofEntries (expandedEntries s es)).mapError _; _) = _
    cases Overlay.ofEntries (expandedEntries s es) with
    | error is => rfl
    | ok o =>
      show ((Draft.apply o.fields).run (.fresh e)).1.result.map _ = _
      rw [o.run_apply_fresh]
      rfl

/-- What a settings file makes is a fresh draft with an overlay. -/
theorem exists_overlay_of_ofFile {e : Engine} {s : Surroundings} {context : Table Value}
    {file : Settings.File} {d : Draft} (h : (ofFile e s context file).result = .ok d) :
    ∃ o : Overlay, d = o.draft e := by
  obtain ⟨_, -, h⟩ := Activity.result_bind_eq_ok_iff.mp h
  obtain ⟨v, -, h⟩ := Activity.result_bind_eq_ok_iff.mp h
  replace h : ofSettings e s v.entries = .ok d := h
  rw [ofSettings_eq] at h
  split at h
  · cases h
  · split at h
    · cases h
    · next o _ =>
      cases h
      exact ⟨o, rfl⟩

theorem ofFile_of_load {s : Surroundings} {context : Table Value} {file : Settings.File}
    {es : List (Value × Value)}
    (h : Settings.load file s.environment context = .ok (.map es)) (e : Engine) :
    ofFile e s context file = ⟨[.loading file.path], ofSettings e s es⟩ := by
  rw [ofFile, h]
  rfl

end Draft

end NixContext
