import Mathlib.Data.List.Find
import NixContext.Context.Draft
import NixContext.Context.Overlay
import NixContext.Proofs.Validation.Check

/-! # Fields of a draft

A draft is read field by field. A setter writes one field or nothing (`call_spec`), values are
given by one setter after the other (`give_spec`), and a context is built from what the fields have
(`build_spec`).
-/

namespace NixContext

namespace Setting

/-- The settings without which no context is made, in the order in which they are checked. -/
def directories : List Setting :=
  [configDir, cacheDir, dataDir]

/-- The values that are declared for a setting. -/
def Declares : Setting → Value → Prop
  | configDir, v | cacheDir, v | dataDir, v => ∃ p, v = .path p
  | collectMetrics, _ => True
  | extraArgs, v => ∃ xs, v = .tuple xs

/-- What a setting has in a fresh draft. -/
def initial? : Setting → Option Value
  | configDir | cacheDir | dataDir => none
  | collectMetrics => some (.bool false)
  | extraArgs => some (.tuple [])

theorem initial?_of_mem_directories {f : Setting} (h : f ∈ directories) : f.initial? = none := by
  cases f <;> first | rfl | simp [directories] at h

theorem declares_of_kept? {f : Setting} {v w : Value} (h : f.kept? v = some w) : f.Declares w := by
  cases f
  case collectMetrics => trivial
  case configDir | cacheDir | dataDir | extraArgs =>
    obtain ⟨x, -, rfl⟩ := Option.map_eq_some_iff.mp h
    exact ⟨x, rfl⟩

theorem declares_of_initial? {f : Setting} {w : Value} (h : f.initial? = some w) :
    f.Declares w := by
  cases f <;> cases h
  case collectMetrics => trivial
  case extraArgs => exact ⟨[], rfl⟩

theorem not_declares_null {f : Setting} (h : f ∈ directories) : ¬ f.Declares .null := by
  cases f
  case configDir | cacheDir | dataDir => rintro ⟨p, hp⟩; cases hp
  case collectMetrics | extraArgs => simp [directories] at h

theorem ofName?_eq_some_iff {s : String} {f : Setting} : ofName? s = some f ↔ s = f.name := by
  constructor
  · intro h
    have hs := List.find?_some h
    exact (eq_of_beq hs).symm
  · rintro rfl
    cases f <;> decide +kernel

theorem name_inj {f g : Setting} : f.name = g.name ↔ f = g := by
  constructor
  · intro h
    have hf := ofName?_eq_some_iff.mpr (rfl : f.name = f.name)
    rw [ofName?_eq_some_iff.mpr h] at hf
    exact (Option.some.inj hf).symm
  · rintro rfl
    rfl

end Setting

/-- The value that a context has for a setting. -/
def Context.value (c : Context) : Setting → Value
  | .configDir => .path c.configDir
  | .cacheDir => .path c.cacheDir
  | .dataDir => .path c.dataDir
  | .collectMetrics => c.collectMetrics
  | .extraArgs => .tuple c.extraArgs

/-- The value that a settings object or an overlay gives to a setter. -/
def Fields.given? (x : Fields) (f : Setting) : Option Value :=
  if x.get f = .null then none else some (x.get f)

/-- Whether a setter takes the value that there is for its setting, if there is any. -/
def Fields.takes (x : Fields) (f : Setting) : Bool :=
  (x.given? f).all fun v => (f.kept? v).isSome

/-- What setters keep that are called with the values one after the other, until one of them
rejects its value. -/
def Fields.kept? (x : Fields) (fs : List Setting) (f : Setting) : Option Value :=
  if f ∈ fs.takeWhile x.takes then (x.given? f).bind f.kept? else none

theorem Fields.kept?_cons_of_takes {x : Fields} {f : Setting} (h : x.takes f) (fs : List Setting)
    (g : Setting) :
    x.kept? (f :: fs) g =
      (x.kept? fs g).or (if g = f then (x.given? f).bind f.kept? else none) := by
  rw [kept?, kept?, List.takeWhile_cons, if_pos h]
  by_cases hg : g = f
  · subst hg
    rw [if_pos (List.mem_cons_self), if_pos rfl]
    split
    · rw [Option.or_self]
    · rw [Option.none_or]
  · rw [if_neg hg, Option.or_none]
    simp only [List.mem_cons, hg, false_or]

theorem Fields.declares_of_kept? {x : Fields} {fs : List Setting} {f : Setting} {w : Value}
    (h : x.kept? fs f = some w) : f.Declares w := by
  rw [kept?] at h
  split at h
  · obtain ⟨v, -, hw⟩ := Option.bind_eq_some_iff.mp h
    exact Setting.declares_of_kept? hw
  · cases h

namespace InPlace

variable {σ α β γ : Type} {g : σ → γ}

/-- An operation that leaves something about the state as it was. -/
def Keeps (g : σ → γ) (x : InPlace σ α) : Prop :=
  ∀ s, g (x.run s).2 = g s

theorem keeps_pure (g : σ → γ) (a : α) : (pure a : InPlace σ α).Keeps g := fun _ => rfl

theorem keeps_ask (g : σ → γ) (h : σ → Except Failure α) : (ask h).Keeps g := fun _ => rfl

theorem keeps_write {w : σ → σ} (h : ∀ s, g (w s) = g s) : (write w).Keeps g := h

theorem Keeps.bind {x : InPlace σ α} {k : α → InPlace σ β} (hx : x.Keeps g)
    (hk : ∀ a, (k a).Keeps g) : (x >>= k).Keeps g := by
  intro s
  have hs := hx s
  rw [run_bind]
  rcases hr : x.run s with ⟨⟨es, f | a⟩, t⟩
  · rw [hr] at hs
    exact hs
  · rw [hr] at hs
    exact (hk a t).trans hs

end InPlace

namespace Draft

variable {d d' d'' : Draft} {v : Value} {f : Setting} {e : Engine}

section Hidden

open InPlace

theorem keeps_hidden_call (name : String) (v : Value) : (call name v).Keeps hidden :=
  (keeps_ask _ _).bind fun _ => (keeps_ask _ _).bind fun _ => keeps_write fun _ => rfl

/-- Setters hide no methods. -/
theorem keeps_hidden_give (x : Fields) (fs : List Setting) : (give x fs).Keeps hidden := by
  induction fs with
  | nil => exact keeps_pure _ ()
  | cons f fs ih =>
    rw [give]
    split
    · exact (keeps_hidden_call _ _).bind fun _ => ih
    · exact (keeps_pure _ ()).bind fun _ => ih

end Hidden

/-- The value that a draft has for a setting. -/
def value? (d : Draft) (f : Setting) : Option Value :=
  if f ∈ Setting.directories ∧ d.fields.get f = .null then none else some (d.fields.get f)

theorem value?_fresh (e : Engine) (f : Setting) : (fresh e).value? f = f.initial? := by
  cases f <;> rfl

/-- A draft with the values written that there are, and otherwise as it was. -/
structure Writes (d : Draft) (w : Setting → Option Value) (d' : Draft) : Prop where
  backend : d'.backend = d.backend
  hidden : d'.hidden = d.hidden
  value : ∀ f, d'.value? f = (w f).or (d.value? f)

theorem Writes.refl (d : Draft) : d.Writes (fun _ => none) d :=
  ⟨rfl, rfl, fun _ => rfl⟩

theorem Writes.trans {w w' : Setting → Option Value} (h : d.Writes w d') (h' : d'.Writes w' d'') :
    d.Writes (fun f => (w' f).or (w f)) d'' :=
  ⟨h'.backend.trans h.backend, h'.hidden.trans h.hidden, fun f => by
    rw [h'.value, h.value, Option.or_assoc]⟩

theorem Writes.congr {w w' : Setting → Option Value} (h : d.Writes w d') (hw : ∀ f, w f = w' f) :
    d.Writes w' d' := by
  rwa [← funext hw]

/-- A draft with the same backend, the same hidden methods and the same values is the same. -/
theorem ext_value? (hb : d.backend = d'.backend) (hh : d.hidden = d'.hidden)
    (hv : ∀ f, d.value? f = d'.value? f) : d = d' := by
  obtain ⟨x, backend, hidden⟩ := d
  obtain ⟨y, backend', hidden'⟩ := d'
  obtain rfl : backend = backend' := hb
  obtain rfl : hidden = hidden' := hh
  obtain rfl : x = y := Fields.ext_get fun f => by
    have h := hv f
    simp only [value?] at h
    split at h <;> split at h
    · next hx hy => rw [hx.2, hy.2]
    · cases h
    · cases h
    · exact Option.some.inj h
  rfl

theorem writes_set {w : Value} (hw : f.Declares w) (d : Draft) :
    d.Writes (fun g => if g = f then some w else none)
      { d with fields := d.fields.set w f } := by
  refine ⟨rfl, rfl, fun g => ?_⟩
  rw [value?, value?, Fields.get_set]
  split
  · next hg =>
    subst hg
    have hn : ¬ (g ∈ Setting.directories ∧ w = .null) := by
      rintro ⟨hg, rfl⟩
      exact Setting.not_declares_null hg hw
    rw [if_neg hn, Option.some_or]
  · rw [Option.none_or]

/-- A setter that is found converts the value, then it writes its field. -/
theorem run_call_of_setter {name : String} (hf : d.setter name = .ok f) (v : Value) :
    (f.kept? v = none ∧ (call name v).run d = (⟨[], .error .typeMismatch⟩, d)) ∨
      ∃ w, f.kept? v = some w ∧
        (call name v).run d = (⟨[], .ok ()⟩, { d with fields := d.fields.set w f }) := by
  cases hk : f.kept? v with
  | none =>
    refine .inl ⟨rfl, Eq.trans (InPlace.run_ask_bind_of_ok hf) ?_⟩
    exact InPlace.run_ask_bind_of_error (by rw [hk]; rfl)
  | some w =>
    refine .inr ⟨w, rfl, Eq.trans (InPlace.run_ask_bind_of_ok hf) ?_⟩
    exact InPlace.run_ask_bind_of_ok (by rw [hk]; rfl)

/-- A setter that is not hidden writes what it keeps of the value. -/
theorem call_spec (hh : d.hidden = []) (f : Setting) (v : Value) :
    (f.kept? v = none ∧ (call f.name v).run d = (⟨[], .error .typeMismatch⟩, d)) ∨
    ∃ w d', f.kept? v = some w ∧ (call f.name v).run d = (⟨[], .ok ()⟩, d') ∧
      d.Writes (fun g => if g = f then some w else none) d' := by
  have hf : d.setter f.name = .ok f := by
    rw [setter, method, hh, if_neg List.not_mem_nil, Setting.ofName?_eq_some_iff.mpr rfl]
    rfl
  rcases run_call_of_setter hf v with h | ⟨w, hk, hc⟩
  · exact .inl h
  · exact .inr ⟨w, _, hk, hc, writes_set (Setting.declares_of_kept? hk) d⟩

/-- Setters that are called one after the other write what they keep of the values, until one
of them rejects its value. -/
theorem give_spec (x : Fields) (fs : List Setting) (hh : d.hidden = []) :
    ∃ d', (give x fs).run d =
        (⟨[], if fs.all x.takes then .ok () else .error .typeMismatch⟩, d') ∧
      d.Writes (x.kept? fs) d' := by
  induction fs generalizing d with
  | nil => exact ⟨d, rfl, (Writes.refl d).congr fun f => by rw [Fields.kept?]; rfl⟩
  | cons f fs ih =>
    rw [give]
    by_cases hn : x.get f = .null
    · have hg : x.given? f = none := if_pos hn
      have ht : x.takes f := by rw [Fields.takes, hg]; rfl
      obtain ⟨d', h, hw⟩ := ih hh
      refine ⟨d', ?_, hw.congr fun g => ?_⟩
      · rw [if_neg (not_not_intro hn), List.all_cons, ht, Bool.true_and]
        exact h
      · rw [Fields.kept?_cons_of_takes ht, hg, Option.bind_none, ite_self, Option.or_none]
    · have hg : x.given? f = some (x.get f) := if_neg hn
      rw [if_pos hn]
      obtain ⟨hk, hc⟩ | ⟨w, d₁, hk, hc, hw⟩ := call_spec hh f (x.get f)
      · have ht : x.takes f = false := by rw [Fields.takes, hg, Option.all_some, hk]; rfl
        refine ⟨d, ?_, (Writes.refl d).congr fun g => ?_⟩
        · rw [List.all_cons, ht, Bool.false_and, if_neg Bool.false_ne_true]
          exact InPlace.run_bind_of_error hc
        · rw [Fields.kept?, List.takeWhile_cons, ht]
          rfl
      · have ht : x.takes f := by rw [Fields.takes, hg, Option.all_some, hk]; rfl
        obtain ⟨d', h, hw'⟩ := ih (hw.hidden.trans hh)
        refine ⟨d', ?_, (hw.trans hw').congr fun g => ?_⟩
        · rw [List.all_cons, ht, Bool.true_and]
          exact (InPlace.run_bind_of_ok hc).trans h
        · rw [Fields.kept?_cons_of_takes ht, hg, Option.bind_some, hk]

/-- A draft of an engine that has values as declared wherever it has any. -/
structure IsDeclared (d : Draft) (e : Engine) : Prop where
  backend : d.backend = .own e
  hidden : d.hidden = []
  declares : ∀ f w, d.value? f = some w → f.Declares w

theorem isDeclared_fresh (e : Engine) : (fresh e).IsDeclared e :=
  ⟨rfl, rfl, fun f _ h => Setting.declares_of_initial? (value?_fresh e f ▸ h)⟩

theorem IsDeclared.writes (h : d.IsDeclared e) {w : Setting → Option Value}
    (hw : ∀ f x, w f = some x → f.Declares x) (hd : d.Writes w d') : d'.IsDeclared e := by
  refine ⟨hd.backend.trans h.backend, hd.hidden.trans h.hidden, fun f x hx => ?_⟩
  rw [hd.value, Option.or_eq_some_iff] at hx
  rcases hx with hx | ⟨-, hx⟩
  · exact hw f x hx
  · exact h.declares f x hx

/-- Building fails with the first directory that has no value, and only then; otherwise the
context has the backend and the values of the draft. -/
theorem build_spec (d : Draft) :
    (∃ f, Setting.directories.find? (fun g => (d.value? g).isNone) = some f ∧
      d.build = .error f) ∨
    (Setting.directories.find? (fun g => (d.value? g).isNone) = none ∧
      d.build = .ok ⟨d.fields, d.backend⟩ ∧ ∀ f, d.value? f = some (d.fields.get f)) := by
  have hnone : ∀ f ∈ Setting.directories,
      (d.value? f).isNone = decide (d.fields.get f = .null) := by
    intro f hf
    rw [value?]
    by_cases h : d.fields.get f = .null <;> simp [h, hf]
  rw [List.find?_congr hnone, build]
  by_cases hc : d.fields.configDir = .null
  · exact .inl ⟨.configDir, by simp [Setting.directories, Fields.get, hc], if_pos hc⟩
  by_cases hk : d.fields.cacheDir = .null
  · exact .inl ⟨.cacheDir, by simp [Setting.directories, Fields.get, hc, hk], by simp [hc, hk]⟩
  by_cases hd : d.fields.dataDir = .null
  · exact .inl ⟨.dataDir, by simp [Setting.directories, Fields.get, hc, hk, hd],
      by simp [hc, hk, hd]⟩
  refine .inr ⟨by simp [Setting.directories, Fields.get, hc, hk, hd], by simp [hc, hk, hd],
    fun f => ?_⟩
  cases f <;> simp [value?, Setting.directories, Fields.get, hc, hk, hd]

end Draft

/-- Values as declared make a context. -/
theorem RawContext.exists_context {x : Fields} (h : ∀ f : Setting, f.Declares (x.get f))
    (e : Engine) :
    ∃ c : Context, (⟨x, .own e⟩ : RawContext) = c.raw ∧ c.engine = e ∧
      ∀ f, c.value f = x.get f := by
  obtain ⟨config, cache, data, metrics, args⟩ := x
  obtain ⟨p, rfl⟩ : ∃ p, config = .path p := h .configDir
  obtain ⟨q, rfl⟩ : ∃ q, cache = .path q := h .cacheDir
  obtain ⟨r, rfl⟩ : ∃ r, data = .path r := h .dataDir
  obtain ⟨xs, rfl⟩ : ∃ xs, args = .tuple xs := h .extraArgs
  exact ⟨⟨p, q, r, metrics, xs, e⟩, rfl, rfl, fun f => by cases f <;> rfl⟩

namespace Overlay

/-- The value that an overlay holds for a setting. -/
def value? (o : Overlay) : Setting → Option Value
  | .configDir => o.configDir.map .path
  | .cacheDir => o.cacheDir.map .path
  | .dataDir => o.dataDir.map .path
  | .collectMetrics => o.collectMetrics.map .bool
  | .extraArgs => o.extraArgs.map fun xs => .tuple (xs.map .str)

end Overlay

/-- An overlay holds nothing for a setting exactly if its entry is missing or null. -/
theorem Overlay.value?_eq_none_iff {es : List (Value × Value)} {o : Overlay}
    (h : Overlay.ofEntries es = .ok o) (f : Setting) :
    o.value? f = none ↔ Value.findEntry (.str f.name) es = none ∨
      Value.findEntry (.str f.name) es = some .null := by
  simp only [ofEntries, Checked.guarded_eq_ok_iff, Checked.also_eq_ok_iff,
    Except.ok.injEq] at h
  obtain ⟨⟨_, args, ⟨_, metrics, ⟨_, data, ⟨_, cache, ⟨_, config, rfl, hconfig, rfl⟩,
    hcache, rfl⟩, hdata, rfl⟩, hmetrics, rfl⟩, hargs, rfl⟩, -⟩ := h
  cases f <;> simp only [value?, Option.map_eq_none_iff]
  case configDir => exact Check.eq_none_of_optional_orNull hconfig
  case cacheDir => exact Check.eq_none_of_optional_orNull hcache
  case dataDir => exact Check.eq_none_of_optional_orNull hdata
  case collectMetrics => exact Check.eq_none_of_optional_orNull hmetrics
  case extraArgs => exact Check.eq_none_of_optional_orNull hargs

end NixContext
