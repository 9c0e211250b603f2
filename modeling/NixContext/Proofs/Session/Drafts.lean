import Mathlib.Data.List.Find
import NixContext.Proofs.Context.Loading
import NixContext.Proofs.Session.Frame

/-! # Drafts in a run

After any run a draft has, for each setting, what the last successful write gave it
(`draft_after`). What is built from it follows, and nothing that comes later changes what was
built.
-/

namespace NixContext.Session

open InPlace

/-- What a setter keeps of a value to which items are appended afterwards: arguments have
been copied, a setting for metrics has not. -/
def held? (f : Setting) (v : Value) (appended : List Value) : Option Value :=
  if f = .collectMetrics then some (appendItems appended v) else f.kept? v

/-- What an action writes to a setting of the draft under a label. -/
def Action.written? (s : Session) (on : String) (f : Setting) : Action → Option Value
  | .replace label field v appended =>
    if label = on ∧ field = f.name then held? f v appended else none
  | .applySettings label es =>
    if label = on then (Overlay.ofEntries es).toOption.bind (·.value? f) else none
  | .apply label source =>
    if label = on then (s.settings source).toOption.bind (·.kept? Setting.all f) else none
  | _ => none

/-- The last value that actions write to a setting of the draft under a label. -/
def lastWritten? (s : Session) (on : String) (f : Setting) : List Action → Option Value
  | [] => none
  | a :: as => ((s.step a).2.lastWritten? on f as).or (a.written? s on f)

variable {s t : Session} {on label : String} {d e : Draft} {f : Setting} {a : Action} {c : Engine}

theorem written?_of_label_ne (h : a.label? ≠ some on) : a.written? s on f = none := by
  cases a <;> try rfl
  case replace l field v xs =>
    exact if_neg fun hl => h (congrArg some hl.1)
  case applySettings | apply =>
    exact if_neg fun hl => h (congrArg some hl)

theorem written?_replace (s : Session) (on : String) (f g : Setting) (v : Value)
    (xs : List Value) :
    (Action.replace on g.name v xs).written? s on f = if f = g then held? f v xs else none := by
  simp only [Action.written?, true_and, Setting.name_inj, eq_comm]

section Draft

theorem draft_congr (h : t.objects.find? on = s.objects.find? on) : t.draft on = s.draft on := by
  rw [draft, draft, object, object, h]

theorem object_store (s : Session) (label : String) (o : Object) :
    (s.store label o).object label = .ok o :=
  find?_eq_some_iff.mp (find?_store s label o)

theorem draft_store (s : Session) (on : String) (d : Draft) :
    (s.store on (.draft d)).draft on = .ok d :=
  draft_eq_ok_iff.mpr (object_store s on _)

/-- A setter writes what it keeps of the value, and fails if it keeps nothing. -/
theorem callSetter_spec (hh : d.hidden = []) (f : Setting) (v : Value) (xs : List Value) :
    (held? f v xs = none ∧ (callSetter f.name v xs).run d = (⟨[], .error .typeMismatch⟩, d)) ∨
    ∃ w e, held? f v xs = some w ∧ (callSetter f.name v xs).run d = (⟨[], .ok ()⟩, e) ∧
      d.Writes (fun g => if g = f then some w else none) e := by
  obtain ⟨hk, hc⟩ | ⟨w, e, hk, hc, hw⟩ := Draft.call_spec hh f v
  · have hf : f ≠ .collectMetrics := by
      rintro rfl
      cases hk
    refine .inl ⟨by rw [held?, if_neg hf, hk], ?_⟩
    rw [callSetter]
    exact run_bind_of_error hc
  · by_cases hf : f = .collectMetrics
    -- only a setting for metrics shows what is appended after the setter
    · subst hf
      have hset := Draft.writes_set (f := .collectMetrics) (w := appendItems xs v) trivial e
      refine .inr ⟨_, _, if_pos rfl, ?_, (hw.trans hset).congr fun g => ?_⟩
      · rw [callSetter]
        exact run_bind_of_ok hc
      · split <;> rfl
    · refine .inr ⟨w, e, by rw [held?, if_neg hf, hk], ?_, hw⟩
      rw [callSetter]
      refine (run_bind_of_ok hc).trans ?_
      rw [if_neg (by rwa [Setting.name_inj])]
      rfl

end Draft

section Step

theorem run_onDraft_bind (hd : s.draft on = .ok d) (x : InPlace Draft Unit) (y : Answer) :
    (onDraft on x >>= fun _ => pure y).run s =
      (⟨(x.run d).1.events, (x.run d).1.result.map fun _ => y⟩,
        s.store on (.draft (x.run d).2)) := by
  rw [run_bind, run_onDraft hd]
  rcases (x.run d).1 with ⟨es, f | u⟩
  · rfl
  · simp [goOn, Except.map]

theorem step_replace (hd : s.draft on = .ok d) (field : String) (v : Value) (xs : List Value) :
    s.step (.replace on field v xs) =
      (⟨((callSetter field v xs).run d).1.events,
        ((callSetter field v xs).run d).1.result.map fun _ => .sameDraft⟩,
        s.store on (.draft ((callSetter field v xs).run d).2)) :=
  run_onDraft_bind hd _ _

/-- A setter of another name fails before it writes. -/
theorem run_callSetter_of_ofName? {field : String} (hh : d.hidden = [])
    (h : Setting.ofName? field = none) (v : Value) (xs : List Value) :
    (callSetter field v xs).run d = (⟨[], .error .wrongKind⟩, d) := by
  have hs : d.setter field = .error .wrongKind := by
    rw [Draft.setter, Draft.method, hh, if_neg List.not_mem_nil, h]
    rfl
  have hc : (Draft.call field v).run d = (⟨[], .error .wrongKind⟩, d) := by
    refine Eq.trans (run_ask_bind_of_error hs) ?_
    rfl
  rw [callSetter]
  exact run_bind_of_error hc

theorem step_applySettings (hd : s.draft on = .ok d) (hh : d.hidden = [])
    (es : List (Value × Value)) :
    (∃ is, Overlay.ofEntries es = .error is ∧
      s.step (.applySettings on es) = (⟨[], .error (.rejected .overlay is)⟩, s)) ∨
    ∃ o e, Overlay.ofEntries es = .ok o ∧ d.Writes o.value? e ∧
      s.step (.applySettings on es) = (⟨[], .ok .sameDraft⟩, s.store on (.draft e)) := by
  have hstep : s.step (.applySettings on es) =
      (ask (fun _ => overlayOf es) >>= fun x =>
        onDraft on (Draft.apply x) >>= fun _ => pure .sameDraft).run s :=
    run_ask_bind_of_ok hd
  rw [hstep]
  cases ho : Overlay.ofEntries es with
  | error is =>
    exact .inl ⟨is, rfl, run_ask_bind_of_error (by rw [overlayOf, ho]; rfl)⟩
  | ok o =>
    obtain ⟨e, he, hw⟩ := o.exists_apply hh
    refine .inr ⟨o, e, rfl, hw, ?_⟩
    refine (run_ask_bind_of_ok (by rw [overlayOf, ho]; rfl)).trans ?_
    rw [run_onDraft_bind hd, he]
    rfl

theorem step_build (hd : s.draft on = .ok d) (hh : d.hidden = []) (label : String) :
    (∃ f, d.build = .error f ∧
      s.step (.build on label) = (⟨[], .error (.missingSetting f)⟩, s)) ∨
    ∃ c, d.build = .ok c ∧
      s.step (.build on label) = (⟨[], .ok (.ofContext c)⟩, s.store label (.ofContext c)) := by
  have hm : d.method "build" = .ok () := by rw [Draft.method, hh, if_neg List.not_mem_nil]
  have hstep : s.step (.build on label) =
      (ask (fun _ => d.build.mapError .missingSetting) >>= fun c =>
        keep label (.ofContext c) >>= fun _ => pure (.ofContext c)).run s := by
    refine Eq.trans (run_ask_bind_of_ok hd) ?_
    exact run_ask_bind_of_ok hm
  rw [hstep]
  cases hb : d.build with
  | error f => exact .inl ⟨f, rfl, run_ask_bind_of_error rfl⟩
  | ok c => exact .inr ⟨c, rfl, run_ask_bind_of_ok rfl⟩

theorem draft_replace (hd : s.draft on = .ok d) (hh : d.hidden = []) (field : String) (v : Value)
    (xs : List Value) :
    ∃ e, (s.step (.replace on field v xs)).2.draft on = .ok e ∧
      d.Writes ((Action.replace on field v xs).written? s on ·) e := by
  rw [step_replace hd]
  refine ⟨_, draft_store s on _, ?_⟩
  cases hn : Setting.ofName? field with
  | none =>
    rw [run_callSetter_of_ofName? hh hn]
    refine (Draft.Writes.refl d).congr fun f => ?_
    have hf : field ≠ f.name := fun h => by
      rw [Setting.ofName?_eq_some_iff.mpr h] at hn
      cases hn
    rw [Action.written?, if_neg fun h => hf h.2]
  | some g =>
    obtain rfl := Setting.ofName?_eq_some_iff.mp hn
    rcases callSetter_spec hh g v xs with ⟨hk, hr⟩ | ⟨w, e, hk, hr, hw⟩
    · rw [hr]
      refine (Draft.Writes.refl d).congr fun f => ?_
      rw [written?_replace]
      split
      · next h => rw [h, hk]
      · rfl
    · rw [hr]
      refine hw.congr fun f => ?_
      rw [written?_replace]
      split
      · next h => rw [h, hk]
      · rfl

theorem draft_applySettings (hd : s.draft on = .ok d) (hh : d.hidden = [])
    (es : List (Value × Value)) :
    ∃ e, (s.step (.applySettings on es)).2.draft on = .ok e ∧
      d.Writes ((Action.applySettings on es).written? s on ·) e := by
  rcases step_applySettings hd hh es with ⟨is, ho, hs⟩ | ⟨o, e, ho, hw, hs⟩
  · rw [hs]
    refine ⟨d, hd, (Draft.Writes.refl d).congr fun f => ?_⟩
    rw [Action.written?, if_pos rfl, ho]
    rfl
  · rw [hs]
    refine ⟨e, draft_store s on e, hw.congr fun f => ?_⟩
    rw [Action.written?, if_pos rfl, ho]
    rfl

/-- Settings are applied as far as setters take their values. -/
theorem draft_apply (hd : s.draft on = .ok d) (hh : d.hidden = []) (source : String) :
    ∃ e, (s.step (.apply on source)).2.draft on = .ok e ∧
      d.Writes ((Action.apply on source).written? s on ·) e := by
  simp only [Action.written?, if_true]
  cases hx : s.settings source with
  | error f =>
    have hs : s.step (.apply on source) = (⟨[], .error f⟩, s) := run_ask_bind_of_error hx
    rw [hs]
    exact ⟨d, hd, Draft.Writes.refl d⟩
  | ok x =>
    have hs : s.step (.apply on source) =
        (onDraft on (Draft.apply x) >>= fun _ => pure .sameDraft).run s :=
      run_ask_bind_of_ok hx
    obtain ⟨e, he, hw⟩ := Draft.give_spec x Setting.all hh
    rw [hs, run_onDraft_bind hd, Draft.apply, he]
    exact ⟨e, draft_store s on e, hw⟩

/-- One action writes to the draft what `written?` says, and nothing else. -/
theorem draft_step (hd : s.draft on = .ok d) (hh : d.hidden = [])
    (ha : ¬ a.rebinds on ∧ ¬ a.AssignsTo on) :
    ∃ e, (s.step a).2.draft on = .ok e ∧ d.Writes (a.written? s on ·) e := by
  -- an action on another label leaves the draft alone, whatever it is
  by_cases hl : a.label? = some on
  · cases a <;> try exact absurd hl ha.1
    case assign => exact absurd (Option.some.inj hl) ha.2
    case replace l field v xs =>
      cases hl
      exact draft_replace hd hh field v xs
    case applySettings l es =>
      cases hl
      exact draft_applySettings hd hh es
    case apply l source =>
      cases hl
      exact draft_apply hd hh source
  · refine ⟨d, ?_, (Draft.Writes.refl d).congr fun f => (written?_of_label_ne hl).symm⟩
    rw [draft_congr (find?_step hl), hd]

/-- After a run, each setting has what was written last, or what it had before. -/
theorem draft_after {as : List Action} (hd : s.draft on = .ok d) (hh : d.hidden = [])
    (h : ∀ a ∈ as, ¬ a.rebinds on ∧ ¬ a.AssignsTo on) :
    ∃ e, (s.after as).draft on = .ok e ∧ d.Writes (s.lastWritten? on · as) e := by
  induction as generalizing s d with
  | nil => exact ⟨d, hd, Draft.Writes.refl d⟩
  | cons a as ih =>
    obtain ⟨d₁, hd₁, hw₁⟩ := draft_step hd hh (h a (.head _))
    obtain ⟨e, he, hw⟩ := ih hd₁ (hw₁.hidden.trans hh) fun b hb => h b (.tail _ hb)
    exact ⟨e, he, hw₁.trans hw⟩

theorem draft_newDraft (s : Session) (on : String) (e : Engine) :
    (s.step (.newDraft on e)).2.draft on = .ok (.fresh e) :=
  draft_store s on _

end Step

section Build

theorem declares_of_written? {w : Value} (h : a.written? s on f = some w) : f.Declares w := by
  cases a <;> try cases h
  case replace l field v xs =>
    rw [Action.written?] at h
    split at h
    · rw [held?] at h
      split at h
      · next hf => rw [hf]; trivial
      · exact Setting.declares_of_kept? h
    · cases h
  case applySettings l es =>
    rw [Action.written?] at h
    split at h
    · obtain ⟨o, -, hw⟩ := Option.bind_eq_some_iff.mp h
      exact Overlay.declares_of_value? hw
    · cases h
  case apply l source =>
    rw [Action.written?] at h
    split at h
    · obtain ⟨x, -, hw⟩ := Option.bind_eq_some_iff.mp h
      exact Fields.declares_of_kept? hw
    · cases h

theorem declares_of_lastWritten? {as : List Action} {w : Value}
    (h : s.lastWritten? on f as = some w) : f.Declares w := by
  induction as generalizing s with
  | nil => cases h
  | cons a as ih =>
    rcases Option.or_eq_some_iff.mp h with h | ⟨-, h⟩
    · exact ih h
    · exact declares_of_written? h

theorem build_eq_missing_iff (hd : s.draft on = .ok d) (hh : d.hidden = []) (label : String)
    (f : Setting) :
    (s.step (.build on label)).1.result = .error (.missingSetting f) ↔
      Setting.directories.find? (fun g => (d.value? g).isNone) = some f := by
  rcases step_build hd hh label with ⟨g, hb, hs⟩ | ⟨r, hb, hs⟩
  · rcases d.build_spec with ⟨g', hg, hb'⟩ | ⟨-, hb', -⟩
    · rw [hb] at hb'
      cases hb'
      rw [hs, hg]
      simp
    · rw [hb] at hb'
      cases hb'
  · rcases d.build_spec with ⟨g', hg, hb'⟩ | ⟨hn, -⟩
    · rw [hb] at hb'
      cases hb'
    · rw [hs, hn]
      simp

theorem exists_build (hd : s.draft on = .ok d) (he : d.IsDeclared c) (label : String)
    (h : ∀ g ∈ Setting.directories, (d.value? g).isSome) :
    ∃ b, (s.step (.build on label)).1.result = .ok (.context b) ∧ b.engine = c ∧
      ∀ f, some (b.value f) = d.value? f := by
  rcases d.build_spec with ⟨g, hg, -⟩ | ⟨-, hb, hvalue⟩
  · have hnone := List.find?_some hg
    have hsome := h g (List.mem_of_find?_eq_some hg)
    rw [Option.isNone_iff_eq_none.mp hnone] at hsome
    cases hsome
  · obtain ⟨b, hraw, hengine, hbv⟩ :=
      RawContext.exists_context (fun f => he.declares f _ (hvalue f)) c
    refine ⟨b, ?_, hengine, fun f => by rw [hbv, hvalue]⟩
    rcases step_build hd he.hidden label with ⟨g, hb', -⟩ | ⟨r, hb', hs⟩
    · rw [hb] at hb'
      cases hb'
    · rw [hb, he.backend, hraw] at hb'
      cases hb'
      rw [hs]
      rfl

theorem exists_build_iff (hd : s.draft on = .ok d) (he : d.IsDeclared c) (label : String) :
    (∃ b, (s.step (.build on label)).1.result = .ok (.context b)) ↔
      ∀ g ∈ Setting.directories, (d.value? g).isSome := by
  constructor
  · rintro ⟨b, hb⟩ g hg
    by_contra hn
    obtain ⟨f, hf⟩ : ∃ f, Setting.directories.find? (fun g => (d.value? g).isNone) = some f :=
      Option.isSome_iff_exists.mp (List.find?_isSome.mpr ⟨g, hg, by simpa using hn⟩)
    rw [(build_eq_missing_iff hd he.hidden label f).mpr hf] at hb
    cases hb
  · intro h
    obtain ⟨b, hb, -⟩ := exists_build hd he label h
    exact ⟨b, hb⟩

end Build

end NixContext.Session
