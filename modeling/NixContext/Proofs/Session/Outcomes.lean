import NixContext.Proofs.Package
import NixContext.Proofs.Session.Loading
import NixContext.Proofs.Validation.Issues

/-! # Outcomes of connecting

A handle needs a home directory first, and then extra arguments that are all texts. What is
wrong with the arguments is reported completely (`connect_outcomes`). Settings give only texts,
so a context that was filled by settings alone always gets its handle where there is a home
directory.
-/

namespace NixContext

open Nix

theorem forall_isText_iff {xs : List Value} :
    (∀ x ∈ xs, x.IsText) ↔ ∃ ts : List String, xs = ts.map .str := by
  constructor
  · intro h
    induction xs with
    | nil => exact ⟨[], rfl⟩
    | cons x xs ih =>
      obtain ⟨t, rfl⟩ := h _ (.head _)
      obtain ⟨ts, rfl⟩ := ih fun y hy => h y (.tail _ hy)
      exact ⟨t :: ts, rfl⟩
  · rintro ⟨ts, rfl⟩ x hx
    obtain ⟨t, -, rfl⟩ := List.mem_map.mp hx
    exact ⟨t, rfl⟩

section Connect

/-- What is wrong with extra arguments. -/
def argumentIssues (xs : List Value) : List Issue :=
  (Check.strayPlaces 0 xs).map fun i => ⟨.notText, [.field "extra_args", .index i]⟩

theorem argumentIssues_eq_nil_iff {xs : List Value} :
    argumentIssues xs = [] ↔ ∀ x ∈ xs, x.IsText := by
  rw [argumentIssues, List.map_eq_nil_iff, List.eq_nil_iff_forall_not_mem]
  simp only [Check.mem_strayPlaces, not_exists, not_and, not_not]
  constructor
  · intro h x hx
    obtain ⟨j, hj⟩ := List.mem_iff_getElem?.mp hx
    exact h _ j x rfl hj
  · rintro h _ j x rfl hj
    exact h x (List.mem_of_getElem? hj)

theorem texts_extraArgs {xs : List Value} (h : ¬ ∀ x ∈ xs, x.IsText) :
    (Check.texts .notTuple (.tuple xs)).under (.field "extra_args") =
      .error (argumentIssues xs) := by
  have hi : ((Check.texts .notTuple (.tuple xs)).under (.field "extra_args")).issues =
      argumentIssues xs := by
    rw [Checked.issues_under, Check.texts, Check.issues_items_text, List.map_map]
    rfl
  have he := ((Checked.IsExplained.items Check.isExplained_text 0 xs).under
    (.field "extra_args")).eq_error
  rw [← argumentIssues_eq_nil_iff] at h
  rw [← hi] at h ⊢
  exact he h

/-- The handle of a context is refused without a home directory, then for what is wrong with
the extra arguments, and given otherwise. -/
theorem Nix.Handle.ofContext_spec (v : Variant) (binary : String) (environment : Table String)
    (c : Context) :
    let r := (ofContext v binary environment c).result
    (¬ HasHome environment ∧ r = .error .homeUnset) ∨
    (HasHome environment ∧ (¬ ∀ x ∈ c.extraArgs, x.IsText) ∧
      r = .error (.rejected (.handle .plain) (argumentIssues c.extraArgs))) ∨
    (HasHome environment ∧ (∀ x ∈ c.extraArgs, x.IsText) ∧
      ∃ h, r = .ok h ∧ h.extraArgs.map .str = c.extraArgs) := by
  intro r
  obtain ⟨o, ho, -⟩ := exists_preset
  by_cases hh : HasHome environment
  · refine .inr ?_
    by_cases ht : ∀ x ∈ c.extraArgs, x.IsText
    · obtain ⟨ts, hts⟩ := forall_isText_iff.mp ht
      obtain ⟨vs, -, hc⟩ := ofContext_of_hasHome ho hts hh v binary
      exact .inr ⟨hh, ht, _, congrArg Activity.result hc, hts.symm⟩
    · refine .inl ⟨hh, ht, ?_⟩
      show (ofContext v binary environment c).result = _
      rw [ofContext, ofArguments, ho, environmentFrom?_of_hasHome hh, texts_extraArgs ht]
      rfl
  · exact .inl ⟨hh, congrArg Activity.result (ofContext_of_not_hasHome hh v binary c)⟩

theorem Context.result_connect {c : Context} {v : Variant} (hv : c.engine = .commandLine v)
    (binary : String) (environment : Table String) :
    (c.connect binary environment).result =
      (Handle.ofContext v binary environment c).result.map .handle :=
  congrArg Activity.result (Context.connect_commandLine hv rfl)

/-- A context whose extra arguments are texts is never rejected, whatever its engine. -/
theorem Context.connect_ne_rejected {c : Context} (h : ∀ x ∈ c.extraArgs, x.IsText)
    (binary : String) (environment : Table String) (k : RecordKind) (is : List Issue) :
    (c.connect binary environment).result ≠ .error (.rejected k is) := by
  cases he : c.engine with
  | stub => simp [connect, RawContext.connect, raw, he]
  | failing => simp [connect, RawContext.connect, raw, he]
  | commandLine v =>
    rw [result_connect he]
    rcases Handle.ofContext_spec v binary environment c with ⟨-, hr⟩ | ⟨-, hn, -⟩ | ⟨-, -, g, hr, -⟩
    · rw [hr]
      rintro ⟨⟩
    · exact (hn h).elim
    · rw [hr]
      rintro ⟨⟩

end Connect

section Settings

theorem Overlay.exists_texts_of_value? {o : Overlay} {w : Value}
    (h : o.value? .extraArgs = some w) : ∃ ts : List String, w = .tuple (ts.map .str) := by
  obtain ⟨ts, -, rfl⟩ := Option.map_eq_some_iff.mp h
  exact ⟨ts, rfl⟩

theorem Overlay.exists_texts_draft (o : Overlay) (e : Engine) :
    ∃ ts : List String, (o.draft e).value? .extraArgs = some (.tuple (ts.map .str)) := by
  rw [value?_draft]
  cases ho : o.value? .extraArgs with
  | none => exact ⟨[], rfl⟩
  | some w =>
    obtain ⟨ts, rfl⟩ := exists_texts_of_value? ho
    exact ⟨ts, rfl⟩

namespace Session

open InPlace

variable {s : Session} {on label : String} {a first : Action} {as : List Action}

/-- An action makes a fresh draft, or one from a settings file. -/
def Action.Begins (on : String) : Action → Prop
  | newDraft label _ | loadDraft label _ _ _ => label = on
  | _ => False

/-- An action calls a setter of the draft under a label, or assigns to it. -/
def Action.Sets (on : String) : Action → Prop
  | replace label _ _ _ | assign label _ _ _ => label = on
  | _ => False

/-- Wherever actions apply settings to the draft under a label, these hold what validation gave
them. -/
def AppliesIntact (s : Session) (on : String) : List Action → Prop
  | [] => True
  | a :: as =>
    (∀ source, a = .apply on source → s.IsIntact source) ∧ (s.step a).2.AppliesIntact on as

/-- Settings that nothing is assigned to hold what validation gave them. -/
theorem appliesIntact_of_not_assignsTo
    (h : ∀ source, .apply on source ∈ as → s.IsIntact source ∧ ∀ a ∈ as, ¬ a.AssignsTo source) :
    s.AppliesIntact on as := by
  induction as generalizing s with
  | nil => trivial
  | cons a as ih =>
    refine ⟨?_, ih fun source hs => ?_⟩
    · rintro source rfl
      exact (h source (.head _)).1
    · obtain ⟨hi, ha⟩ := h source (.tail _ hs)
      exact ⟨isIntact_step hi (ha a (.head _)), fun b hb => ha b (.tail _ hb)⟩

theorem not_assignsTo_of_not_sets (h : ¬ a.Sets on) : ¬ a.AssignsTo on := by
  intro ha
  cases a <;> first | exact h ha | exact ha

theorem exists_texts_of_begins (ha : first.Begins on)
    (hok : (s.step first).1.result = .ok .done) :
    ∃ d e, (s.step first).2.draft on = .ok d ∧ d.IsDeclared e ∧
      ∃ ts : List String, d.value? .extraArgs = some (.tuple (ts.map .str)) := by
  cases first <;> try exact ha.elim
  case newDraft l e =>
    obtain rfl := ha
    exact ⟨_, e, draft_newDraft s l e, Draft.isDeclared_fresh e, [], rfl⟩
  case loadDraft l e file context =>
    obtain rfl := ha
    obtain ⟨d, hd, -, ht⟩ := exists_of_run_look_bind hok
    obtain ⟨o, rfl⟩ := Draft.exists_overlay_of_ofFile hd
    refine ⟨_, e, ?_, o.isDeclared_draft e, o.exists_texts_draft e⟩
    rw [step, carryOut, ht]
    exact draft_store s l _

/-- An action that is no setter writes only texts as extra arguments. -/
theorem exists_texts_of_written? (ha : ¬ a.Sets on)
    (hi : ∀ source, a = .apply on source → s.IsIntact source) {w : Value}
    (hw : a.written? s on .extraArgs = some w) : ∃ ts : List String, w = .tuple (ts.map .str) := by
  cases a <;> try cases hw
  case replace l field v xs =>
    rw [Action.written?, if_neg fun hl => ha hl.1] at hw
    cases hw
  case applySettings l es =>
    rw [Action.written?] at hw
    split at hw
    · obtain ⟨o, -, hw⟩ := Option.bind_eq_some_iff.mp hw
      exact Overlay.exists_texts_of_value? hw
    · cases hw
  case apply l source =>
    rw [Action.written?] at hw
    split at hw
    · next hl =>
      subst hl
      cases hx : s.settings source with
      | error f =>
        rw [hx] at hw
        cases hw
      | ok x =>
        obtain ⟨o, rfl⟩ : ∃ o : Overlay, x = o.fields :=
          hi source rfl _ (settings_eq_ok_iff.mp hx)
        rw [hx] at hw
        refine Overlay.exists_texts_of_value? (o := o) ?_
        rw [← o.kept?_fields]
        exact hw
    · cases hw

/-- Without setters only settings write extra arguments. -/
theorem exists_texts_of_lastWritten? (h : ∀ a ∈ as, ¬ a.Sets on) (hi : s.AppliesIntact on as)
    {w : Value} (hw : s.lastWritten? on .extraArgs as = some w) :
    ∃ ts : List String, w = .tuple (ts.map .str) := by
  induction as generalizing s with
  | nil => cases hw
  | cons a as ih =>
    rcases Option.or_eq_some_iff.mp hw with hw | ⟨-, hw⟩
    · exact ih (fun b hb => h b (.tail _ hb)) hi.2 hw
    · exact exists_texts_of_written? (h a (.head _)) hi.1 hw

/-- A context that was filled by settings alone has only texts for extra arguments. -/
theorem isText_of_settings {d : Context} (hfirst : first.Begins on)
    (hok : (s.step first).1.result = .ok .done)
    (has : ∀ a ∈ as, ¬ a.rebinds on ∧ ¬ a.Sets on)
    (hi : (s.step first).2.AppliesIntact on as)
    (hb : (((s.step first).2.after as).step (.build on label)).1.result = .ok (.context d)) :
    ∀ x ∈ d.extraArgs, x.IsText := by
  obtain ⟨d₀, c₀, hd₀, hdeclared, ts, hts⟩ := exists_texts_of_begins hfirst hok
  obtain ⟨e, he, hw⟩ := draft_after hd₀ hdeclared.hidden fun a ha =>
    ⟨(has a ha).1, not_assignsTo_of_not_sets (has a ha).2⟩
  have hdeclared' := hdeclared.writes (fun f x => declares_of_lastWritten?) hw
  have htexts : ∃ us : List String, e.value? .extraArgs = some (.tuple (us.map .str)) := by
    rw [hw.value]
    cases hw : (s.step first).2.lastWritten? on .extraArgs as with
    | none => exact ⟨ts, hts⟩
    | some w =>
      obtain ⟨us, rfl⟩ := exists_texts_of_lastWritten? (fun a ha => (has a ha).2) hi hw
      exact ⟨us, rfl⟩
  obtain ⟨us, hus⟩ := htexts
  obtain ⟨c, hc, -, hcv⟩ :=
    exists_build he hdeclared' label ((exists_build_iff he hdeclared' label).mp ⟨d, hb⟩)
  rw [hb] at hc
  cases hc
  have hd := hcv .extraArgs
  rw [hus] at hd
  exact forall_isText_iff.mpr ⟨us, Value.tuple.inj (Option.some.inj hd)⟩

/-- Connecting a context of the command line engine has one of three outcomes. It fails without
a home directory, whatever the extra arguments are; otherwise it is rejected if some of these
are no texts, with one issue for each of them, in order; otherwise it gives a handle with these
arguments. It never fails for the preset options, and a context that was filled by settings
alone is never rejected, unless something else was assigned to these settings before. -/
theorem connect_outcomes (c : Context) {v : Variant} (hv : c.engine = .commandLine v)
    (binary : String) (environment : Table String) :
    let r := (Handle.ofContext v binary environment c).result
    (c.connect binary environment).result = r.map .handle ∧
    (r = .error .homeUnset ↔ ¬ HasHome environment) ∧
    ((∃ is, r = .error (.rejected (.handle .plain) is)) ↔
      HasHome environment ∧ ∃ x ∈ c.extraArgs, ¬ x.IsText) ∧
    (∀ is, r = .error (.rejected (.handle .plain) is) →
      ∃ places : List Nat, places.Pairwise (· < ·) ∧
        (∀ i, i ∈ places ↔ ∃ x, c.extraArgs[i]? = some x ∧ ¬ x.IsText) ∧
        is = places.map fun i => ⟨.notText, [.field "extra_args", .index i]⟩) ∧
    ((∃ h, r = .ok h) ↔ HasHome environment ∧ ∀ x ∈ c.extraArgs, x.IsText) ∧
    (∀ h, r = .ok h → h.extraArgs.map .str = c.extraArgs) ∧
    (∀ f, r = .error f → f = .homeUnset ∨ ∃ is, f = .rejected (.handle .plain) is) ∧
    ∀ (s : Session) (on label : String) (first : Action) (as : List Action) (d : Context),
      first.Begins on → (s.step first).1.result = .ok .done →
      (∀ a ∈ as, ¬ a.rebinds on ∧ ¬ a.Sets on) → (s.step first).2.AppliesIntact on as →
      (((s.step first).2.after as).step (.build on label)).1.result = .ok (.context d) →
      ∀ b e k is, (d.connect b e).result ≠ .error (.rejected k is) := by
  intro r
  refine ⟨Context.result_connect hv binary environment, ?_⟩
  have hfilled : ∀ (s : Session) (on label : String) (first : Action) (as : List Action)
      (d : Context), first.Begins on → (s.step first).1.result = .ok .done →
      (∀ a ∈ as, ¬ a.rebinds on ∧ ¬ a.Sets on) → (s.step first).2.AppliesIntact on as →
      (((s.step first).2.after as).step (.build on label)).1.result = .ok (.context d) →
      ∀ b e k is, (d.connect b e).result ≠ .error (.rejected k is) :=
    fun s on label first as d hfirst hok has hi hb =>
      Context.connect_ne_rejected (isText_of_settings hfirst hok has hi hb)
  have hplaces : ∀ i, i ∈ Check.strayPlaces 0 c.extraArgs ↔
      ∃ x, c.extraArgs[i]? = some x ∧ ¬ x.IsText := by
    simp [Check.mem_strayPlaces]
  have hspec := Handle.ofContext_spec v binary environment c
  change (_ ∧ r = _) ∨ (_ ∧ _ ∧ r = _) ∨ (_ ∧ _ ∧ ∃ h, r = _ ∧ _) at hspec
  clear_value r
  rcases hspec with ⟨hh, rfl⟩ | ⟨hh, hn, rfl⟩ | ⟨hh, ht, h, rfl, hx⟩
  · refine ⟨by simp [hh], by simp [hh], by simp, by simp [hh], by simp, ?_, hfilled⟩
    rintro _ ⟨⟩
    exact .inl rfl
  · have hsome : ∃ x ∈ c.extraArgs, ¬ x.IsText := by simpa using hn
    refine ⟨by simp [hh], by simp [hh, hsome], ?_, by simp [hn], by simp, ?_, hfilled⟩
    · rintro _ ⟨⟩
      exact ⟨_, Check.pairwise_strayPlaces 0 _, hplaces, rfl⟩
    · rintro _ ⟨⟩
      exact .inr ⟨_, rfl⟩
  · have hnone : ¬ ∃ x ∈ c.extraArgs, ¬ x.IsText := by simpa using ht
    refine ⟨by simp [hh], by simp [hnone], by simp, by simpa [hh] using ht, ?_, by simp, hfilled⟩
    rintro _ ⟨⟩
    exact hx

/-- Two extra arguments are no texts, and the home directory is there or empty; a context is
built from a file and from settings that complete it. -/
theorem connect_outcomes_mixedArgs :
    let c : Context := ⟨.ofText "/c", .ofText "/k", .ofText "/d", .bool false,
      [.str "-v", .int 3, .str "x", .null], .commandLine .recording⟩
    let home := Table.ofList [("HOME", "/h")]
    let first : Action := .loadDraft "b" (.commandLine .plain) partialFile
      (Table.ofList [("d", .str "/c")])
    let more : List Action :=
      [.newSettings "s" [(.str "cache_dir", .str "/k")], .apply "b" "s",
        .applySettings "b" [(.str "data_dir", .str "/d")]]
    (c.connect "nix" (Table.ofList [("HOME", "")])).result = .error .homeUnset ∧
    (∃ places : List Nat, places.Pairwise (· < ·) ∧ (∀ i, i ∈ places ↔ i = 1 ∨ i = 3) ∧
      (c.connect "nix" home).result = .error (.rejected (.handle .plain)
        (places.map fun i => ⟨.notText, [.field "extra_args", .index i]⟩))) ∧
    ∃ d, (((partialSession.step first).2.after more).step (.build "b" "c")).1.result =
        .ok (.context d) ∧ d.extraArgs = [.str "-v", .str "x"] ∧
      ∀ k is, (d.connect "nix" home).result ≠ .error (.rejected k is) := by
  intro c home first more
  obtain ⟨hc, hunset, -⟩ := connect_outcomes c rfl "nix" (Table.ofList [("HOME", "")])
  obtain ⟨hc', -, hrejected, hplaces, -, -, -, hfilled⟩ := connect_outcomes c rfl "nix" home
  refine ⟨?_, ?_, ?_⟩
  · rw [hc, hunset.mpr (by decide)]
    rfl
  · obtain ⟨is, his⟩ := hrejected.mpr ⟨by decide, .int 3, by decide, nofun⟩
    obtain ⟨places, hsorted, hmem, rfl⟩ := hplaces is his
    have hstray : ∀ i, (∃ x, c.extraArgs[i]? = some x ∧ ¬ x.IsText) ↔ i = 1 ∨ i = 3 := by
      rintro (_ | _ | _ | _ | i) <;> simp [c, Value.IsText]
    exact ⟨places, hsorted, fun i => (hmem i).trans (hstray i), by rw [hc', his]; rfl⟩
  · have hb : (((partialSession.step first).2.after more).step (.build "b" "c")).1.result =
        .ok (.context ⟨.ofText "/c//w", .ofText "/k", .ofText "/d", .bool false,
          [.str "-v", .str "x"], .commandLine .plain⟩) := by decide +kernel
    have hmore : ∀ a ∈ more, ¬ a.rebinds "b" ∧ ¬ a.Sets "b" := by
      simp [more, Action.rebinds, Action.made?, Action.Sets]
    have hi : (partialSession.step first).2.AppliesIntact "b" more := by
      refine appliesIntact_of_not_assignsTo fun source _ => ⟨?_, ?_⟩
      · exact isIntact_step (isIntact_of_objects rfl source) id
      · simp [more, Action.AssignsTo]
    exact ⟨_, hb, rfl, hfilled partialSession "b" "c" first more _ rfl (by decide +kernel) hmore
      hi hb "nix" home⟩

end Session

end Settings

end NixContext
