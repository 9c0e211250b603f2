import NixContext.Proofs.Context.Loading
import NixContext.Session

/-! # What an action changes

An action changes the surroundings, stores one object or changes nothing (`step_cases`), whether it
succeeds or not. Objects under other labels stay, and so do the program and the runners of the
session; its variables stay until an action sets them (`environment_after`).
-/

namespace NixContext.Session

open InPlace

/-- The label that an action makes an object for. -/
def Action.made? : Action → Option String
  | newDraft label _ | loadDraft label _ _ _ | newSettings label _ | build _ label
  | connect _ label | newHandle label _ | package _ label _ => some label
  | _ => none

/-- The label that an action stores an object under, made anew or changed. -/
def Action.label? : Action → Option String
  | applySettings on _ | apply on _ | replace on _ _ _ | assign on _ _ _ => some on
  | a => a.made?

/-- Whether an action would put another object under a label. -/
def Action.rebinds (on : String) (a : Action) : Prop :=
  a.made? = some on

instance (on : String) (a : Action) : Decidable (a.rebinds on) :=
  inferInstanceAs (Decidable (_ = _))

/-- Whether an action changes the surroundings. -/
def Action.movesSurroundings : Action → Bool
  | setVariable _ _ | unsetVariable _ | changeDirectory _ => true
  | _ => false

/-- Whether an action changes the variables of the process. -/
def Action.setsVariables : Action → Bool
  | setVariable _ _ | unsetVariable _ => true
  | _ => false

/-- The objects that an action can store. -/
def Action.Stores (s : Session) : Action → Object → Prop
  | newDraft _ _, o | loadDraft _ _ _ _, o => ∃ d, d.hidden = [] ∧ o = .draft d
  | applySettings on _, o | apply on _, o | replace on _ _ _, o =>
    ∃ d e, s.draft on = .ok d ∧ e.hidden = d.hidden ∧ o = .draft e
  | newSettings _ _, o => ∃ x : Overlay, o = .settings x.fields
  | build _ _, o => ∃ c, o = .ofContext c
  | connect on _, o => ∃ c n, s.anyContext on = .ok c ∧
      (c.connect s.binary s.environment).result = .ok n ∧ o = .connection n
  | newHandle _ _, o => ∃ h, o = .connection (.handle h)
  | package _ _ _, o => ∃ p, o = .ofPackage p
  | assign on path t v, o => ∃ q, s.object on = .ok q ∧ q.assign path t v = .ok o
  | _, _ => False

theorem label?_of_rebinds {on : String} {a : Action} (h : a.rebinds on) : a.label? = some on := by
  cases a <;> first | exact h | cases h

theorem label?_of_movesSurroundings {a : Action} (h : a.movesSurroundings) : a.label? = none := by
  cases a <;> first | rfl | cases h

theorem find?_store (s : Session) (label : String) (o : Object) :
    (s.store label o).objects.find? label = some o := by
  rw [store, Table.find?_insert, if_pos rfl]

theorem find?_store_of_ne {s : Session} {label on : String} (o : Object) (h : on ≠ label) :
    (s.store label o).objects.find? on = s.objects.find? on := by
  rw [store, Table.find?_insert, if_neg h]

theorem find?_eq_some_iff {s : Session} {label : String} {o : Object} :
    s.objects.find? label = some o ↔ s.object label = .ok o := by
  rw [object]
  cases s.objects.find? label <;> simp

theorem store_store (s : Session) (label : String) (o p : Object) :
    (s.store label o).store label p = s.store label p := by
  rw [store, store, store, Table.insert_insert]

theorem store_self {s : Session} {label : String} {o : Object} (h : s.object label = .ok o) :
    s.store label o = s := by
  rw [store, Table.insert_of_find? (find?_eq_some_iff.mpr h)]

section Lookup

variable {s : Session} {on : String}

theorem draft_eq_ok_iff {d : Draft} : s.draft on = .ok d ↔ s.object on = .ok (.draft d) := by
  rw [draft]
  rcases s.object on with f | o
  · simp [Bind.bind, Except.bind]
  · cases o <;> simp [Bind.bind, Except.bind, Pure.pure, Except.pure]

theorem context_eq_ok_iff {c : Context} :
    s.context on = .ok c ↔ s.object on = .ok (.context c) := by
  rw [context]
  rcases s.object on with f | o
  · simp [Bind.bind, Except.bind]
  · cases o <;> simp [Bind.bind, Except.bind, Pure.pure, Except.pure]

theorem connection_eq_ok_iff {n : Connection} :
    s.connection on = .ok n ↔ s.object on = .ok (.connection n) := by
  rw [connection]
  rcases s.object on with f | o
  · simp [Bind.bind, Except.bind]
  · cases o <;> simp [Bind.bind, Except.bind, Pure.pure, Except.pure]

theorem handle_eq_ok_iff {h : Nix.Handle} :
    s.handle on = .ok h ↔ s.object on = .ok (.connection (.handle h)) := by
  rw [handle, ← connection_eq_ok_iff]
  rcases s.connection on with f | n
  · simp [Bind.bind, Except.bind]
  · cases n <;> simp [Bind.bind, Except.bind, Pure.pure, Except.pure]

theorem package_eq_ok_iff {p : Package} :
    s.package on = .ok p ↔ s.object on = .ok (.package p) := by
  rw [package]
  rcases s.object on with f | o
  · simp [Bind.bind, Except.bind]
  · cases o <;> simp [Bind.bind, Except.bind, Pure.pure, Except.pure]

theorem settings_eq_ok_iff {x : Fields} :
    s.settings on = .ok x ↔ s.object on = .ok (.settings x) := by
  rw [settings]
  rcases s.object on with f | o
  · simp [Bind.bind, Except.bind]
  · cases o <;> simp [Bind.bind, Except.bind, Pure.pure, Except.pure]

theorem anyPackage_of_package {p : Package} (h : s.package on = .ok p) :
    s.anyPackage on = .ok p.raw := by
  rw [anyPackage, package_eq_ok_iff.mp h]
  rfl

end Lookup

section Cases

variable {α : Type} {s t : Session} {l : Option String} {P : Object → Prop}

/-- An outcome that leaves the session with one object stored, or as it was; where a label is
given, it is left as it was by failures only. -/
def Stored (s : Session) (l : Option String) (P : Object → Prop)
    (r : Activity Answer × Session) : Prop :=
  (r.2 = s ∧ (l ≠ none → ∃ f, r.1.result = .error f)) ∨
    ∃ label o, l = some label ∧ P o ∧ r.2 = s.store label o

theorem stored_look_bind {g : Session → Activity α} {k : α → InPlace Session Answer}
    (h : ∀ a, (g s).result = .ok a → Stored s l P ((k a).run s)) :
    Stored s l P ((look g >>= k).run s) := by
  rw [Stored, fst_run_look_bind, snd_run_look_bind]
  rcases hg : g s with ⟨es, f | a⟩
  · exact .inl ⟨rfl, fun _ => ⟨f, rfl⟩⟩
  · exact h a (by rw [hg])

theorem stored_ask_bind {g : Session → Except Failure α} {k : α → InPlace Session Answer}
    (h : ∀ a, g s = .ok a → Stored s l P ((k a).run s)) :
    Stored s l P ((ask g >>= k).run s) :=
  stored_look_bind h

theorem stored_keep {label : String} {o : Object} (h : P o) (x : Answer) :
    Stored s (some label) P ((keep label o >>= fun _ => pure x).run s) :=
  .inr ⟨label, o, rfl, h, rfl⟩

theorem stored_pure (x : Answer) : Stored s none P ((pure x : InPlace Session Answer).run s) :=
  .inl ⟨rfl, fun h => absurd rfl h⟩

theorem run_onDraft {d : Draft} {on : String} (hd : s.draft on = .ok d) (x : InPlace Draft Unit) :
    (onDraft on x).run s = ((x.run d).1, s.store on (.draft (x.run d).2)) := by
  simp only [onDraft, hd]

theorem run_onDraft_of_error {f : Failure} {on : String} (hd : s.draft on = .error f)
    (x : InPlace Draft Unit) : (onDraft on x).run s = (⟨[], .error f⟩, s) := by
  simp only [onDraft, hd]
  rfl

theorem stored_onDraft (on : String) (x : InPlace Draft Unit) (y : Answer)
    (h : ∀ d, s.draft on = .ok d → P (.draft (x.run d).2)) :
    Stored s (some on) P ((onDraft on x >>= fun _ => pure y).run s) := by
  cases hd : s.draft on with
  | error f =>
    rw [run_bind_of_error (run_onDraft_of_error hd x)]
    exact .inl ⟨rfl, fun _ => ⟨f, rfl⟩⟩
  | ok d =>
    refine .inr ⟨on, .draft (x.run d).2, rfl, h d hd, ?_⟩
    rw [run_bind, run_onDraft hd]
    rcases x.run d with ⟨⟨es, f | u⟩, e⟩ <;> rfl

theorem exists_fields_of_overlayOf {es : List (Value × Value)} {x : Fields}
    (h : overlayOf es = .ok x) : ∃ o : Overlay, x = o.fields := by
  rw [overlayOf] at h
  cases ho : Overlay.ofEntries es with
  | error is =>
    rw [ho] at h
    cases h
  | ok o =>
    rw [ho] at h
    cases h
    exact ⟨o, rfl⟩

theorem keeps_hidden_callSetter (name : String) (v : Value) (items : List Value) :
    (callSetter name v items).Keeps Draft.hidden := by
  refine (Draft.keeps_hidden_call name v).bind fun _ => ?_
  split
  · exact keeps_write fun _ => rfl
  · exact keeps_pure _ ()

/-- What an action comes to. -/
theorem step_cases (s : Session) (a : Action) :
    (a.movesSurroundings ∧ ∃ w, (s.step a).2 = { s with surroundings := w }) ∨
      Stored s a.label? (a.Stores s) (s.step a) := by
  cases a
  case setVariable | unsetVariable | changeDirectory => exact .inl ⟨rfl, _, rfl⟩
  all_goals right
  case newDraft => exact stored_keep ⟨_, rfl, rfl⟩ _
  case loadDraft =>
    refine stored_look_bind fun d hd => ?_
    obtain ⟨o, rfl⟩ := Draft.exists_overlay_of_ofFile hd
    exact stored_keep ⟨_, (o.isDeclared_draft _).hidden, rfl⟩ _
  case newSettings =>
    refine stored_ask_bind fun x hx => ?_
    obtain ⟨o, rfl⟩ := exists_fields_of_overlayOf hx
    exact stored_keep ⟨o, rfl⟩ _
  case newHandle => exact stored_ask_bind fun _ _ => stored_keep ⟨_, rfl⟩ _
  case applySettings on es =>
    exact stored_ask_bind fun _ _ => stored_ask_bind fun x _ => stored_onDraft _ _ _ fun d hd =>
      ⟨d, _, hd, Draft.keeps_hidden_give x Setting.all d, rfl⟩
  case apply on source =>
    exact stored_ask_bind fun x _ => stored_onDraft _ _ _ fun d hd =>
      ⟨d, _, hd, Draft.keeps_hidden_give x Setting.all d, rfl⟩
  case replace on field v items =>
    exact stored_onDraft _ _ _ fun d hd =>
      ⟨d, _, hd, keeps_hidden_callSetter field v items d, rfl⟩
  case build =>
    exact stored_ask_bind fun _ _ => stored_ask_bind fun _ _ => stored_ask_bind fun _ _ =>
      stored_keep ⟨_, rfl⟩ _
  case connect =>
    exact stored_ask_bind fun c hc => stored_look_bind fun n hn => stored_keep ⟨c, n, hc, hn, rfl⟩ _
  case package =>
    exact stored_ask_bind fun _ _ => stored_ask_bind fun _ _ => stored_keep ⟨_, rfl⟩ _
  case assign =>
    exact stored_ask_bind fun q hq => stored_ask_bind fun o ho => stored_keep ⟨q, hq, ho⟩ _
  case inspect => exact stored_ask_bind fun _ _ => stored_pure _
  case command | compare =>
    exact stored_ask_bind fun _ _ => stored_ask_bind fun _ _ => stored_pure _
  case run | buildPackage | evaluatePackage | runPackage =>
    exact stored_ask_bind fun _ _ => stored_look_bind fun _ _ => stored_pure _

end Cases

/-- An object stays unless something is stored under its label. -/
theorem find?_step {s : Session} {a : Action} {label : String} (h : a.label? ≠ some label) :
    (s.step a).2.objects.find? label = s.objects.find? label := by
  rcases step_cases s a with ⟨-, w, ht⟩ | ⟨ht, -⟩ | ⟨l, o, hl, -, ht⟩
  · rw [ht]
  · rw [ht]
  · have hne : label ≠ l := fun e => h (e ▸ hl)
    rw [ht, find?_store_of_ne o hne]

section Closed

variable {s : Session} {a : Action} {as : List Action} {on : String} {q o : Object}

/-- Whether nothing that is assigned to a place or to its parts is kept. -/
def Place.isClosed : Place → Bool
  | .context _ | .record _ | .collection | .plain => true
  | _ => false

/-- A closed object does not change where it takes an assignment. -/
theorem assign_eq_self (hq : (Place.ofObject q).isClosed) {path : List String} {t : Target}
    {v : Value} (h : q.assign path t v = .ok o) : o = q := by
  have hput : ∀ name, q.put name v = q := by
    intro name
    cases q with
    | context | rawContext => rfl
    | connection n => cases n with
      | handle => rfl
      | stub => cases hq
    | draft | package | rawPackage | settings => cases hq
  cases hp : (Place.ofObject q).follow path with
  | none =>
    simp only [Object.assign, hp] at h
    cases h
  | some p =>
    cases t with
    | field name =>
      simp only [Object.assign, hp] at h
      split at h
      · cases h
      · cases h
        split
        · exact hput _
        · rfl
    | item key =>
      simp only [Object.assign, hp] at h
      split at h
      · cases hq
      · cases h

/-- Setters and overlays are for drafts, closed objects are only ever replaced as a whole. -/
theorem object_step (ho : s.object on = .ok q) (hq : (Place.ofObject q).isClosed)
    (ha : ¬ a.rebinds on) : (s.step a).2.object on = .ok q := by
  rcases step_cases s a with ⟨-, w, ht⟩ | ⟨ht, -⟩ | ⟨l, o, hl, hst, ht⟩
  · rw [ht]
    exact ho
  · rw [ht]
    exact ho
  rw [← find?_eq_some_iff] at ho ⊢
  by_cases hon : l = on
  · subst hon
    have hdraft : ∀ d, s.draft l ≠ .ok d := by
      intro d hd
      rw [draft_eq_ok_iff, ← find?_eq_some_iff, ho] at hd
      cases hd
      cases hq
    cases a <;> try exact absurd hl ha
    case applySettings | apply | replace =>
      cases hl
      obtain ⟨d, -, hd, -⟩ := hst
      exact absurd hd (hdraft d)
    case assign =>
      cases hl
      obtain ⟨q', hq', hassign⟩ := hst
      rw [← find?_eq_some_iff, ho] at hq'
      cases hq'
      rw [ht, find?_store, assign_eq_self hq hassign]
  · rw [ht, find?_store_of_ne o (Ne.symm hon)]
    exact ho

theorem object_after (ho : s.object on = .ok q) (hq : (Place.ofObject q).isClosed)
    (h : ∀ a ∈ as, ¬ a.rebinds on) : (s.after as).object on = .ok q := by
  induction as generalizing s with
  | nil => exact ho
  | cons a as ih => exact ih (object_step ho hq (h a (.head _))) fun b hb => h b (.tail _ hb)

end Closed

section Intact

variable {s : Session} {a : Action} {as : List Action} {label : String}

/-- A draft that hides no method, or settings that hold what validation gave them. -/
def Object.IsIntact : Object → Prop
  | draft d => d.hidden = []
  | settings x => ∃ o : Overlay, x = o.fields
  | _ => True

/-- What is under a label is intact, if anything is. -/
def IsIntact (s : Session) (label : String) : Prop :=
  ∀ o, s.object label = .ok o → o.IsIntact

/-- An action assigns to the object under a label. -/
def Action.AssignsTo (label : String) : Action → Prop
  | assign on _ _ _ => on = label
  | _ => False

theorem isIntact_ofContext (c : RawContext) : (Object.ofContext c).IsIntact := by
  rw [Object.ofContext]
  cases c.context? <;> trivial

theorem isIntact_ofPackage (p : RawPackage) : (Object.ofPackage p).IsIntact := by
  rw [Object.ofPackage]
  cases p.package? <;> trivial

/-- Only assignments make what is under a label other than intact. -/
theorem isIntact_step (h : s.IsIntact label) (ha : ¬ a.AssignsTo label) :
    (s.step a).2.IsIntact label := by
  intro o ho
  rcases step_cases s a with ⟨-, w, ht⟩ | ⟨ht, -⟩ | ⟨l, p, hl, hp, ht⟩
  · exact h o (by rwa [ht] at ho)
  · exact h o (by rwa [ht] at ho)
  rw [← find?_eq_some_iff, ht] at ho
  by_cases hlabel : label = l
  · subst hlabel
    rw [find?_store] at ho
    cases ho
    -- what is made is intact, and setters hide nothing that was not hidden before
    cases a <;> try exact hp.elim
    case newDraft | loadDraft =>
      obtain ⟨d, hh, rfl⟩ := hp
      exact hh
    case newSettings =>
      obtain ⟨x, rfl⟩ := hp
      exact ⟨x, rfl⟩
    case applySettings | apply | replace =>
      cases hl
      obtain ⟨d, e, hd, hh, rfl⟩ := hp
      exact hh.trans (h _ (draft_eq_ok_iff.mp hd))
    case build =>
      obtain ⟨c, rfl⟩ := hp
      exact isIntact_ofContext c
    case connect =>
      obtain ⟨c, n, -, -, rfl⟩ := hp
      trivial
    case newHandle =>
      obtain ⟨g, rfl⟩ := hp
      trivial
    case package =>
      obtain ⟨q, rfl⟩ := hp
      exact isIntact_ofPackage q
    case assign => exact absurd (Option.some.inj hl) ha
  · rw [find?_store_of_ne p hlabel] at ho
    exact h o (find?_eq_some_iff.mp ho)

theorem isIntact_of_objects (h : s.objects = ∅) (label : String) : s.IsIntact label := by
  intro o ho
  rw [← find?_eq_some_iff, h] at ho
  cases ho

end Intact

/-- The program and the runners are those that the session began with. -/
theorem fixed_step (s : Session) (a : Action) :
    (s.step a).2.binary = s.binary ∧ (s.step a).2.launch = s.launch := by
  rcases step_cases s a with ⟨-, w, ht⟩ | ⟨ht, -⟩ | ⟨l, o, -, -, ht⟩ <;>
    rw [ht] <;> exact ⟨rfl, rfl⟩

theorem fixed_after (s : Session) (as : List Action) :
    (s.after as).binary = s.binary ∧ (s.after as).launch = s.launch := by
  induction as generalizing s with
  | nil => exact ⟨rfl, rfl⟩
  | cons a as ih =>
    obtain ⟨hb, hl⟩ := ih (s.step a).2
    obtain ⟨hb', hl'⟩ := fixed_step s a
    exact ⟨hb.trans hb', hl.trans hl'⟩

theorem environment_step {s : Session} {a : Action} (h : a.setsVariables = false) :
    (s.step a).2.environment = s.environment := by
  rcases step_cases s a with ⟨hm, -⟩ | ⟨ht, -⟩ | ⟨l, o, -, -, ht⟩
  · cases a with
    | setVariable | unsetVariable => cases h
    | changeDirectory => rfl
    | _ => cases hm
  · rw [ht]
  · rw [ht]
    rfl

/-- The variables are those that the session began with, as long as no action sets any. -/
theorem environment_after {s : Session} {as : List Action}
    (h : ∀ a ∈ as, a.setsVariables = false) : (s.after as).environment = s.environment := by
  induction as generalizing s with
  | nil => rfl
  | cons a as ih => rw [after, ih fun b hb => h b (.tail _ hb), environment_step (h a (.head _))]

end NixContext.Session
