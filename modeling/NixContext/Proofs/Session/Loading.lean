import NixContext.Proofs.Context.Loading
import NixContext.Proofs.Session.Drafts

/-! # Settings files and setters

A draft from a settings file is the draft that setters give which are called by hand with the
validated values of the file (`loadDraft_eq_setters`). The order of calls for different settings
does not matter, so the file can be completed by setters.
-/

namespace NixContext

namespace Setting

variable {f : Setting} {w : Value}

theorem filter_eq_singleton {ps : List (Setting × Value)} (hn : (ps.map Prod.fst).Nodup)
    (h : (f, w) ∈ ps) : ps.filter (·.1 = f) = [(f, w)] := by
  induction ps with
  | nil => cases h
  | cons p ps ih =>
    obtain ⟨hp, hn⟩ := List.nodup_cons.mp hn
    rcases List.mem_cons.mp h with rfl | h
    · have hrest : ps.filter (·.1 = f) = [] := by
        refine List.filter_eq_nil_iff.mpr fun q hq hf => hp ?_
        exact List.mem_map.mpr ⟨q, hq, of_decide_eq_true hf⟩
      rw [List.filter_cons_of_pos (by simp), hrest]
    · have hne : ¬ p.1 = f := fun he => hp (he ▸ List.mem_map.mpr ⟨_, h, rfl⟩)
      rw [List.filter_cons_of_neg (by simpa using hne), ih hn h]

/-- The same calls for every setting, in the same order, whatever stands between them. -/
def SameCalls (ps qs : List (Setting × Value)) : Prop :=
  ∀ f : Setting, ps.filter (·.1 = f) = qs.filter (·.1 = f)

/-- What setters keep last for a setting. -/
def lastKept? (ps : List (Setting × Value)) (f : Setting) : Option Value :=
  ((ps.filter (·.1 = f)).filterMap fun p => f.kept? p.2).getLast?

theorem lastKept?_congr {ps qs : List (Setting × Value)} (h : SameCalls ps qs) (f : Setting) :
    lastKept? ps f = lastKept? qs f := by
  rw [lastKept?, lastKept?, h f]

theorem lastKept?_append (ps qs : List (Setting × Value)) (f : Setting) :
    lastKept? (ps ++ qs) f = (lastKept? qs f).or (lastKept? ps f) := by
  rw [lastKept?, List.filter_append, List.filterMap_append, List.getLast?_append]
  rfl

theorem lastKept?_cons (p : Setting × Value) (ps : List (Setting × Value)) (f : Setting) :
    lastKept? (p :: ps) f =
      (lastKept? ps f).or (if f = p.1 then f.kept? p.2 else none) := by
  refine (lastKept?_append [p] ps f).trans (congrArg _ ?_)
  by_cases hp : p.1 = f
  · rw [if_pos hp.symm, lastKept?, List.filter_cons_of_pos (by simpa using hp)]
    cases hk : f.kept? p.2 <;> simp [hk]
  · rw [if_neg (Ne.symm hp), lastKept?, List.filter_cons_of_neg (by simpa using hp)]
    rfl

/-- Setters that are called with what entries give keep what the overlay holds. -/
theorem lastKept?_given {es : List (Value × Value)} {o : Overlay}
    (h : Overlay.ofEntries es = .ok o) (f : Setting) : lastKept? (given es) f = o.value? f := by
  rw [lastKept?, Overlay.value?_eq_bind]
  cases ha : o.argument? f with
  | none =>
    have hf : (given es).filter (·.1 = f) = [] := by
      refine List.filter_eq_nil_iff.mpr fun p hp hf => ?_
      obtain rfl := of_decide_eq_true hf
      rw [(Overlay.argument?_eq_some_iff h).mpr hp] at ha
      cases ha
    rw [hf]
    rfl
  | some w =>
    rw [filter_eq_singleton (nodup_given es) ((Overlay.argument?_eq_some_iff h).mp ha)]
    cases hk : f.kept? w <;> simp [hk]

end Setting

namespace Session

open InPlace
open Setting (SameCalls given)

variable {s : Session} {label : String} {e : Engine} {f : Setting}
  {ps qs : List (Setting × Value)} {es : List (Value × Value)} {o : Overlay}

/-- Calls of setters on a draft. -/
def setters (on : String) (ps : List (Setting × Value)) : List Action :=
  ps.map fun p => .replace on p.1.name p.2 []

theorem not_rebinds_of_mem_setters {a : Action} (h : a ∈ setters label ps) :
    ¬ a.rebinds label ∧ ¬ a.AssignsTo label := by
  obtain ⟨p, -, rfl⟩ := List.mem_map.mp h
  exact ⟨by simp [Action.rebinds, Action.made?], id⟩

theorem appendItems_nil (v : Value) : appendItems [] v = v := by
  cases v <;> simp [appendItems]

theorem held?_nil (f : Setting) (v : Value) : held? f v [] = f.kept? v := by
  rw [held?]
  split
  · next hf => rw [hf, appendItems_nil, Setting.kept?]
  · rfl

/-- What setters have written last depends on their calls only. -/
theorem lastWritten?_setters (s : Session) (label : String) (f : Setting)
    (ps : List (Setting × Value)) :
    s.lastWritten? label f (setters label ps) = Setting.lastKept? ps f := by
  induction ps generalizing s with
  | nil => rfl
  | cons p ps ih =>
    rw [Setting.lastKept?_cons, ← ih (s.step (.replace label p.1.name p.2 [])).2, ← held?_nil,
      ← written?_replace s label]
    rfl

/-- Setters do nothing but replace the draft. -/
theorem exists_after_setters (s : Session) (label : String) (d : Draft)
    (ps : List (Setting × Value)) :
    ∃ d', (s.store label (.draft d)).after (setters label ps) = s.store label (.draft d') := by
  induction ps generalizing d with
  | nil => exact ⟨d, rfl⟩
  | cons p ps ih =>
    rw [setters, List.map_cons, after, step_replace (draft_store s label d)]
    simp only [store_store]
    exact ih _

/-- The draft that setters leave has what they have written last. -/
theorem after_setters (s : Session) (label : String) {d : Draft} (hh : d.hidden = [])
    (ps : List (Setting × Value)) :
    ∃ d', (s.store label (.draft d)).after (setters label ps) = s.store label (.draft d') ∧
      d.Writes (Setting.lastKept? ps) d' := by
  obtain ⟨d', h⟩ := exists_after_setters s label d ps
  obtain ⟨d₁, hd₁, hw⟩ :=
    draft_after (draft_store s label d) hh fun a (ha : a ∈ setters label ps) =>
      not_rebinds_of_mem_setters ha
  rw [h, draft_store] at hd₁
  cases hd₁
  exact ⟨d', h, hw.congr fun f => lastWritten?_setters _ label f ps⟩

theorem after_setters_congr {d d' : Draft} (hb : d.backend = d'.backend) (hh : d.hidden = [])
    (hh' : d'.hidden = [])
    (hv : ∀ f, (Setting.lastKept? ps f).or (d.value? f) =
      (Setting.lastKept? qs f).or (d'.value? f)) :
    (s.store label (.draft d)).after (setters label ps) =
      (s.store label (.draft d')).after (setters label qs) := by
  obtain ⟨d₁, h₁, hw₁⟩ := after_setters s label hh ps
  obtain ⟨d₂, h₂, hw₂⟩ := after_setters s label hh' qs
  have hd : d₁ = d₂ := by
    refine Draft.ext_value? ?_ ?_ fun f => ?_
    · rw [hw₁.backend, hw₂.backend, hb]
    · rw [hw₁.hidden, hw₂.hidden, hh, hh']
    · rw [hw₁.value, hw₂.value, hv]
  rw [h₁, h₂, hd]

/-- An overlay can be applied by setters, and completed by setters in any order. -/
theorem after_setters_draft (h : Overlay.ofEntries es = .ok o) (s : Session) (e : Engine)
    (hs : SameCalls qs (given es ++ ps)) :
    (s.store label (.draft (o.draft e))).after (setters label ps) =
      (s.store label (.draft (.fresh e))).after (setters label qs) := by
  have hw := o.writes_draft e
  refine after_setters_congr hw.backend hw.hidden rfl fun f => ?_
  rw [Setting.lastKept?_congr hs, Setting.lastKept?_append, Setting.lastKept?_given h, hw.value,
    Option.or_assoc]

theorem step_loadDraft {file : Settings.File} {context : Table Value}
    (h : Settings.load file s.environment context = .ok (.map es)) :
    s.step (.loadDraft label e file context) =
      match Draft.ofSettings e s.surroundings es with
      | .ok d => (⟨[.loading file.path], .ok .done⟩, s.store label (.draft d))
      | .error x => (⟨[.loading file.path], .error x⟩, s) := by
  have hf : Draft.ofFile e s.surroundings context file =
      ⟨[.loading file.path], Draft.ofSettings e s.surroundings es⟩ := Draft.ofFile_of_load h e
  rw [step, carryOut, run_bind, run_look, hf]
  cases Draft.ofSettings e s.surroundings es <;> rfl

/-- A context can be built from the draft of a file exactly if the file gives all directories. -/
theorem build_of_draft (h : Overlay.ofEntries es = .ok o)
    (hd : s.draft label = .ok (o.draft e)) (l : String) :
    (∀ f, (s.step (.build label l)).1.result = .error (.missingSetting f) ↔
      Setting.directories.find? (fun g => (g.valueIn? es).isNone) = some f) ∧
    ((∃ c, (s.step (.build label l)).1.result = .ok (.context c)) ↔
      ∀ g ∈ Setting.directories, (g.valueIn? es).isSome) := by
  have hvalue : ∀ g ∈ Setting.directories,
      ((o.draft e).value? g).isSome = (g.valueIn? es).isSome := by
    intro g hg
    rw [o.value?_draft, Setting.initial?_of_mem_directories hg, Option.or_none,
      Overlay.isSome_value? h]
  have he := o.isDeclared_draft e
  constructor
  · intro f
    rw [build_eq_missing_iff hd he.hidden, List.find?_congr fun g hg => ?_]
    rw [← Option.not_isSome, ← Option.not_isSome, hvalue g hg]
  · rw [exists_build_iff hd he]
    exact forall₂_congr fun g hg => by rw [hvalue g hg]

/-- Loading a file whose entries are known. The first reference to a variable that is not set
is reported, whatever else is wrong with the entries, then what validation rejects. Otherwise
the session is the one in which a fresh draft was made and setters were called with the
validated values of the entries that are not null, and it stays the one if setters are called
afterwards, in whichever order calls for different settings come. So a context can be built
exactly if the file gives all directories. -/
theorem loadDraft_eq_setters (s : Session) (label : String) (e : Engine) (file : Settings.File)
    (context : Table Value) {es : List (Value × Value)}
    (h : Settings.load file s.environment context = .ok (.map es)) :
    let r := s.step (.loadDraft label e file context)
    let fs := expandedEntries s.surroundings es
    (∀ u, firstUnset? s.surroundings es = some u → r.1.result = .error (.unsetVariable u)) ∧
    (firstUnset? s.surroundings es = none → ¬ Overlay.Fits fs →
      ∃ is, r.1.result = .error (.rejected .overlay is)) ∧
    (firstUnset? s.surroundings es = none → Overlay.Fits fs →
      r.1.result = .ok .done ∧
      (∀ more hand, SameCalls hand (given fs ++ more) →
        r.2.after (setters label more) = s.after (.newDraft label e :: setters label hand)) ∧
      (∀ f, (∃ w, (f, w) ∈ given fs) ↔ (f.valueIn? es).isSome) ∧
      ∀ l,
        (∀ f, (r.2.step (.build label l)).1.result = .error (.missingSetting f) ↔
          Setting.directories.find? (fun g => (g.valueIn? es).isNone) = some f) ∧
        ((∃ c, (r.2.step (.build label l)).1.result = .ok (.context c)) ↔
          ∀ g ∈ Setting.directories, (g.valueIn? es).isSome)) := by
  intro r fs
  have hr : r = _ := step_loadDraft h
  rw [Draft.ofSettings_eq] at hr
  refine ⟨fun u hu => ?_, fun hn hf => ?_, fun hn hf => ?_⟩
  · rw [hr, hu]
  · cases ho : Overlay.ofEntries (expandedEntries s.surroundings es) with
    | error is => exact ⟨is, by rw [hr, hn, ho]⟩
    | ok o => exact absurd (Overlay.exists_ofEntries_iff.mp ⟨o, ho⟩) hf
  · obtain ⟨o, ho⟩ : ∃ o, Overlay.ofEntries (expandedEntries s.surroundings es) = .ok o :=
      Overlay.exists_ofEntries_iff.mpr hf
    have hr : r = (⟨[.loading file.path], .ok .done⟩,
        s.store label (.draft (o.draft e))) := by
      rw [hr, hn, ho]
    have hentry := Setting.valueIn?_expandedEntries s.surroundings es
    refine ⟨by rw [hr], fun more hand hs => ?_, fun f => ?_, fun l => ?_⟩
    · rw [hr]
      exact after_setters_draft ho s e hs
    · rw [← hentry]
      exact hf.exists_mem_given f
    · have hd : r.2.draft label = .ok (o.draft e) := by
        rw [hr]
        exact draft_store s label _
      have hb := build_of_draft ho hd l
      simp only [← Option.not_isSome, hentry] at hb ⊢
      exact hb

/-- A file with a template expression, references, a null and a list, which gives one
directory of three. -/
def partialFile : Settings.File :=
  ⟨.ofText "/f.hcl", some "config_dir = \"\x7b\x7b d \x7d\x7d/$\x7bCWD\x7d\"
cache_dir = null
extra_nix_args = [\"-v\", \"$\x7benv.A\x7d\"]
".toUTF8⟩

/-- The values of the file, before references are expanded. -/
def partialEntries : List (Value × Value) :=
  [(.str "config_dir", .str "/c/$\x7bCWD\x7d"), (.str "cache_dir", .null),
    (.str "extra_nix_args", .list [.str "-v", .str "$\x7benv.A\x7d"])]

/-- A session with a variable that the file refers to. -/
def partialSession : Session :=
  .start ⟨Table.ofList [("A", "x")], "/w"⟩

theorem loadDraft_partialFile :
    let r := partialSession.step (.loadDraft "b" (.commandLine .plain) partialFile
      (Table.ofList [("d", .str "/c")]))
    r.1.result = .ok .done ∧
    (r.2.step (.build "b" "c")).1.result = .error (.missingSetting .cacheDir) ∧
    r.2.after (setters "b" [(.dataDir, .str "/d"), (.cacheDir, .str "/k")]) =
      partialSession.after (.newDraft "b" (.commandLine .plain) ::
        setters "b" [(.extraArgs, .list [.str "-v", .str "x"]), (.cacheDir, .str "/k"),
          (.configDir, .path (.ofText "/c//w")), (.dataDir, .str "/d")]) := by
  have hload : Settings.load partialFile partialSession.environment
      (Table.ofList [("d", .str "/c")]) = .ok (.map partialEntries) := by decide +kernel
  have hset : firstUnset? partialSession.surroundings partialEntries = none := by decide +kernel
  have hfits : Overlay.Fits (expandedEntries partialSession.surroundings partialEntries) :=
    Overlay.exists_ofEntries_iff.mp
      ⟨⟨some (.ofText "/c//w"), none, none, none, some ["-v", "x"]⟩, by decide +kernel⟩
  have hgiven : given (expandedEntries partialSession.surroundings partialEntries) =
      [(.configDir, .path (.ofText "/c//w")), (.extraArgs, .list [.str "-v", .str "x"])] := by
    decide +kernel
  obtain ⟨-, -, hloaded⟩ :=
    loadDraft_eq_setters partialSession "b" (.commandLine .plain) partialFile _ hload
  obtain ⟨hok, hsetters, -, hbuild⟩ := hloaded hset hfits
  refine ⟨hok, ((hbuild "c").1 .cacheDir).mpr (by decide +kernel), hsetters _ _ fun f => ?_⟩
  rw [hgiven]
  cases f <;> rfl

end Session

end NixContext
