import NixContext.Proofs.Hcl.Literal
import NixContext.Proofs.Template.Output
import NixContext.Settings

/-! # Values in settings templates

A template inserts a value as it is, and the settings language reads the result. A value that
stays inside its string cannot touch another setting, and it is read back unchanged exactly if it
has no escape (`load_templateLine`). A value with a quote can end its string and add a setting
(`not_forall_load_templateLine`).
-/

namespace NixContext.Settings

open Hcl (IsName attributeLine StaysInside HasNoEscape unescape)
open Template (outputTag Datum)

section Names

/-- Inserting entries into a table one by one, their names have their values. -/
theorem find?_foldl_insert {α : Type} {es : List (String × α)} (hn : (es.map Prod.fst).Nodup)
    (t : Table α) (k : String) :
    (es.foldl (fun t e => t.insert e.1 e.2) t).find? k = (es.lookup k).or (t.find? k) := by
  induction es generalizing t with
  | nil => rfl
  | cons e es ih =>
    obtain ⟨l, w⟩ := e
    obtain ⟨hl, hn⟩ := List.nodup_cons.mp hn
    rw [List.foldl_cons, ih hn, Table.find?_insert, List.lookup_cons]
    by_cases hk : k = l
    · subst hk
      have hnone : es.lookup k = none := by
        rw [List.lookup_eq_none_iff]
        intro e he
        have hne : k ≠ e.1 := fun h => hl (List.mem_map.mpr ⟨e, he, h.symm⟩)
        simpa using hne
      simp [hnone]
    · have hb : (k == l) = false := by simpa using hk
      simp [hk, hb]

theorem lookup_map_toList (g : Value → Datum) (es : List (String × Value)) (k : String) :
    (es.map fun e => (e.1.toList, g e.2)).lookup k.toList = (es.lookup k).map g := by
  induction es with
  | nil => rfl
  | cons e es ih =>
    rw [List.map_cons, List.lookup_cons, List.lookup_cons, ih]
    by_cases hk : k = e.1
    · simp [hk]
    · have hb : (k == e.1) = false := by simpa using hk
      have hl : (k.toList == e.1.toList) = false := by
        simpa using fun h => hk (String.toList_inj.mp h)
      simp only [hb, hl]

/-- A template finds what the caller supplies. -/
theorem lookup_names {context : Table Value} {k : String} {v : Value}
    (h : context.find? k = some v) (environment : Table String) :
    (names environment context).lookup k.toList = some (Datum.ofValue v) := by
  have hfind := find?_foldl_insert context.nodup
    (Table.ofList [("env", environmentValue environment)]) k
  rw [Table.find?] at h hfind
  rw [names, lookup_map_toList, hfind, h]
  rfl

end Names

/-- Text without quotes, backslashes, line breaks, braces, dollar and percent signs. -/
def Plain (s : List Char) : Prop :=
  ∀ c ∈ s, c ∉ ['"', '\\', '\n', '\x7b', '\x7d', '$', '%']

variable {k a b v : List Char} {f : File} {context : Table Value}

theorem Plain.not_mem {s : List Char} (h : Plain s) {c : Char}
    (hc : c ∈ ['"', '\\', '\n', '\x7b', '\x7d', '$', '%']) : c ∉ s :=
  fun hs => h c hs hc

/-- A template of one line whose output stands in a string renders to the line with the value
in the string, whether or not the line ends. -/
theorem render_templateLine {s : List Char} {names : List (List Char × Datum)} (hk : IsName k)
    (ha : Plain a) (hb : Plain b)
    (hs : s = attributeLine k (a ++ (outputTag ++ b)) ∨
      s = attributeLine k (a ++ (outputTag ++ b)) ++ ['\n'])
    (hv : names.lookup ['x'] = some (.str v)) :
    Template.render s names = .ok (attributeLine k (a ++ (v ++ b))) := by
  have hline : ∀ t, attributeLine k (a ++ (t ++ b)) =
      (k ++ ' ' :: '=' :: ' ' :: '"' :: a) ++ (t ++ (b ++ ['"'])) := by
    intro t
    simp [attributeLine]
  have hbreak : Template.dropFinalBreak s = attributeLine k (a ++ (outputTag ++ b)) := by
    rcases hs with rfl | rfl
    · refine Template.dropFinalBreak_of_ne ?_
      rw [hline, ← List.append_assoc, ← List.append_assoc, List.getLast?_concat]
      decide
    · exact Template.dropFinalBreak_append _
  rw [hline] at hbreak ⊢
  refine Template.render_output hbreak (by simp) ?_ (by simp) ?_ hv
  · have hkb : '\x7b' ∉ k := hk.not_mem (by decide)
    simp [hkb, ha.not_mem]
  · simp [hb.not_mem]

/-- A value between plain texts stays inside their string if it does on its own. -/
theorem staysInside_append (ha : Plain a) (hb : Plain b) (hv : StaysInside v) :
    StaysInside (a ++ (v ++ b)) :=
  (hv.append_right (hb.not_mem (by decide)) (hb.not_mem (by decide))
    (hb.not_mem (by decide))).append_left (ha.not_mem (by decide)) (ha.not_mem (by decide))
    (ha.not_mem (by decide))

theorem mapError_eq_ok_iff {α β γ : Type} {r : Except α γ} {g : α → β} {x : γ} :
    r.mapError g = .ok x ↔ r = .ok x := by
  cases r <;> simp [Except.mapError]

/-- What a template line gives for every value of its output. The line is read with the value
in place. If the value stays inside its string, no other setting comes of it: the line is
rejected or gives its own setting alone, with escapes resolved. The setting is the text around
the output with the value in place exactly if no backslash in the value stands before a character
that it escapes, a line feed or the closing quote. -/
theorem load_templateLine (environment : Table String) {v : String} (hk : IsName k)
    (ha : Plain a) (hb : Plain b)
    (hf : f.text = .ok (attributeLine k (a ++ (outputTag ++ b))) ∨
      f.text = .ok (attributeLine k (a ++ (outputTag ++ b)) ++ ['\n']))
    (hx : context.find? "x" = some (.str v)) :
    let key := Value.str (String.ofList k)
    let whole := a ++ (v.toList ++ b)
    load f environment context = (Hcl.read (attributeLine k whole)).mapError .settings ∧
    (StaysInside v.toList →
      (load f environment context = .ok (.map [(key, .str (String.ofList (unescape whole)))]) ∨
        load f environment context = .error (.settings .malformed)) ∧
      (load f environment context = .ok (.map [(key, .str (String.ofList whole))]) ↔
        HasNoEscape (v.toList ++ b ++ ['"']))) := by
  intro key whole
  have hload : load f environment context =
      (Hcl.read (attributeLine k whole)).mapError .settings := by
    have hv : (names environment context).lookup ['x'] = some (.str v.toList) :=
      lookup_names hx environment
    obtain ⟨s, htext, hs⟩ : ∃ s, f.text = .ok s ∧
        (s = attributeLine k (a ++ (outputTag ++ b)) ∨
          s = attributeLine k (a ++ (outputTag ++ b)) ++ ['\n']) := by
      rcases hf with h | h
      · exact ⟨_, h, .inl rfl⟩
      · exact ⟨_, h, .inr rfl⟩
    rw [load, htext]
    show (Template.render s _).mapError _ >>= _ = _
    rw [render_templateLine hk ha hb hs hv]
    rfl
  refine ⟨hload, fun hv => ?_⟩
  obtain ⟨hread, hiff⟩ := Hcl.read_attributeLine hk (staysInside_append ha hb hv)
  have hescape : HasNoEscape (whole ++ ['"']) ↔ HasNoEscape (v.toList ++ b ++ ['"']) := by
    rw [show whole ++ ['"'] = a ++ (v.toList ++ b ++ ['"']) by simp [whole],
      Hcl.hasNoEscape_append (ha.not_mem (by decide))]
  rw [hload, ← hescape, ← hiff]
  constructor
  · exact hread.imp (fun h => by rw [h]; rfl) fun h => by rw [h]; rfl
  · exact mapError_eq_ok_iff

/-- A file of a single line with an output in a string. -/
def lineFile : File :=
  ⟨.ofText "/f.hcl", some "dir = \"/a/\x7b\x7b x \x7d\x7d/b\"\n".toUTF8⟩

theorem load_lineFile : load lineFile ∅ (Table.ofList [("x", .str "c \\d\n'#")]) =
    .ok (.map [(.str "dir", .str "/a/c \\d\n'#/b")]) := by
  have hf : lineFile.text = .ok (attributeLine ['d', 'i', 'r']
      (['/', 'a', '/'] ++ (outputTag ++ ['/', 'b'])) ++ ['\n']) := by
    decide +kernel
  have hk : IsName ['d', 'i', 'r'] := ⟨'d', ['i', 'r'], rfl, rfl, by simp [Hcl.isNameRest]⟩
  have hx : (Table.ofList [("x", Value.str "c \\d\n'#")]).find? "x" =
      some (.str "c \\d\n'#") := by decide +kernel
  have hv : StaysInside "c \\d\n'#".toList := by simp [StaysInside]
  have hn : HasNoEscape ("c \\d\n'#".toList ++ ['/', 'b'] ++ ['"']) := by
    simp only [HasNoEscape, Hcl.escapable, List.forall_mem_cons, List.not_mem_nil, false_imp_iff,
      implies_true, and_true]
    decide +kernel
  obtain ⟨-, hload⟩ := load_templateLine ∅ hk (by simp [Plain]) (by simp [Plain]) (.inr hf) hx
  exact ((hload hv).2.mpr hn).trans (by decide +kernel)

/-- A value can add a setting. -/
theorem not_forall_load_templateLine : ¬ ∀ (k a b : List Char) (f : File)
    (environment : Table String) (context : Table Value) (v : String),
    IsName k → Plain a → Plain b → f.text = .ok (attributeLine k (a ++ (outputTag ++ b))) →
    context.find? "x" = some (.str v) →
    load f environment context =
      .ok (.map [(.str (String.ofList k), .str (String.ofList (a ++ (v.toList ++ b))))]) := by
  intro h
  have hadded : load ⟨.ofText "/f.hcl", some "a = \"\x7b\x7b x \x7d\x7d\"".toUTF8⟩ ∅
      (Table.ofList [("x", .str "\"\nb = \"c")]) =
        .ok (.map [(.str "a", .str ""), (.str "b", .str "c")]) := by
    decide +kernel
  have hclaimed := h ['a'] [] [] ⟨.ofText "/f.hcl", some "a = \"\x7b\x7b x \x7d\x7d\"".toUTF8⟩ ∅
    (Table.ofList [("x", .str "\"\nb = \"c")]) "\"\nb = \"c"
    ⟨'a', [], rfl, by decide, by simp⟩ (by simp [Plain]) (by simp [Plain]) (by decide +kernel)
    (by decide +kernel)
  rw [hadded] at hclaimed
  simp at hclaimed

end NixContext.Settings
