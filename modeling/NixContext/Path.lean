/-! # Path texts

A path is its normal text: components separated by single slashes, without empty or dot
components. Two leading slashes are kept, any other number of them counts as one. The normal
text is defined for any kind of characters, of which one is the slash and one the dot.
-/

namespace NixContext

namespace Path

variable {α : Type} [DecidableEq α] (slash dot : α)

/-- The slashes that are kept at the front. -/
def root (s : List α) : List α :=
  match (s.takeWhile (· = slash)).length with
  | 0 => []
  | 2 => [slash, slash]
  | _ => [slash]

/-- A component that is kept: neither empty nor a dot. -/
def isProper (p : List α) : Bool :=
  p != [] && p != [dot]

/-- The components that are kept. -/
def components (s : List α) : List (List α) :=
  (s.splitOn slash).filter (isProper dot)

/-- The text of a path with the given root and components. -/
def build (r : List α) (ps : List (List α)) : List α :=
  if r = [] ∧ ps = [] then [dot] else r ++ [slash].intercalate ps

/-- The normal text of a path. -/
def normalize (s : List α) : List α :=
  build slash dot (root slash s) (components slash dot s)

/-- Proper components hold no slash. -/
def ProperComponents (ps : List (List α)) : Prop :=
  ∀ p ∈ ps, isProper dot p ∧ slash ∉ p

variable {slash dot} {s p r t : List α} {ps : List (List α)}

theorem slash_not_mem_of_mem_splitOn (h : p ∈ s.splitOn slash) : slash ∉ p := by
  induction s generalizing p with
  | nil => simp_all
  | cons c s ih =>
    rw [List.splitOn_cons_eq_if_modifyHead] at h
    split at h
    · rcases List.mem_cons.mp h with rfl | h
      · exact List.not_mem_nil
      · exact ih h
    · next hc =>
      -- the first piece grows by a character that is no slash
      obtain ⟨q, qs, hq⟩ := List.exists_cons_of_ne_nil (List.splitOn_ne_nil slash s)
      rw [hq] at h ih
      rcases List.mem_cons.mp h with rfl | h
      · have hslash : ¬ slash = c := fun e => hc (beq_iff_eq.mpr e.symm)
        simp [hslash, ih (.head _)]
      · exact ih (.tail _ h)

theorem properComponents_components (s : List α) :
    ProperComponents slash dot (components slash dot s) := by
  intro p hp
  obtain ⟨hm, hp⟩ := List.mem_filter.mp hp
  exact ⟨hp, slash_not_mem_of_mem_splitOn hm⟩

theorem components_slash (s : List α) :
    components slash dot (slash :: s) = components slash dot s := by
  simp [components, List.splitOn_cons_eq_if_modifyHead, isProper]

theorem components_intercalate (h : ProperComponents slash dot ps) :
    components slash dot ([slash].intercalate ps) = ps := by
  cases ps with
  | nil => rfl
  | cons p ps =>
    unfold components
    rw [List.splitOn_intercalate slash (fun q hq => (h q hq).2) (by simp)]
    exact List.filter_eq_self.mpr fun q hq => (h q hq).1

theorem takeWhile_intercalate (h : ProperComponents slash dot ps) :
    ([slash].intercalate ps).takeWhile (· = slash) = [] := by
  cases ps with
  | nil => rfl
  | cons p ps =>
    obtain ⟨hp, hn⟩ := h p (.head _)
    cases p with
    | nil => simp [isProper] at hp
    | cons c p =>
      have hc : ¬ c = slash := fun e => hn (e ▸ .head _)
      cases ps <;> simp [hc]

theorem root_eq (s : List α) :
    root slash s = [] ∨ root slash s = [slash] ∨ root slash s = [slash, slash] := by
  unfold root
  split <;> simp

theorem root_append (hr : r = [] ∨ r = [slash] ∨ r = [slash, slash])
    (ht : t.takeWhile (· = slash) = []) : root slash (r ++ t) = r := by
  rcases hr with rfl | rfl | rfl <;> simp [root, ht]

theorem components_append (hr : r = [] ∨ r = [slash] ∨ r = [slash, slash]) (t : List α) :
    components slash dot (r ++ t) = components slash dot t := by
  rcases hr with rfl | rfl | rfl <;> simp [components_slash]

/-- A normal text is left alone. -/
theorem normalize_normalize (hne : dot ≠ slash) (s : List α) :
    normalize slash dot (normalize slash dot s) = normalize slash dot s := by
  have hp : ProperComponents slash dot (components slash dot s) := properComponents_components s
  have hr := @root_eq α _ slash s
  unfold normalize
  generalize root slash s = r at hr
  generalize components slash dot s = ps at hp
  by_cases hz : r = [] ∧ ps = []
  · obtain ⟨rfl, rfl⟩ := hz
    have hsplit : [dot].splitOn slash = [[dot]] :=
      List.splitOn_eq_singleton (by simpa using hne.symm)
    simp [build, root, components, hsplit, isProper, hne]
  · have hb : build slash dot r ps = r ++ [slash].intercalate ps := by
      simp only [build, hz, if_false]
    rw [hb, root_append hr (takeWhile_intercalate hp), components_append hr,
      components_intercalate hp, hb]

end Path

/-- A path, as its normal text. -/
structure PathOf {α : Type} [DecidableEq α] (slash dot : α) where
  chars : List α
  isNormal : Path.normalize slash dot chars = chars

namespace PathOf

variable {α : Type} [DecidableEq α] {slash dot : α}

@[ext] theorem ext {p q : PathOf slash dot} (h : p.chars = q.chars) : p = q := by
  cases p; cases q; simp_all

instance : DecidableEq (PathOf slash dot) := fun p q =>
  decidable_of_iff (p.chars = q.chars) ⟨PathOf.ext, fun h => h ▸ rfl⟩

/-- The path a text names. -/
def ofChars (hne : dot ≠ slash) (s : List α) : PathOf slash dot :=
  ⟨Path.normalize slash dot s, Path.normalize_normalize hne s⟩

@[simp] theorem ofChars_chars (hne : dot ≠ slash) (p : PathOf slash dot) :
    ofChars hne p.chars = p :=
  ext p.isNormal

end PathOf

/-- A path of characters. -/
abbrev Path : Type :=
  PathOf '/' '.'

namespace Path

/-- The path a text names. -/
def ofText (s : String) : Path :=
  .ofChars (by decide) s.toList

/-- The text of a path. -/
def text (p : Path) : String :=
  String.ofList p.chars

@[simp] theorem ofText_text (p : Path) : ofText p.text = p := by
  rw [ofText, text, String.toList_ofList, PathOf.ofChars_chars]

end Path

instance : Repr Path where
  reprPrec p _ := repr p.text

end NixContext
