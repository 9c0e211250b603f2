import NixContext.Installable
import NixContext.Proofs.Text.Separator
import Mathlib.Data.List.Basic

/-! # Texts of installables

A text denotes an installable if something stands before its first number sign. The installable
is written as the text again, unless its only number sign is the last character, which is left out.
Conversely an installable can be read back from its text exactly if its flake reference is not
empty and holds no number sign (`Installable.text_corresponds`).
-/

namespace NixContext.Installable

variable {s f a : String} {i : Installable}

/-- A text without its last character if that is a number sign and the only one. -/
def dropLoneSign (s : String) : String :=
  if s.toList.getLast? = some '#' ∧ s.toList.count '#' = 1 then String.ofList s.toList.dropLast
  else s

theorem ofText?_of_not_mem (hne : s ≠ "") (hs : '#' ∉ s.toList) : ofText? s = some ⟨s, ""⟩ := by
  simp [ofText?, takeWhile_bne_of_not_mem hs, dropWhile_bne_of_not_mem hs, hne]

theorem ofText?_append (hne : f ≠ "") (hf : '#' ∉ f.toList) (a : String) :
    ofText? (f ++ "#" ++ a) = some ⟨f, a⟩ := by
  have hsplit : (f ++ "#" ++ a).toList = f.toList ++ '#' :: a.toList := by simp
  simp [ofText?, hsplit, takeWhile_bne_append hf, dropWhile_bne_append hf, hne]

theorem ofText?_sign (a : String) : ofText? ("#" ++ a) = none := by
  simp [ofText?]

/-- Without a number sign a text is a flake reference; otherwise it is what stands before and behind
the first one. -/
theorem text_cases (s : String) :
    '#' ∉ s.toList ∨ ∃ f a, '#' ∉ f.toList ∧ s = f ++ "#" ++ a := by
  by_cases hs : '#' ∈ s.toList
  · obtain ⟨f, a, hsplit, hf⟩ := List.eq_append_cons_of_mem hs
    refine .inr ⟨String.ofList f, String.ofList a, by simpa using hf, ?_⟩
    rw [← String.toList_inj, hsplit]
    simp
  · exact .inl hs

section Writing

theorem text_of_attrPath_empty (f : String) : text ⟨f, ""⟩ = f :=
  if_pos rfl

theorem text_of_attrPath (ha : a ≠ "") (f : String) : text ⟨f, a⟩ = f ++ "#" ++ a :=
  if_neg ha

theorem dropLoneSign_of_not_mem (hs : '#' ∉ s.toList) : dropLoneSign s = s := by
  refine if_neg ?_
  rintro ⟨hlast, -⟩
  exact hs (List.mem_of_getLast? hlast)

theorem dropLoneSign_append_sign (hf : '#' ∉ f.toList) : dropLoneSign (f ++ "#" ++ "") = f := by
  have hcount : f.toList.count '#' = 0 := List.count_eq_zero.mpr hf
  simp [dropLoneSign, hcount]

theorem dropLoneSign_append (ha : a ≠ "") (f : String) :
    dropLoneSign (f ++ "#" ++ a) = f ++ "#" ++ a := by
  refine if_neg ?_
  rintro ⟨hlast, hcount⟩
  have hne : a.toList ≠ [] := by simpa using ha
  rw [String.toList_append, List.getLast?_append_of_ne_nil _ hne] at hlast
  -- the last character stands behind the number sign, so it would be a second one
  have hsecond : 0 < a.toList.count '#' := List.count_pos_iff.mpr (List.mem_of_getLast? hlast)
  simp at hcount
  omega

end Writing

section Reading

theorem ofText?_eq_none_iff (s : String) :
    ofText? s = none ↔ s = "" ∨ s.toList.head? = some '#' := by
  rcases text_cases s with hs | ⟨f, a, hf, rfl⟩
  · have hhead : s.toList.head? ≠ some '#' := fun h => hs (List.mem_of_head? h)
    by_cases hne : s = ""
    · simp [hne, ofText?]
    · simp [ofText?_of_not_mem hne hs, hne, hhead]
  · by_cases hne : f = ""
    · simp [hne, ofText?_sign]
    · have hhead : f.toList.head? ≠ some '#' := fun h => hf (List.mem_of_head? h)
      obtain ⟨c, l, hcl⟩ := List.exists_cons_of_ne_nil (l := f.toList) (by simpa using hne)
      rw [hcl] at hhead
      simp_all [ofText?_append hne hf]

theorem of_ofText?_eq_some (h : ofText? s = some i) :
    (i.flakeRef ≠ "" ∧ '#' ∉ i.flakeRef.toList) ∧
      (s = i.flakeRef ∧ i.attrPath = "" ∨ s = i.flakeRef ++ "#" ++ i.attrPath) := by
  rcases text_cases s with hs | ⟨f, a, hf, rfl⟩
  · have hne : s ≠ "" := by
      rintro rfl
      cases h
    cases (ofText?_of_not_mem hne hs).symm.trans h
    exact ⟨⟨hne, hs⟩, .inl ⟨rfl, rfl⟩⟩
  · have hne : f ≠ "" := by
      rintro rfl
      rw [String.empty_append, ofText?_sign] at h
      cases h
    cases (ofText?_append hne hf a).symm.trans h
    exact ⟨⟨hne, hf⟩, .inr rfl⟩

theorem ofText?_text_iff (i : Installable) :
    ofText? i.text = some i ↔ i.flakeRef ≠ "" ∧ '#' ∉ i.flakeRef.toList := by
  constructor
  · intro h
    exact (of_ofText?_eq_some h).1
  · rintro ⟨hne, hf⟩
    obtain ⟨f, a⟩ := i
    by_cases ha : a = ""
    · rw [ha, text_of_attrPath_empty]
      exact ofText?_of_not_mem hne hf
    · rw [text_of_attrPath ha]
      exact ofText?_append hne hf a

theorem text_of_ofText? (h : ofText? s = some i) : i.text = dropLoneSign s := by
  obtain ⟨f, a⟩ := i
  obtain ⟨⟨-, hf⟩, ⟨rfl, rfl⟩ | rfl⟩ := of_ofText?_eq_some h
  · rw [text_of_attrPath_empty, dropLoneSign_of_not_mem hf]
  · by_cases ha : a = ""
    · subst ha
      rw [text_of_attrPath_empty, dropLoneSign_append_sign hf]
    · rw [text_of_attrPath ha, dropLoneSign_append ha]

end Reading

theorem ofEntries_of_texts (f a : String) :
    ofEntries [(.str "flakeref", .str f), (.str "attr_path", .str a)] = .ok ⟨f, a⟩ :=
  rfl

/-- The empty text and those that begin with a number sign denote no installable. Any other text is
that of the installable it denotes, but for a number sign at the end that is the only one, and what
the written text denotes is the same installable. Installables may have any two texts as their
parts; those that their text denotes are the ones whose flake reference is neither empty nor holds a
number sign. -/
theorem text_corresponds :
    (∀ s, (ofText? s = none ↔ s = "" ∨ s.toList.head? = some '#') ∧
      ∀ i, ofText? s = some i → i.text = dropLoneSign s ∧ ofText? i.text = some i) ∧
    ∀ i : Installable,
      ofEntries [(.str "flakeref", .str i.flakeRef), (.str "attr_path", .str i.attrPath)] = .ok i ∧
      (ofText? i.text = some i ↔ i.flakeRef ≠ "" ∧ '#' ∉ i.flakeRef.toList) := by
  refine ⟨fun s => ⟨ofText?_eq_none_iff s, fun i h => ⟨text_of_ofText? h, ?_⟩⟩, fun i => ⟨?_, ?_⟩⟩
  · exact (ofText?_text_iff i).mpr (of_ofText?_eq_some h).1
  · exact ofEntries_of_texts i.flakeRef i.attrPath
  · exact ofText?_text_iff i

/-- Texts with a number sign in the middle, at the end, twice and at the beginning, and an
installable with one in its flake reference. -/
theorem text_corresponds_signs :
    (text ⟨"a", "b"⟩ = "a#b" ∧ ofText? (text ⟨"a", "b"⟩) = some ⟨"a", "b"⟩) ∧
    (text ⟨"a", ""⟩ = "a" ∧ ofText? (text ⟨"a", ""⟩) = some ⟨"a", ""⟩) ∧
    (text ⟨"a", "#"⟩ = "a##" ∧ ofText? (text ⟨"a", "#"⟩) = some ⟨"a", "#"⟩) ∧
    ofText? "#b" = none ∧ ofText? (text ⟨"a#b", ""⟩) ≠ some ⟨"a#b", ""⟩ := by
  obtain ⟨hread, hwritten⟩ := text_corresponds
  refine ⟨?_, ?_, ?_, ?_, ?_⟩
  · exact (hread "a#b").2 ⟨"a", "b"⟩ (by decide)
  · exact (hread "a#").2 ⟨"a", ""⟩ (by decide)
  · exact (hread "a##").2 ⟨"a", "#"⟩ (by decide)
  · exact (hread "#b").1.mpr (.inr (by decide))
  · intro h
    exact ((hwritten ⟨"a#b", ""⟩).2.mp h).2 (by decide)

end NixContext.Installable
