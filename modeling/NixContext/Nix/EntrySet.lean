import NixContext.Text.Raw

/-! # Ordered sets of entries

The entries of a set option are non-empty, hold no blanks and are distinct. They stand in
the order of their first occurrence. Raw texts are entries under the same conditions.
-/

namespace NixContext.Nix

/-- An entry that can stand in a list separated by blanks. -/
def isEntry (e : String) : Bool :=
  e != "" && !e.toList.any Text.isBlank

/-- A raw text that can stand in a list separated by blanks. -/
def isRawEntry (e : RawText) : Bool :=
  e != [] && !e.any RawChar.isBlank

section Distinct

variable {α : Type} [BEq α] [LawfulBEq α] {e : α} {es : List α}

/-- The texts without repetitions, each at its first occurrence. -/
def distinct : List α → List α
  | [] => []
  | e :: es => e :: (distinct es).filter (· != e)

theorem mem_distinct : e ∈ distinct es ↔ e ∈ es := by
  induction es with
  | nil => simp [distinct]
  | cons d es ih =>
    by_cases h : e = d
    · simp [distinct, h]
    · simp [distinct, h, ih]

theorem nodup_distinct (es : List α) : (distinct es).Nodup := by
  induction es with
  | nil => simp [distinct]
  | cons d es ih =>
    simp only [distinct, List.nodup_cons]
    exact ⟨by simp, List.filter_sublist.nodup ih⟩

theorem distinct_of_nodup (h : es.Nodup) : distinct es = es := by
  induction es with
  | nil => rfl
  | cons d es ih =>
    obtain ⟨hd, hn⟩ := List.nodup_cons.mp h
    rw [distinct, ih hn]
    congr 1
    exact List.filter_eq_self.mpr fun a ha => by
      simp only [bne_iff_ne, ne_eq]; rintro rfl; exact hd ha

end Distinct

/-- An ordered set of texts of some kind that pass a test. -/
structure EntrySetOf {α : Type} (isEntry : α → Bool) where
  entries : List α
  nodup : entries.Nodup
  valid : ∀ e ∈ entries, isEntry e

namespace EntrySetOf

variable {α : Type} {isEntry : α → Bool}

@[ext] theorem ext {s t : EntrySetOf isEntry} (h : s.entries = t.entries) : s = t := by
  cases s; cases t; simp_all

instance [DecidableEq α] : DecidableEq (EntrySetOf isEntry) := fun s t =>
  decidable_of_iff (s.entries = t.entries) ⟨EntrySetOf.ext, fun h => h ▸ rfl⟩

instance [Repr α] : Repr (EntrySetOf isEntry) where
  reprPrec s n := reprPrec s.entries n

variable [BEq α] [LawfulBEq α]

variable (isEntry) in
/-- The set of the given texts, or the first text that is no entry. -/
def ofList (es : List α) : Except α (EntrySetOf isEntry) :=
  match h : es.find? (fun e => !isEntry e) with
  | some e => .error e
  | none => .ok ⟨distinct es, nodup_distinct es, fun e he => by
      simpa using List.find?_eq_none.mp h e (mem_distinct.mp he)⟩

variable {e : α} {es : List α}

theorem ofList_of_find?_eq_some (h : es.find? (fun e => !isEntry e) = some e) :
    ofList isEntry es = .error e := by
  unfold ofList
  split
  · next d hd => rw [Option.some.inj (hd.symm.trans h)]
  · next hn => cases hn.symm.trans h

theorem ofList_of_find?_eq_none (h : es.find? (fun e => !isEntry e) = none) :
    ∃ s, ofList isEntry es = .ok s ∧ s.entries = distinct es := by
  unfold ofList
  split
  · next d hd => cases hd.symm.trans h
  · exact ⟨_, rfl, rfl⟩

theorem ofList_entries (s : EntrySetOf isEntry) : ofList isEntry s.entries = .ok s := by
  have hfind : s.entries.find? (fun e => !isEntry e) = none :=
    List.find?_eq_none.mpr fun e he => by simp [s.valid e he]
  obtain ⟨t, ht, hentries⟩ := ofList_of_find?_eq_none hfind
  rw [ht, ext (hentries.trans (distinct_of_nodup s.nodup))]

end EntrySetOf

/-- An ordered set of entries. -/
abbrev EntrySet : Type :=
  EntrySetOf isEntry

/-- An ordered set of raw entries. -/
abbrev RawEntrySet : Type :=
  EntrySetOf isRawEntry

end NixContext.Nix
