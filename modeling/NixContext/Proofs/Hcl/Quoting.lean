import Mathlib.Data.List.Infix
import NixContext.Hcl.Fold
import NixContext.Proofs.Text.Replace

/-! # Text between quotes

Which texts can be written between quotes as they are. A text stays inside its string if all its
quotes and interpolations are escaped. It is read back unchanged exactly if no backslash in it
stands before a character that it escapes, a line feed or the closing quote
(`StaysInside.hasNoEscape_iff`).
-/

namespace NixContext.Hcl

/-- The escapes with what they stand for, in the order in which they are resolved. -/
def escapes : List (List Char × List Char) :=
  [(['\\', 'n'], ['\n']), (['\\', 'r'], ['\r']), (['\\', 't'], ['\t']), (['\\', '"'], ['"']),
    (['\\', '\\'], ['\\'])]

/-- The characters before which a backslash does not stand for itself. -/
def escapable : List Char :=
  ['n', 'r', 't', '"', '\\', '\n']

/-- The text neither ends its string nor begins an interpolation in it; a backslash takes the
next character with it. -/
def StaysInside : List Char → Prop
  | '\\' :: _ :: s => StaysInside s
  | c :: s => c ≠ '"' ∧ ¬ (c = '$' ∧ s.head? = some '\x7b') ∧ StaysInside s
  | [] => True

/-- No backslash stands before a character that it escapes or may not precede. -/
def HasNoEscape (t : List Char) : Prop :=
  ∀ c ∈ escapable, ¬ ['\\', c] <:+: t

variable {s t : List Char} {c : Char}

theorem not_infix_cons {x y : Char} (h : ¬ (c = x ∧ s.head? = some y)) (hs : ¬ [x, y] <:+: s) :
    ¬ [x, y] <:+: c :: s := by
  rw [List.infix_cons_iff]
  rintro (hp | hi)
  · obtain ⟨rfl, r, rfl⟩ := List.cons_prefix_cons.mp hp
    exact h ⟨rfl, rfl⟩
  · exact hs hi

theorem hasNoEscape_append (h : '\\' ∉ t) : HasNoEscape (t ++ s) ↔ HasNoEscape s := by
  constructor
  · exact fun hn c hc hi => hn c hc (hi.trans (List.suffix_append t s).isInfix)
  · intro hn d hd
    induction t with
    | nil => exact hn d hd
    | cons c t ih =>
      obtain ⟨hc, ht⟩ := List.ne_and_not_mem_of_not_mem_cons h
      exact not_infix_cons (fun hh => hc hh.1.symm) (ih ht)

theorem mem_escapable : c ∈ escapable ↔ c = '\n' ∨ ∃ p ∈ escapes, p.1 = ['\\', c] := by
  simp only [escapable, escapes, List.mem_cons, List.not_mem_nil, or_false, exists_eq_or_imp,
    exists_eq_left, List.cons.injEq, true_and, and_true]
  grind

theorem unescape_eq_self_iff : unescape t = t ↔ ∀ p ∈ escapes, ¬ p.1 <:+: t := by
  have hshort : ∀ p ∈ escapes, p.2.length < p.1.length := by decide
  exact Text.foldl_replaceAll_eq_self_iff hshort

theorem stringChars_escape (h : c ≠ '\n') (s : List Char) :
    stringChars ('\\' :: c :: s) =
      ('\\' :: c :: (stringChars s).1, (stringChars s).2) := by
  rw [stringChars, if_neg h]

theorem stringChars_cons (hq : c ≠ '"') (hb : c ≠ '\\')
    (h : ¬ (c = '$' ∧ s.head? = some '\x7b')) :
    stringChars (c :: s) = (c :: (stringChars s).1, (stringChars s).2) := by
  rw [stringChars.eq_def]
  split
  · rename_i heq
    exact absurd (List.cons.inj heq).1 hb
  · rename_i heq
    obtain ⟨rfl, rfl⟩ := List.cons.inj heq
    rw [if_neg (by simpa [hq, hb] using h)]
  · rename_i heq
    cases heq

theorem staysInside_cons (h : c ≠ '\\') : StaysInside (c :: s) ↔
    c ≠ '"' ∧ ¬ (c = '$' ∧ s.head? = some '\x7b') ∧ StaysInside s := by
  rw [StaysInside.eq_def]
  split
  · rename_i heq
    exact absurd (List.cons.inj heq).1 h
  · rename_i heq
    obtain ⟨rfl, rfl⟩ := List.cons.inj heq
    rfl
  · rename_i heq
    cases heq

namespace StaysInside

/-- Induction along the characters and escapes of a string. -/
theorem induction_on {P : List Char → Prop} (nil : P []) (dangling : P ['\\'])
    (escape : ∀ c s, StaysInside s → P s → P ('\\' :: c :: s))
    (cons : ∀ c s, c ≠ '\\' → StaysInside (c :: s) → P s → P (c :: s)) :
    ∀ t, StaysInside t → P t
  | [], _ => nil
  | c :: s, h => by
    by_cases hc : c = '\\'
    · subst hc
      match s, h with
      | [], _ => exact dangling
      | d :: s, h => exact escape d s h (induction_on nil dangling escape cons s h)
    · exact cons c s hc h (induction_on nil dangling escape cons s ((staysInside_cons hc).mp h).2.2)

/-- A character that is no backslash is taken as it is. -/
theorem stringChars_cons_append (h : StaysInside (c :: s)) (hb : c ≠ '\\') :
    stringChars (c :: s ++ ['"', '\n']) =
      (c :: (stringChars (s ++ ['"', '\n'])).1, (stringChars (s ++ ['"', '\n'])).2) := by
  obtain ⟨hq, hd, -⟩ := (staysInside_cons hb).mp h
  refine stringChars_cons hq hb ?_
  rintro ⟨rfl, hs⟩
  cases s with
  | nil => cases hs
  | cons d s => exact hd ⟨rfl, hs⟩

theorem of_not_mem (hq : '"' ∉ t) (hb : '\\' ∉ t) (hi : '\x7b' ∉ t) : StaysInside t := by
  induction t with
  | nil => trivial
  | cons c t ih =>
    obtain ⟨hcq, htq⟩ := List.ne_and_not_mem_of_not_mem_cons hq
    obtain ⟨hcb, htb⟩ := List.ne_and_not_mem_of_not_mem_cons hb
    obtain ⟨-, hti⟩ := List.ne_and_not_mem_of_not_mem_cons hi
    exact (staysInside_cons hcb.symm).mpr
      ⟨hcq.symm, fun h => hti (List.mem_of_mem_head? h.2), ih htq htb hti⟩

/-- Text without quotes, backslashes and braces may follow. -/
theorem append_right (h : StaysInside s) (hq : '"' ∉ t) (hb : '\\' ∉ t) (hi : '\x7b' ∉ t) :
    StaysInside (s ++ t) := by
  refine induction_on (P := fun s => StaysInside (s ++ t)) ?nil ?dangling ?escape ?cons s h
  case nil => exact of_not_mem hq hb hi
  case dangling =>
    cases t with
    | nil => exact ⟨by decide, by decide, trivial⟩
    | cons c t =>
      have hrest : StaysInside t :=
        of_not_mem (fun h => hq (.tail _ h)) (fun h => hb (.tail _ h)) fun h => hi (.tail _ h)
      exact hrest
  case escape => exact fun c s _ ih => ih
  case cons =>
    intro c s hc hs ih
    obtain ⟨hcq, hd, -⟩ := (staysInside_cons hc).mp hs
    refine (staysInside_cons hc).mpr ⟨hcq, ?_, ih⟩
    rintro ⟨rfl, hh⟩
    cases s with
    | nil => exact hi (List.mem_of_mem_head? hh)
    | cons d s => exact hd ⟨rfl, hh⟩

/-- Text without quotes, backslashes and dollar signs may come before. -/
theorem append_left (h : StaysInside s) (hq : '"' ∉ t) (hb : '\\' ∉ t) (hd : '$' ∉ t) :
    StaysInside (t ++ s) := by
  induction t with
  | nil => exact h
  | cons c t ih =>
    obtain ⟨hcq, htq⟩ := List.ne_and_not_mem_of_not_mem_cons hq
    obtain ⟨hcb, htb⟩ := List.ne_and_not_mem_of_not_mem_cons hb
    obtain ⟨hcd, htd⟩ := List.ne_and_not_mem_of_not_mem_cons hd
    exact (staysInside_cons hcb.symm).mpr ⟨hcq.symm, fun h => hcd h.1.symm, ih htq htb htd⟩

end StaysInside

/-- The string with this text ends at the quote behind it. -/
def Closes (t : List Char) : Prop :=
  stringChars (t ++ ['"', '\n']) = (t, ['"', '\n'])

theorem closes_escape (hc : c ≠ '\n') : Closes ('\\' :: c :: s) ↔ Closes s := by
  rw [Closes, Closes, List.cons_append, List.cons_append, stringChars_escape hc]
  simp only [Prod.ext_iff, List.cons.injEq, true_and]

theorem StaysInside.closes_cons (h : StaysInside (c :: s)) (hb : c ≠ '\\') :
    Closes (c :: s) ↔ Closes s := by
  rw [Closes, Closes, h.stringChars_cons_append hb]
  simp only [Prod.ext_iff, List.cons.injEq, true_and]

/-- A text that stays inside its string closes it, or the string ends nowhere. -/
theorem StaysInside.closes_or (h : StaysInside t) :
    Closes t ∨ (stringChars (t ++ ['"', '\n'])).2 = [] ∨
      ∃ cs, (stringChars (t ++ ['"', '\n'])).2 = '\\' :: cs := by
  refine induction_on (P := fun t => Closes t ∨ (stringChars (t ++ ['"', '\n'])).2 = [] ∨
    ∃ cs, (stringChars (t ++ ['"', '\n'])).2 = '\\' :: cs) ?nil ?dangling ?escape ?cons t h
  case nil => exact .inl rfl
  case dangling => exact .inr (.inl rfl)
  case escape =>
    intro c s _ ih
    by_cases hn : c = '\n'
    · subst hn
      exact .inr (.inr ⟨_, rfl⟩)
    · rw [closes_escape hn, List.cons_append, List.cons_append, stringChars_escape hn]
      exact ih
  case cons =>
    intro c s hc hs ih
    rw [hs.closes_cons hc, hs.stringChars_cons_append hc]
    exact ih

/-- Without an escape, a text closes its string. -/
theorem StaysInside.closes_of_hasNoEscape (h : StaysInside t) (hn : HasNoEscape (t ++ ['"'])) :
    Closes t := by
  refine induction_on (P := fun t => HasNoEscape (t ++ ['"']) → Closes t) ?nil ?dangling ?escape
    ?cons t h hn
  case nil => exact fun _ => rfl
  case dangling => exact fun hn => absurd List.infix_rfl (hn '"' (by decide))
  case escape =>
    intro c s _ ih hn
    have hc : c ≠ '\n' := by
      rintro rfl
      exact hn '\n' (by decide) ⟨[], s ++ ['"'], rfl⟩
    rw [closes_escape hc]
    exact ih fun d hd hi => hn d hd (List.infix_cons (List.infix_cons hi))
  case cons =>
    intro c s hc hs ih hn
    rw [hs.closes_cons hc]
    exact ih fun d hd hi => hn d hd (List.infix_cons hi)

/-- A text that closes its string and has none of the escapes that are resolved has no backslash
before a line feed or the closing quote either. -/
theorem StaysInside.hasNoEscape_of_closes (h : StaysInside t) (hc : Closes t)
    (hp : ∀ p ∈ escapes, ¬ p.1 <:+: t) : HasNoEscape (t ++ ['"']) := by
  refine induction_on (P := fun t => Closes t → (∀ p ∈ escapes, ¬ p.1 <:+: t) →
    HasNoEscape (t ++ ['"'])) ?nil ?dangling ?escape ?cons t h hc hp
  case nil =>
    intro _ _ d _
    simp [List.infix_cons_iff]
  case dangling => intro hc; cases hc
  case escape =>
    intro c s hs ih hc hp
    have hn : c ≠ '\n' := by
      rintro rfl
      cases hc
    have hce : c ∉ escapable := by
      rw [mem_escapable]
      rintro (hn' | ⟨p, hm, hp'⟩)
      · exact hn hn'
      · exact hp p hm ⟨[], s, by rw [hp']; rfl⟩
    intro d hd
    refine not_infix_cons ?_ (not_infix_cons ?_ (ih ((closes_escape hn).mp hc) ?_ d hd))
    · rintro ⟨-, hh⟩
      exact hce (Option.some.inj hh ▸ hd)
    · rintro ⟨rfl, -⟩
      exact hce (by decide)
    · exact fun p hm hi => hp p hm (List.infix_cons (List.infix_cons hi))
  case cons =>
    intro c s hb hs ih hc hp d hd
    refine not_infix_cons (fun hh => hb hh.1) (ih ((hs.closes_cons hb).mp hc) ?_ d hd)
    exact fun p hm hi => hp p hm (List.infix_cons hi)

/-- A text that stays inside its string is read as it is exactly if it has no escape. -/
theorem StaysInside.hasNoEscape_iff (h : StaysInside t) :
    HasNoEscape (t ++ ['"']) ↔ Closes t ∧ unescape t = t := by
  rw [unescape_eq_self_iff]
  constructor
  · intro hn
    refine ⟨h.closes_of_hasNoEscape hn, fun p hp hi => ?_⟩
    have hall : ∀ p ∈ escapes, ∃ c ∈ escapable, p.1 = ['\\', c] := by
      simp [escapes, escapable]
    obtain ⟨c, hc, he⟩ := hall p hp
    exact hn c hc (he ▸ hi.trans (List.prefix_append t ['"']).isInfix)
  · rintro ⟨hc, hp⟩
    exact h.hasNoEscape_of_closes hc hp

end NixContext.Hcl
