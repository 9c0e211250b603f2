import NixContext.Text.Replace

/-! # What replacing leaves

Replacing a pattern by something shorter leaves a text alone exactly if the pattern does not
occur in it (`replaceAll_eq_self_iff`), and shortens it otherwise. So it is for patterns that are
replaced one after the other (`foldl_replaceAll_eq_self_iff`).
-/

namespace NixContext.Text

variable {pat rep s : List Char}

theorem replaceFrom_of_not_infix (h : ¬ pat <:+: s) : replaceFrom pat rep 0 s = s := by
  induction s with
  | nil => rfl
  | cons c s ih =>
    rw [replaceFrom, if_neg fun hc => h (List.isPrefixOf_iff_prefix.mp hc).isInfix,
      ih fun hs => h (List.infix_cons hs)]

/-- Replacing by something shorter never lengthens a text, and shortens it where the pattern
occurs. The first `n` characters belong to an occurrence before them. -/
theorem length_replaceFrom (hr : rep.length < pat.length) (n : Nat) (s : List Char) :
    (replaceFrom pat rep n s).length ≤ s.length - n ∧
      (pat <:+: s.drop n → (replaceFrom pat rep n s).length < s.length - n) := by
  induction s generalizing n with
  | nil =>
    refine ⟨by simp [replaceFrom], fun h => ?_⟩
    rw [List.drop_nil, List.infix_nil] at h
    simp [h] at hr
  | cons c s ih =>
    cases n with
    | succ n => simpa [replaceFrom] using ih n
    | zero =>
      rw [replaceFrom]
      by_cases h : pat <+: c :: s
      · have hrest := (ih (pat.length - 1)).1
        have hlen : pat.length ≤ s.length + 1 := h.length_le
        have hlt : (rep ++ replaceFrom pat rep (pat.length - 1) s).length < s.length + 1 := by
          rw [List.length_append]
          omega
        rw [if_pos (List.isPrefixOf_iff_prefix.mpr h)]
        exact ⟨Nat.le_of_lt hlt, fun _ => hlt⟩
      · obtain ⟨hle, hlt⟩ := ih 0
        rw [if_neg (mt List.isPrefixOf_iff_prefix.mp h)]
        refine ⟨Nat.succ_le_succ hle, fun hi => Nat.succ_lt_succ (hlt ?_)⟩
        exact (List.infix_cons_iff.mp hi).resolve_left h

theorem length_replaceAll_le (hr : rep.length < pat.length) (s : List Char) :
    (replaceAll pat rep s).length ≤ s.length := by
  rw [replaceAll, if_neg (by cases pat <;> simp at hr ⊢)]
  exact (length_replaceFrom hr 0 s).1

/-- A text that replacing by something shorter does not shorten is left alone, since the
pattern does not occur in it. -/
theorem replaceAll_eq_self_of_length (hr : rep.length < pat.length)
    (h : s.length ≤ (replaceAll pat rep s).length) :
    ¬ pat <:+: s ∧ replaceAll pat rep s = s := by
  rw [replaceAll, if_neg (by cases pat <;> simp at hr ⊢)] at h ⊢
  have hi : ¬ pat <:+: s := fun hi => absurd ((length_replaceFrom hr 0 s).2 hi) (Nat.not_lt.mpr h)
  exact ⟨hi, replaceFrom_of_not_infix hi⟩

theorem replaceAll_eq_self_iff (hr : rep.length < pat.length) :
    replaceAll pat rep s = s ↔ ¬ pat <:+: s := by
  constructor
  · intro h
    exact (replaceAll_eq_self_of_length hr (Nat.le_of_eq (congrArg List.length h.symm))).1
  · intro h
    rw [replaceAll, if_neg (by cases pat <;> simp at hr ⊢), replaceFrom_of_not_infix h]

theorem length_foldl_replaceAll_le {ps : List (List Char × List Char)}
    (h : ∀ p ∈ ps, p.2.length < p.1.length) (s : List Char) :
    (ps.foldl (fun s p => replaceAll p.1 p.2 s) s).length ≤ s.length := by
  induction ps generalizing s with
  | nil => exact Nat.le_refl _
  | cons p ps ih =>
    exact Nat.le_trans (ih (fun q hq => h q (.tail _ hq)) _)
      (length_replaceAll_le (h p (.head _)) s)

/-- Replacing patterns one after the other by something shorter leaves a text alone exactly if it
has none of them, since no later step makes up for what an earlier one has cut. -/
theorem foldl_replaceAll_eq_self_iff {ps : List (List Char × List Char)}
    (h : ∀ p ∈ ps, p.2.length < p.1.length) :
    ps.foldl (fun s p => replaceAll p.1 p.2 s) s = s ↔ ∀ p ∈ ps, ¬ p.1 <:+: s := by
  induction ps with
  | nil => simp
  | cons p ps ih =>
    have hp : p.2.length < p.1.length := h p (.head _)
    have hps : ∀ q ∈ ps, q.2.length < q.1.length := fun q hq => h q (.tail _ hq)
    rw [List.foldl_cons, List.forall_mem_cons, ← ih hps, ← replaceAll_eq_self_iff hp]
    constructor
    · intro heq
      have hlen := length_foldl_replaceAll_le hps (replaceAll p.1 p.2 s)
      rw [heq] at hlen
      have hself := (replaceAll_eq_self_of_length hp hlen).2
      rw [hself] at heq
      exact ⟨hself, heq⟩
    · rintro ⟨hself, heq⟩
      rw [hself, heq]

end NixContext.Text
