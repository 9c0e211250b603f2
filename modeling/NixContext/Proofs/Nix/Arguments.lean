import NixContext.Nix.Handle
import NixContext.Proofs.Text.Separator

/-! # The arguments of a subcommand

On a command line the arguments of a subcommand stand in one piece or in two, with the flags for
flake inputs and for evaluation before the first separator among them. Although these flags may
hold separators and arguments may look like flags, different arguments give different command
lines (`Handle.command_injective`). What follows a separator is passed on as it is, so command
lines can be put together (`Handle.command_append`).
-/

namespace NixContext.Nix

section Inserting

variable {α : Type} {p : α → Bool} {xs ys : List α}

/-- What a list begins with is not prolonged by a list whose first element fails the test. -/
theorem takeWhile_append_of_head (hy : ∀ y ∈ ys.head?, p y = false) :
    (xs ++ ys).takeWhile p = xs.takeWhile p := by
  have hnil : ys.takeWhile p = [] := by
    cases ys with
    | nil => rfl
    | cons y ys => rw [List.takeWhile_cons, hy y rfl]; rfl
  rw [List.takeWhile_append, hnil, List.append_nil]
  split
  · next hlen => exact ((List.takeWhile_prefix p).eq_of_length hlen).symm
  · rfl

theorem eq_false_of_mem_head?_dropWhile (xs : List α) :
    ∀ y ∈ (xs.dropWhile p).head?, p y = false := by
  intro y hy
  have h := List.head?_dropWhile_not p xs
  rw [Option.mem_def.mp hy] at h
  exact h

/-- With a block put before the first element that fails the test, the list begins with what stood
before that element and goes on as the block does, whatever comes behind. -/
theorem takeWhile_insert (xs block : List α) :
    (xs.takeWhile p ++ block ++ xs.dropWhile p).takeWhile p =
      xs.takeWhile p ++ block.takeWhile p := by
  rw [takeWhile_append_of_head (eq_false_of_mem_head?_dropWhile xs)]
  exact List.takeWhile_append_of_pos fun x hx => List.mem_takeWhile_imp hx

/-- A list can be told from what it becomes with the block: the block begins in the same way in
both, so they agree in front of it. -/
theorem insert_inj {block : List α} :
    xs.takeWhile p ++ block ++ xs.dropWhile p = ys.takeWhile p ++ block ++ ys.dropWhile p ↔
      xs = ys := by
  constructor
  · intro h
    have hfront : xs.takeWhile p = ys.takeWhile p := by
      have ht := congrArg (List.takeWhile p) h
      rw [takeWhile_insert, takeWhile_insert] at ht
      exact List.append_cancel_right ht
    have hrest : xs.dropWhile p = ys.dropWhile p := by
      rw [hfront] at h
      exact List.append_cancel_left h
    calc xs = xs.takeWhile p ++ xs.dropWhile p := List.takeWhile_append_dropWhile.symm
      _ = ys.takeWhile p ++ ys.dropWhile p := by rw [hfront, hrest]
      _ = ys := List.takeWhile_append_dropWhile
  · rintro rfl
    rfl

end Inserting

namespace Handle

/-- What stands on a command line in front of the arguments of a subcommand. -/
def front (h : Handle) : List String :=
  h.binary :: h.leadingArgs

theorem command_eq_front (h : Handle) (args : List String) :
    h.command args = h.front ++ (args.takeWhile (· != separator) ++ h.trailingArgs ++
      args.dropWhile (· != separator)) := by
  simp only [command, front, List.append_assoc, List.cons_append]

/-- Arguments without a separator stand in one piece before the flags. -/
theorem command_of_not_mem (h : Handle) {a : List String} (ha : separator ∉ a) :
    h.command a = h.front ++ a ++ h.trailingArgs := by
  rw [command_eq_front, takeWhile_bne_of_not_mem ha, dropWhile_bne_of_not_mem ha, List.append_nil,
    List.append_assoc]

/-- Different arguments give different command lines. -/
theorem command_injective (h : Handle) : Function.Injective h.command := by
  intro a b hab
  rw [command_eq_front, command_eq_front] at hab
  exact insert_inj.mp (List.append_cancel_left hab)

/-- What follows the first separator is passed on as it is. -/
theorem command_append_separator (h : Handle) {a : List String} (ha : separator ∉ a)
    (rest : List String) :
    h.command (a ++ separator :: rest) = h.command a ++ separator :: rest := by
  rw [command_eq_front, takeWhile_bne_append ha, dropWhile_bne_append ha,
    h.command_of_not_mem ha]
  simp only [List.append_assoc]

theorem command_append_of_mem (h : Handle) {a : List String} (ha : separator ∈ a)
    (b : List String) : h.command (a ++ b) = h.command a ++ b := by
  obtain ⟨xs, ys, rfl, hxs⟩ := List.eq_append_cons_of_mem ha
  calc h.command (xs ++ separator :: ys ++ b)
      = h.command (xs ++ separator :: (ys ++ b)) := by rw [List.append_assoc, List.cons_append]
    _ = h.command xs ++ separator :: (ys ++ b) := h.command_append_separator hxs (ys ++ b)
    _ = h.command xs ++ separator :: ys ++ b := by rw [List.append_assoc, List.cons_append]
    _ = h.command (xs ++ separator :: ys) ++ b := by rw [h.command_append_separator hxs ys]

/-- Further arguments can be put behind a command line exactly if a separator stands before them,
or if what they hold before a separator can change places with the flags. -/
theorem command_append_iff (h : Handle) (a b : List String) :
    h.command (a ++ b) = h.command a ++ b ↔
      separator ∈ a ∨ b.takeWhile (· != separator) ++ h.trailingArgs =
        h.trailingArgs ++ b.takeWhile (· != separator) := by
  by_cases ha : separator ∈ a
  · exact iff_of_true (h.command_append_of_mem ha b) (.inl ha)
  · have hjoined : h.command (a ++ b) = h.front ++ a ++
        (b.takeWhile (· != separator) ++ h.trailingArgs ++ b.dropWhile (· != separator)) := by
      rw [command_eq_front, List.takeWhile_append_of_pos (bne_of_not_mem ha),
        List.dropWhile_append_of_pos (bne_of_not_mem ha)]
      simp only [List.append_assoc]
    have hbehind : h.command a ++ b = h.front ++ a ++
        (h.trailingArgs ++ b.takeWhile (· != separator) ++ b.dropWhile (· != separator)) := by
      rw [h.command_of_not_mem ha, List.append_assoc h.trailingArgs,
        List.takeWhile_append_dropWhile, List.append_assoc]
    rw [hjoined, hbehind, List.append_right_inj, List.append_left_inj]
    exact (or_iff_right ha).symm

/-- What follows a separator is passed on as it is, whether the separator is the first of it or
stands before it; arguments without a separator stand directly before the flags. -/
theorem command_append (h : Handle) (a b : List String) :
    (separator ∈ a ∨ b.head? = some separator → h.command (a ++ b) = h.command a ++ b) ∧
      (separator ∉ a → h.command [] = h.front ++ h.trailingArgs ∧
        h.command a = h.front ++ a ++ h.trailingArgs) := by
  constructor
  · intro hab
    refine (h.command_append_iff a b).mpr (hab.imp_right fun hb => ?_)
    have htake : b.takeWhile (· != separator) = [] := by
      obtain ⟨rest, rfl⟩ := List.head?_eq_some_iff.mp hb
      exact List.takeWhile_cons_of_neg (by simp)
    rw [htake, List.nil_append, List.append_nil]
  · intro ha
    have hnil := h.command_of_not_mem (a := []) List.not_mem_nil
    rw [List.append_nil] at hnil
    exact ⟨hnil, h.command_of_not_mem ha⟩

/-- Flags that hold separators themselves, on both sides of a separator among the arguments. -/
theorem command_append_separators :
    let h : Handle := { binary := "nix", flake := { noWriteLockFile := true },
                        evaluation := { evalStore := some "--" }, extraArgs := ["--"] }
    h.command (["run", "--", "-v"] ++ ["", "--"]) = h.command ["run", "--", "-v"] ++ ["", "--"] ∧
      h.command (["run"] ++ ["--", "--"]) = h.command ["run"] ++ ["--", "--"] ∧
      h.command ["run"] = h.front ++ ["run"] ++ h.trailingArgs ∧
      h.command (["run"] ++ ["-v"]) ≠ h.command ["run"] ++ ["-v"] := by
  intro h
  exact ⟨(h.command_append ["run", "--", "-v"] ["", "--"]).1 (.inl (by decide)),
    (h.command_append ["run"] ["--", "--"]).1 (.inr rfl),
    ((h.command_append ["run"] []).2 (by decide)).2, by decide⟩

end Handle

end NixContext.Nix
