import NixContext.Proofs.Nix.Arguments
import NixContext.Proofs.Package

/-! # Arguments for the program of a package

When a package is run, the arguments for its program stand behind a separator, and nix takes the
first separator of its command line for that one. So the program receives them as they were given
exactly if neither the extra arguments of the context nor the text of the installable is a
separator (`Package.run_forwards_iff`).
-/

namespace NixContext

namespace Nix

def behindSeparator (ws : List String) : List String :=
  (ws.dropWhile (· != separator)).drop 1

/-- The words pass the arguments on: they stand behind the first separator, and without any there
is no separator. -/
def Forwards (ws args : List String) : Prop :=
  (args ≠ [] → behindSeparator ws = args) ∧ (args = [] → separator ∉ ws)

instance (ws args : List String) : Decidable (Forwards ws args) :=
  inferInstanceAs (Decidable (_ ∧ _))

variable {front rest : List String}

theorem behindSeparator_append (hf : separator ∉ front) (rest : List String) :
    behindSeparator (front ++ separator :: rest) = rest := by
  rw [behindSeparator, dropWhile_bne_append hf, List.drop_one, List.tail_cons]

/-- An earlier separator leaves more behind it. -/
theorem behindSeparator_append_iff :
    behindSeparator (front ++ separator :: rest) = rest ↔ separator ∉ front := by
  constructor
  · intro h hf
    -- behind the first of the separators in front there is at least one word more
    obtain ⟨xs, ys, rfl, hxs⟩ := List.eq_append_cons_of_mem hf
    have hlong : behindSeparator (xs ++ separator :: ys ++ separator :: rest) =
        ys ++ separator :: rest := by
      rw [List.append_assoc, List.cons_append]
      exact behindSeparator_append hxs _
    rw [hlong] at h
    have hlen := congrArg List.length h
    simp only [List.length_append, List.length_cons] at hlen
    omega
  · intro hf
    exact behindSeparator_append hf rest

theorem forwards_append_iff {args : List String} :
    Forwards (front ++ if args = [] then [] else separator :: args) args ↔ separator ∉ front := by
  by_cases ha : args = []
  · rw [Forwards, if_pos ha, List.append_nil]
    constructor
    · intro h
      exact h.2 ha
    · intro h
      exact ⟨fun hne => absurd ha hne, fun _ => h⟩
  · rw [Forwards, if_neg ha, behindSeparator_append_iff]
    constructor
    · intro h
      exact h.1 ha
    · intro h
      exact ⟨fun _ => h, fun he => absurd he ha⟩

end Nix

open Nix

namespace Package

variable {p : Package} {v : Variant} {xs : List String} {environment : Table String}

/-- Running a package calls the runner once. -/
theorem exists_calls_run (hv : p.context.engine = .commandLine v)
    (hx : p.context.extraArgs = xs.map .str) (hh : HasHome environment) (binary : String)
    (args : List String) (launch : Launch) :
    ∃ vs, (p.run binary environment args launch).calls =
      [⟨binary :: presetArgs ++ xs ++ runArgs p.installable args, vs⟩] := by
  obtain ⟨o, ho, hargs⟩ := exists_preset
  obtain ⟨vs, -, hc⟩ := Handle.ofContext_of_hasHome ho hx hh v binary
  have hrun := operate_of_connect (Context.connect_commandLine hv hc) (.running p.installable)
    (runArgs p.installable args) launch
  have hargv := Handle.command_configured hargs v binary vs xs (runArgs p.installable args)
  refine ⟨vs, ?_⟩
  rw [run, hrun, Connection.run, Handle.run_eq, Handle.invocation, hargv]
  rfl

theorem separator_not_mem_iff {i : Installable} :
    separator ∉ presetArgs ++ xs ++ ["run", i.text] ↔ separator ∉ xs ∧ i.text ≠ separator := by
  have hpreset : separator ∉ presetArgs := by decide
  have hrun : separator ≠ "run" := by decide
  simp [hpreset, hrun, eq_comm]

/-- The program of a package receives its arguments as they were given exactly if no extra
argument is a separator and the installable is not written like one. -/
theorem run_forwards_iff (hv : p.context.engine = .commandLine v)
    (hx : p.context.extraArgs = xs.map .str) (hh : HasHome environment) (binary : String)
    (args : List String) (launch : Launch) :
    ∃ i, (p.run binary environment args launch).calls = [i] ∧
      (Forwards i.argv.tail args ↔ separator ∉ xs ∧ p.installable.text ≠ separator) := by
  obtain ⟨vs, hi⟩ := exists_calls_run hv hx hh binary args launch
  refine ⟨_, hi, ?_⟩
  have htail : (binary :: presetArgs ++ xs ++ runArgs p.installable args).tail =
      presetArgs ++ xs ++ ["run", p.installable.text] ++
        if args = [] then [] else separator :: args :=
    (List.append_assoc _ _ _).symm
  rw [htail, forwards_append_iff, separator_not_mem_iff]

def withExtraArgs (xs : List String) (i : Installable) : Package :=
  ⟨⟨.ofText "/c", .ofText "/k", .ofText "/d", .bool false, xs.map .str, .commandLine .plain⟩, i⟩

/-- Separators among the arguments of the program are passed on. One among the extra arguments is
taken for the one in front of them, and so is an installable that is written like one, even if
there are no arguments. -/
theorem run_forwards_separators :
    let environment := Table.ofList [("HOME", "/h")]
    let launch : Launch := fun _ i => .ok ⟨i.argv, 0, "", ""⟩
    (∃ i, ((withExtraArgs ["-L"] ⟨"nixpkgs", "hello"⟩).run "nix" environment ["--", "-v"]
        launch).calls = [i] ∧ Forwards i.argv.tail ["--", "-v"]) ∧
      (∃ i, ((withExtraArgs ["--"] ⟨"nixpkgs", "hello"⟩).run "nix" environment ["-v"]
        launch).calls = [i] ∧ ¬ Forwards i.argv.tail ["-v"]) ∧
      ∃ i, ((withExtraArgs [] ⟨"--", ""⟩).run "nix" environment [] launch).calls = [i] ∧
        ¬ Forwards i.argv.tail [] := by
  intro environment launch
  have hh : HasHome environment := ⟨"/h", by decide, by decide⟩
  have hlaw (xs : List String) (i : Installable) (args : List String) :=
    run_forwards_iff (p := withExtraArgs xs i) rfl rfl hh "nix" args launch
  obtain ⟨i, hi, hpassed⟩ := hlaw ["-L"] ⟨"nixpkgs", "hello"⟩ ["--", "-v"]
  obtain ⟨j, hj, hextra⟩ := hlaw ["--"] ⟨"nixpkgs", "hello"⟩ ["-v"]
  obtain ⟨k, hk, hinstallable⟩ := hlaw [] ⟨"--", ""⟩ []
  exact ⟨⟨i, hi, hpassed.mpr (by decide)⟩, ⟨j, hj, mt hextra.mp (by decide)⟩,
    k, hk, mt hinstallable.mp (by decide)⟩

end Package

end NixContext
