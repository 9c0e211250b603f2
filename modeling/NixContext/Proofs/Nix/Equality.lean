import NixContext.Proofs.Nix.Flags
import NixContext.Proofs.Package

/-! # Equal handles

Two handles are equal if their fields are, variables and replaced inputs being compared as
mappings. A command line shows the order of the replaced inputs, which equality does not see:
command lines of equal handles differ in the order of these flags only
(`Handle.command_of_same`).
-/

namespace NixContext

namespace Table

variable {α : Type}

theorem nodup_entries (t : Table α) : t.entries.Nodup :=
  (List.pairwise_map.mp t.nodup).imp fun h he => h (congrArg Prod.fst he)

variable [BEq α] [LawfulBEq α] {t u : Table α}

theorem same_refl (t : Table α) : t.same t :=
  same_iff.mpr fun _ => rfl

theorem mem_entries_of_same (h : t.same u) (e : String × α) : e ∈ t.entries ↔ e ∈ u.entries := by
  rw [← find?_eq_some_iff, ← find?_eq_some_iff, same_iff.mp h]

/-- Equal mappings have the same entries in some order. -/
theorem perm_of_same (h : t.same u) : t.entries.Perm u.entries :=
  (List.perm_ext_iff_of_nodup t.nodup_entries u.nodup_entries).mpr (mem_entries_of_same h)

/-- Equal mappings with their names in the same order are the same table. -/
theorem eq_of_same (h : t.same u) (hn : t.names = u.names) : t = u := by
  refine Table.ext (List.ext_getElem (perm_of_same h).length_eq fun i hi hj => ?_)
  have hname : t.entries[i].1 = u.entries[i].1 := by
    simpa [names, hi, hj] using congrArg (·[i]?) hn
  have ht : t.find? t.entries[i].1 = some t.entries[i].2 :=
    find?_eq_some_iff.mpr (List.getElem_mem hi)
  have hu : u.find? u.entries[i].1 = some u.entries[i].2 :=
    find?_eq_some_iff.mpr (List.getElem_mem hj)
  rw [same_iff.mp h, hname, hu] at ht
  exact Prod.ext hname (Option.some.inj ht).symm

end Table

namespace Nix

theorem FlakeFlags.flatMap_overrideArgs_inj {es fs : List (String × String)} :
    es.flatMap overrideArgs = fs.flatMap overrideArgs ↔ es = fs :=
  Layout.write_inj (l := Layout.overrides)

namespace Handle

/-- What stands on a command line before the replaced inputs. -/
def beforeOverrides (h : Handle) (args : List String) : List String :=
  h.binary :: h.leadingArgs ++ args.takeWhile (· != separator)

/-- What stands on a command line behind the replaced inputs. -/
def behindOverrides (h : Handle) (args : List String) : List String :=
  switch "--no-write-lock-file" h.flake.noWriteLockFile ++
    switch "--recreate-lock-file" h.flake.recreateLockFile ++ h.evaluation.toArgs ++
    args.dropWhile (· != separator)

/-- The flags of the replaced inputs. -/
def overrides (h : Handle) : List String :=
  h.flake.overrideInputs.entries.flatMap FlakeFlags.overrideArgs

theorem command_eq (h : Handle) (args : List String) :
    h.command args = h.beforeOverrides args ++ h.overrides ++ h.behindOverrides args := by
  simp [command, beforeOverrides, behindOverrides, overrides, trailingArgs, FlakeFlags.toArgs]

theorem same_iff {a b : Handle} :
    a.same b ↔ a.variant = b.variant ∧ a.binary = b.binary ∧ a.environment.same b.environment ∧
      a.general = b.general ∧ a.flake.overrideInputs.same b.flake.overrideInputs ∧
      a.flake.noWriteLockFile = b.flake.noWriteLockFile ∧
      a.flake.recreateLockFile = b.flake.recreateLockFile ∧ a.evaluation = b.evaluation ∧
      a.options = b.options ∧ a.extraArgs = b.extraArgs ∧ a.runner = b.runner := by
  simp [same, FlakeFlags.same, and_assoc]

variable {a b : Handle}

theorem beforeOverrides_of_same (h : a.same b) (args : List String) :
    a.beforeOverrides args = b.beforeOverrides args := by
  obtain ⟨-, hbinary, -, hgeneral, -, -, -, -, hoptions, hextra, -⟩ := same_iff.mp h
  rw [beforeOverrides, beforeOverrides, leadingArgs, leadingArgs, hbinary, hgeneral, hoptions,
    hextra]

theorem behindOverrides_of_same (h : a.same b) (args : List String) :
    a.behindOverrides args = b.behindOverrides args := by
  obtain ⟨-, -, -, -, -, hwrite, hcreate, hevaluation, -⟩ := same_iff.mp h
  rw [behindOverrides, behindOverrides, hwrite, hcreate, hevaluation]

theorem overrides_eq_iff (h : a.same b) :
    a.overrides = b.overrides ↔ a.flake.overrideInputs.names = b.flake.overrideInputs.names := by
  obtain ⟨-, -, -, -, hinputs, -⟩ := same_iff.mp h
  rw [overrides, overrides, FlakeFlags.flatMap_overrideArgs_inj]
  exact ⟨fun he => congrArg (List.map Prod.fst) he,
    fun hn => congrArg Table.entries (Table.eq_of_same hinputs hn)⟩

/-- Command lines of equal handles are the same exactly if the names of the replaced inputs stand
in the same order. -/
theorem command_eq_iff_of_same (h : a.same b) (args : List String) :
    a.command args = b.command args ↔
      a.flake.overrideInputs.names = b.flake.overrideInputs.names := by
  rw [command_eq, command_eq, beforeOverrides_of_same h, behindOverrides_of_same h,
    List.append_left_inj, List.append_right_inj, overrides_eq_iff h]

theorem calls_run (h : Handle) (args : List String) (launch : Launch) :
    (h.run args launch).calls = [⟨h.command args, h.environment⟩] := by
  rw [run_eq]
  rfl

/-- Equal handles run alike: the runner is the same and is called with equal variables, and the
command lines are the same but for the order of the flags of replaced inputs, which is that of
the names. -/
theorem command_of_same (h : a.same b) (args : List String) (launch : Launch) :
    (∃ before behind, a.command args = before ++ a.overrides ++ behind ∧
      b.command args = before ++ b.overrides ++ behind) ∧
    a.flake.overrideInputs.entries.Perm b.flake.overrideInputs.entries ∧
    (a.command args = b.command args ↔
      a.flake.overrideInputs.names = b.flake.overrideInputs.names) ∧
    a.runner = b.runner ∧
    ∃ i j, (a.run args launch).calls = [i] ∧ (b.run args launch).calls = [j] ∧
      i.argv = a.command args ∧ j.argv = b.command args ∧ i.environment.same j.environment := by
  obtain ⟨-, -, henvironment, -, hinputs, -, -, -, -, -, hrunner⟩ := same_iff.mp h
  refine ⟨⟨a.beforeOverrides args, a.behindOverrides args, a.command_eq args, ?_⟩,
    Table.perm_of_same hinputs, command_eq_iff_of_same h args, hrunner,
    _, _, a.calls_run args launch, b.calls_run args launch, rfl, rfl, henvironment⟩
  rw [command_eq, beforeOverrides_of_same h, behindOverrides_of_same h]

/-- A handle with replaced inputs and variables in given orders. -/
def listing (inputs vs : List (String × String)) : Handle :=
  { binary := "nix", environment := .ofList vs,
    flake := { overrideInputs := .ofList inputs } }

/-- Other orders give an equal handle, but the order of the replaced inputs shows. -/
theorem command_of_reordered :
    let a := listing [("x", "path:/x"), ("y", "path:/y")] [("HOME", "/h"), ("LANG", "C")]
    let b := listing [("x", "path:/x"), ("y", "path:/y")] [("LANG", "C"), ("HOME", "/h")]
    let c := listing [("y", "path:/y"), ("x", "path:/x")] [("LANG", "C"), ("HOME", "/h")]
    (a.same b ∧ a.command ["build"] = b.command ["build"]) ∧
      (a.same c ∧ a.command ["build"] ≠ c.command ["build"]) := by
  intro a b c
  have hb : a.same b := by decide +kernel
  have hc : a.same c := by decide +kernel
  obtain ⟨-, -, hsame, -⟩ := command_of_same hb ["build"] Runner.start
  obtain ⟨-, -, hother, -⟩ := command_of_same hc ["build"] Runner.start
  exact ⟨⟨hb, hsame.mpr (by decide +kernel)⟩, hc, fun he => absurd (hother.mp he) (by decide +kernel)⟩

theorem not_forall_command_eq_of_same :
    ¬ ∀ a b : Handle, a.same b → ∀ args, a.command args = b.command args ∧
      (a.invocation args).environment.same (b.invocation args).environment := by
  intro h
  have he := (h (listing [("x", "path:/x"), ("y", "path:/y")] [])
    (listing [("y", "path:/y"), ("x", "path:/x")] []) (by decide +kernel) ["build"]).1
  exact absurd he (by decide +kernel)

end Handle

end Nix

end NixContext
