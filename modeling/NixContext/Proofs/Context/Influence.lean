import NixContext.Proofs.Nix.Equality

/-! # What a handle depends on

Of a context only the engine and the extra arguments reach a handle, of the surroundings only
the variables for nix. The handles of two contexts are equal exactly if these are
(`Context.same_connect_iff`), so directories and the setting for metrics have no influence on
anything that is run.
-/

namespace NixContext

open Nix

theorem Value.sameItems_map_str_iff {xs ys : List String} :
    Value.sameItems (xs.map .str) (ys.map .str) ↔ xs = ys := by
  induction xs generalizing ys with
  | nil => cases ys <;> simp [Value.sameItems]
  | cons x xs ih => cases ys <;> simp [Value.sameItems, Value.same, ih]

namespace Nix.Handle

variable {v : Variant} {binary : String} {o : Options} {vs₁ vs₂ : Table String}
  {xs₁ xs₂ : List String}

theorem same_configured_iff :
    (configured v binary vs₁ o xs₁).same (configured v binary vs₂ o xs₂) ↔
      xs₁ = xs₂ ∧ vs₁.same vs₂ := by
  rw [same_iff]
  simp [configured, Table.same_refl, and_comm]

/-- No inputs are replaced, so equal handles of contexts give the same command lines. -/
theorem command_configured_of_same
    (h : (configured v binary vs₁ o xs₁).same (configured v binary vs₂ o xs₂))
    (args : List String) :
    (configured v binary vs₁ o xs₁).command args = (configured v binary vs₂ o xs₂).command args :=
  (command_eq_iff_of_same h args).mpr rfl

end Nix.Handle

section Connect

variable {c d : Context} {v : Variant}

/-- Contexts with the same engine and the same extra arguments connect alike. -/
theorem Context.connect_congr (hc : c.engine = .commandLine v) (hd : d.engine = .commandLine v)
    (hx : c.extraArgs = d.extraArgs) (binary : String) (environment : Table String) :
    c.connect binary environment = d.connect binary environment := by
  simp only [connect, RawContext.connect, raw, hc, hd, hx]

theorem Package.Operation.perform_congr {binary : String} {environment : Table String}
    (h : c.connect binary environment = d.connect binary environment) (i : Installable)
    (launch : Launch) (o : Operation) :
    o.perform binary environment ⟨c, i⟩ launch = o.perform binary environment ⟨d, i⟩ launch := by
  rw [perform_eq, perform_eq, operate, operate, h]

end Connect

/-- Contexts whose extra arguments are texts give handles wherever there is a home directory, and
these are equal exactly if the extra arguments are and the variables for nix are the same
mapping; then they give the same command lines. Nothing that connecting a context or working on
a package does depends on the directories or on the setting for metrics. -/
theorem Context.same_connect_iff {v : Variant} {c₁ c₂ : Context} {xs₁ xs₂ : List String}
    (hv₁ : c₁.engine = .commandLine v) (hv₂ : c₂.engine = .commandLine v)
    (hx₁ : c₁.extraArgs = xs₁.map .str) (hx₂ : c₂.extraArgs = xs₂.map .str)
    {e₁ e₂ : Table String} (hh₁ : HasHome e₁) (hh₂ : HasHome e₂) (binary : String) :
    ∃ h₁ h₂ vs₁ vs₂, (c₁.connect binary e₁).result = .ok (.handle h₁) ∧
      (c₂.connect binary e₂).result = .ok (.handle h₂) ∧
      environmentFrom? e₁ = some vs₁ ∧ environmentFrom? e₂ = some vs₂ ∧
      (h₁.same h₂ ↔ Value.sameItems c₁.extraArgs c₂.extraArgs ∧ vs₁.same vs₂) ∧
      (h₁.same h₂ → ∀ args, h₁.command args = h₂.command args) ∧
      (c₁.extraArgs = c₂.extraArgs → e₁.same e₂ → h₁.same h₂) ∧
      ∀ config cache data metrics,
        let d : Context := ⟨config, cache, data, metrics, c₁.extraArgs, c₁.engine⟩
        (∀ e, d.connect binary e = c₁.connect binary e) ∧
          ∀ e i launch (o : Package.Operation),
            o.perform binary e ⟨d, i⟩ launch = o.perform binary e ⟨c₁, i⟩ launch := by
  obtain ⟨o, ho, -⟩ := exists_preset
  obtain ⟨vs₁, hvs₁, h₁⟩ := Handle.ofContext_of_hasHome ho hx₁ hh₁ v binary
  obtain ⟨vs₂, hvs₂, h₂⟩ := Handle.ofContext_of_hasHome ho hx₂ hh₂ v binary
  have hsame : (Handle.configured v binary vs₁ o xs₁).same (.configured v binary vs₂ o xs₂) ↔
      Value.sameItems c₁.extraArgs c₂.extraArgs ∧ vs₁.same vs₂ := by
    rw [Handle.same_configured_iff, hx₁, hx₂, Value.sameItems_map_str_iff]
  refine ⟨_, _, vs₁, vs₂, by rw [connect_commandLine hv₁ h₁]; rfl,
    by rw [connect_commandLine hv₂ h₂]; rfl, hvs₁, hvs₂, hsame,
    Handle.command_configured_of_same, fun hx he => ?_, fun config cache data metrics => ?_⟩
  · refine hsame.mpr ⟨?_, same_environmentFrom?_of_same he hvs₁ hvs₂⟩
    rw [← hx, hx₁, Value.sameItems_map_str_iff]
  · have hd : ∀ e, _ = c₁.connect binary e := fun e =>
      connect_congr (c := ⟨config, cache, data, metrics, c₁.extraArgs, c₁.engine⟩) hv₁ hv₁ rfl
        binary e
    exact ⟨hd, fun e i launch o => Package.Operation.perform_congr (hd e) i launch o⟩

/-- Two contexts that share their extra arguments only, under variables of which one set names
the file of certificates that the other falls back on. -/
theorem Context.same_connect_otherDirectories :
    let c₁ : Context := ⟨.ofText "/a", .ofText "/b", .ofText "/c", .bool true, [.str "-v"],
      .commandLine .plain⟩
    let c₂ : Context := ⟨.ofText "/x", .ofText "/y", .ofText "/z", .bool false, [.str "-v"],
      .commandLine .plain⟩
    let e₁ := Table.ofList [("HOME", "/h")]
    let e₂ := Table.ofList [("NIX_SSL_CERT_FILE", defaultCertificates), ("HOME", "/h")]
    ¬ e₁.same e₂ ∧ ∃ h₁ h₂, (c₁.connect "nix" e₁).result = .ok (.handle h₁) ∧
      (c₂.connect "nix" e₂).result = .ok (.handle h₂) ∧ h₁.same h₂ ∧
      h₁.command ["build", "."] = h₂.command ["build", "."] := by
  intro c₁ c₂ e₁ e₂
  have hv₁ : c₁.engine = .commandLine .plain := rfl
  have hv₂ : c₂.engine = .commandLine .plain := rfl
  have hx₁ : c₁.extraArgs = ["-v"].map .str := rfl
  have hx₂ : c₂.extraArgs = ["-v"].map .str := rfl
  have hh₁ : HasHome e₁ := ⟨"/h", by decide, by decide⟩
  have hh₂ : HasHome e₂ := ⟨"/h", by decide, by decide⟩
  obtain ⟨h₁, h₂, vs₁, vs₂, hc₁, hc₂, hvs₁, hvs₂, hsame, hcommand, -⟩ :=
    Context.same_connect_iff hv₁ hv₂ hx₁ hx₂ hh₁ hh₂ "nix"
  have hderived₁ : environmentFrom? e₁ =
      some (.ofList [("HOME", "/h"), ("NIX_SSL_CERT_FILE", defaultCertificates)]) := by
    decide +kernel
  have hderived₂ : environmentFrom? e₂ = some e₂ := by decide +kernel
  obtain rfl := Option.some.inj (hvs₁.symm.trans hderived₁)
  obtain rfl := Option.some.inj (hvs₂.symm.trans hderived₂)
  have hh := hsame.mpr ⟨by decide +kernel, by decide +kernel⟩
  exact ⟨by decide +kernel, h₁, h₂, hc₁, hc₂, hh, hcommand hh _⟩

end NixContext
