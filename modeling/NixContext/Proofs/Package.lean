import NixContext.Package
import NixContext.Proofs.Nix.Command
import NixContext.Proofs.Nix.Environment
import NixContext.Proofs.Validation.Check

/-! # Package operations

Every operation on a package calls the runner once, with the preset options, the extra
arguments of the context and the words of the operation in this order, and with the
variables derived at that moment. Without a home directory it calls nothing.
-/

namespace NixContext

/-- What an event hands to a runner. -/
def Event.call? : Event → Option Invocation
  | called i => some i
  | _ => none

/-- The calls of runners in the course of an activity, in order. -/
def Activity.calls {α : Type} (x : Activity α) : List Invocation :=
  x.events.filterMap Event.call?

namespace Nix

/-- The flags of the preset options. -/
def presetArgs : List String :=
  ["--option", "accept-flake-config", "true", "--option", "warn-dirty", "false",
    "--option", "extra-experimental-features", "nix-command flakes",
    "--option", "extra-substituters", "https://cache.floxdev.com?trusted=1"]

theorem exists_preset : ∃ o, Options.preset = .ok o ∧ o.toArgs = presetArgs := by
  have h : Options.preset.toOption.map Options.toArgs = some presetArgs := by decide +kernel
  cases ho : Options.preset with
  | error is => simp [ho, Except.toOption] at h
  | ok o => exact ⟨o, rfl, by simpa [ho, Except.toOption] using h⟩

namespace Handle

theorem leadingArgs_configured {o : Options} (ho : o.toArgs = presetArgs) (v : Variant)
    (binary : String) (vs : Table String) (xs : List String) :
    (configured v binary vs o xs).leadingArgs = presetArgs ++ xs := by
  simp [leadingArgs, configured, GeneralFlags.toArgs, valued, switch, ho]

theorem command_configured {o : Options} (ho : o.toArgs = presetArgs) (v : Variant)
    (binary : String) (vs : Table String) (xs args : List String) :
    (configured v binary vs o xs).command args = binary :: presetArgs ++ xs ++ args := by
  have ht : (configured v binary vs o xs).trailingArgs = [] := by
    simp [trailingArgs, configured, FlakeFlags.toArgs, EvalFlags.toArgs, valued, switch,
      EmptyCollection.emptyCollection, Table.empty]
  rw [command_of_trailingArgs ht, leadingArgs_configured ho, List.cons_append,
    List.cons_append, List.append_assoc]
  rfl

theorem run_eq (h : Handle) (args : List String) (launch : Launch) :
    h.run args launch =
      ⟨[.invoking (h.command args), .called (h.invocation args)],
        (launch h.runner (h.invocation args)).map (⟨h.invocation args, ·⟩)⟩ := by
  simp only [run]
  cases launch h.runner (h.invocation args) <;> rfl

/-- A context with texts for extra arguments gives a handle if there is a home directory. -/
theorem ofContext_of_hasHome {o : Options} (ho : Options.preset = .ok o) {c : Context}
    {xs : List String} (hx : c.extraArgs = xs.map .str) {environment : Table String}
    (hh : HasHome environment) (v : Variant) (binary : String) :
    ∃ vs, environmentFrom? environment = some vs ∧ ofContext v binary environment c =
      ⟨[.trusting (certificates environment)], .ok (configured v binary vs o xs)⟩ := by
  refine ⟨_, environmentFrom?_of_hasHome hh, ?_⟩
  rw [ofContext, ofArguments, ho, environmentFrom?_of_hasHome hh, hx, Check.texts_tuple]
  rfl

theorem ofContext_of_not_hasHome {environment : Table String} (hh : ¬ HasHome environment)
    (v : Variant) (binary : String) (c : Context) :
    ofContext v binary environment c = ⟨[], .error .homeUnset⟩ := by
  obtain ⟨o, ho, -⟩ := exists_preset
  rw [ofContext, ofArguments, ho, environmentFrom?_of_not_hasHome hh]
  rfl

end Handle

end Nix

open Nix

theorem Context.connect_commandLine {c : Context} {v : Variant} (hv : c.engine = .commandLine v)
    {binary : String} {environment : Table String} {es : List Event}
    {r : Except Failure Handle} (h : Handle.ofContext v binary environment c = ⟨es, r⟩) :
    c.connect binary environment = ⟨.instantiating c.engine :: es, r.map .handle⟩ := by
  obtain ⟨config, cache, data, metrics, args, engine⟩ := c
  obtain rfl : engine = .commandLine v := hv
  rw [Handle.ofContext] at h
  simp only [connect, RawContext.connect, Context.raw, h]
  cases r <;> simp [Activity.note, Except.map]

namespace Package

theorem operate_of_connect {binary : String} {environment : Table String} {p : Package}
    {es : List Event} {c : Connection}
    (h : p.context.connect binary environment = ⟨es, .ok c⟩) (e : Event) (args : List String)
    (launch : Launch) :
    p.operate binary environment e args launch =
      ⟨e :: (es ++ (c.run args launch).events), (c.run args launch).result⟩ := by
  rw [operate, h]
  rfl

theorem operate_of_connect_error {binary : String} {environment : Table String} {p : Package}
    {es : List Event} {f : Failure}
    (h : p.context.connect binary environment = ⟨es, .error f⟩) (e : Event)
    (args : List String) (launch : Launch) :
    p.operate binary environment e args launch = ⟨e :: es, .error f⟩ := by
  rw [operate, h]
  rfl

/-- What can be done with a package. -/
inductive Operation where
  | build
  | evaluate (json : Bool)
  | run (args : List String)
  deriving DecidableEq, Repr

namespace Operation

/-- Carries out an operation. -/
def perform (binary : String) (environment : Table String) (p : Package) (launch : Launch) :
    Operation → Activity Report
  | build => p.build binary environment launch
  | evaluate json => p.evaluate binary environment json launch
  | run args => p.run binary environment args launch

/-- The words of an operation. -/
def words (i : Installable) : Operation → List String
  | build => ["build", i.text]
  | evaluate false => ["eval", i.text]
  | evaluate true => ["eval", i.text, "--json"]
  | run [] => ["run", i.text]
  | run (a :: as) => "run" :: i.text :: "--" :: a :: as

/-- The event that an operation begins with. -/
def event (i : Installable) : Operation → Event
  | build => .building i
  | evaluate _ => .evaluating i
  | run _ => .running i

theorem perform_eq (binary : String) (environment : Table String) (p : Package)
    (launch : Launch) (o : Operation) :
    o.perform binary environment p launch =
      p.operate binary environment (o.event p.installable) (o.words p.installable) launch := by
  cases o with
  | build => rfl
  | evaluate json => cases json <;> rfl
  | run args => cases args <;> rfl

/-- An operation calls the runner once, or not at all if there is no home directory. -/
theorem calls_perform (p : Package) (v : Variant) (xs : List String)
    (hv : p.context.engine = .commandLine v) (hx : p.context.extraArgs = xs.map .str)
    (binary : String) (environment : Table String) (launch : Launch) (o : Operation) :
    (HasHome environment → ∃ vs i, environmentFrom? environment = some vs ∧
      i = ⟨binary :: presetArgs ++ xs ++ o.words p.installable, vs⟩ ∧
      (o.perform binary environment p launch).calls = [i] ∧
      (o.perform binary environment p launch).result =
        (launch (.ofVariant v) i).map (⟨i, ·⟩)) ∧
    (¬ HasHome environment →
      (o.perform binary environment p launch).calls = [] ∧
      (o.perform binary environment p launch).result = .error .homeUnset) := by
  rw [perform_eq]
  constructor
  · intro hh
    obtain ⟨q, hq, hargs⟩ := exists_preset
    obtain ⟨vs, hvs, hc⟩ := Handle.ofContext_of_hasHome hq hx hh v binary
    have hi := congrArg (Invocation.mk · vs)
      (Handle.command_configured hargs v binary vs xs (o.words p.installable))
    refine ⟨vs, _, hvs, rfl, ?_⟩
    rw [← hi, operate_of_connect (Context.connect_commandLine hv hc), Connection.run,
      Handle.run_eq]
    refine ⟨?_, rfl⟩
    cases o <;> rfl
  · intro hh
    have hc := Context.connect_commandLine hv (Handle.ofContext_of_not_hasHome hh v binary _)
    rw [operate_of_connect_error hc]
    refine ⟨?_, rfl⟩
    cases o <;> rfl

/-- Separators among the extra arguments and those of the program stay where they are, and
with an empty home directory nothing is called. -/
theorem calls_perform_separators :
    let p : Package :=
      ⟨⟨.ofText "/c", .ofText "/k", .ofText "/d", .bool false, [.str "--"], .commandLine .plain⟩,
        ⟨"nixpkgs", "hello"⟩⟩
    let environment := Table.ofList [("HOME", "/h")]
    let launch : Launch := fun _ i => .ok ⟨i.argv, 0, "", ""⟩
    ((run ["--", "-v"]).perform "nix" environment p launch).calls =
      [⟨"nix" :: presetArgs ++ ["--", "run", "nixpkgs#hello", "--", "--", "-v"],
        environment.insert "NIX_SSL_CERT_FILE" defaultCertificates⟩] ∧
    ((run ["--", "-v"]).perform "nix" (Table.ofList [("HOME", "")]) p launch).calls = [] := by
  intro p environment launch
  have hh : HasHome environment := ⟨"/h", by decide, by decide⟩
  have hn : ¬ HasHome (Table.ofList [("HOME", "")]) := by decide
  have he : environmentFrom? environment =
      some (environment.insert "NIX_SSL_CERT_FILE" defaultCertificates) := by
    decide +kernel
  have hlaw := fun vs => calls_perform p .plain ["--"] rfl rfl "nix" vs launch (run ["--", "-v"])
  obtain ⟨vs, i, hvs, rfl, hc, -⟩ := (hlaw environment).1 hh
  obtain rfl := Option.some.inj (hvs.symm.trans he)
  refine ⟨?_, ((hlaw _).2 hn).1⟩
  rw [hc]
  decide +kernel

end Operation

end Package

end NixContext
