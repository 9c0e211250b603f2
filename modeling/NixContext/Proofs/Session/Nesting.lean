import Mathlib.Logic.Relation
import NixContext.Proofs.Session.Calls
import NixContext.Proofs.Session.Outcomes

/-! # Programs started by started programs

A program that is started as nix may itself work with contexts, and so start programs in its
turn. As long as none of them sets variables, all of them see the variables that the first
process derives, however deep they are nested (`transGen_starts_iff`).
-/

namespace NixContext

open Nix

/-- The handle of a context is refused for the home directory exactly where there is none,
whatever else is wrong with the context. -/
theorem Nix.Handle.ofContext_eq_homeUnset_iff {v : Variant} {binary : String}
    {environment : Table String} {c : Context} :
    (ofContext v binary environment c).result = .error .homeUnset ↔ ¬ HasHome environment := by
  constructor
  · intro h hh
    rcases ofContext_spec v binary environment c with ⟨hn, -⟩ | ⟨-, -, hr⟩ | ⟨-, -, g, hr, -⟩
    · exact hn hh
    · rw [hr] at h
      cases h
    · rw [hr] at h
      cases h
  · intro hh
    rw [ofContext_of_not_hasHome hh]

namespace Session

variable {s m : Session} {a : Action} {as : List Action} {launch : Launch}
  {environment vs : Table String}

/-- The variables of a call were at hand after some first part of the run. -/
theorem exists_prefix_of_moment? (h : moment? s as a = some m) :
    ∃ before, before <+: as ∧ m = s.after before := by
  unfold moment? at h
  split at h
  · split at h
    · next hmaker =>
      cases h
      obtain ⟨-, ⟨before, behind, rfl, rfl⟩, -⟩ := maker?_spec hmaker
      exact ⟨before, List.prefix_append .., rfl⟩
    · cases h
  all_goals cases h
  all_goals exact ⟨as, List.prefix_refl as, rfl⟩

/-- A process with the first variables that sets none starts a program with the second ones, by
a run of a handle that it has connected or by an operation on a package. -/
def Starts (launch : Launch) (environment vs : Table String) : Prop :=
  ∃ (directory : String) (as : List Action) (a : Action) (i : Invocation),
    let s := start ⟨environment, directory⟩ launch
    (∀ b ∈ as, b.setsVariables = false) ∧ (moment? s as a).isSome ∧
      i ∈ ((s.after as).step a).1.calls ∧ i.environment = vs

theorem environmentFrom?_of_starts (h : Starts launch environment vs) :
    environmentFrom? environment = some vs := by
  obtain ⟨directory, as, a, i, has, hm, hi, rfl⟩ := h
  obtain ⟨m, hm⟩ := Option.isSome_iff_exists.mp hm
  obtain ⟨before, hbefore, rfl⟩ := exists_prefix_of_moment? hm
  obtain ⟨-, he⟩ := brings_of_moment? hm hi
  rwa [environment_after fun b hb => has b (hbefore.subset hb)] at he

/-- A package is made in a context that is filled by setters. -/
def packageRun : List Action :=
  [.newDraft "b" (.commandLine .recording), .replace "b" "config_dir" (.str "/c") [],
    .replace "b" "cache_dir" (.str "/k") [], .replace "b" "data_dir" (.str "/d") [],
    .build "b" "c", .package "c" "p" "nixpkgs#hello"]

theorem starts_of_environmentFrom? (h : environmentFrom? environment = some vs)
    (launch : Launch) : Starts launch environment vs := by
  let t := (start ⟨environment, "/"⟩ launch).after packageRun
  have hrun : ∀ b ∈ packageRun, b.setsVariables = false := by decide
  have hkept : t.environment = environment := environment_after hrun
  have hh : HasHome t.environment := by
    rw [hkept]
    exact (environmentFrom?_eq_some_iff.mp h).1
  have hp : t.package "p" = .ok
      ⟨⟨.ofText "/c", .ofText "/k", .ofText "/d", .bool false, [], .commandLine .recording⟩,
        ⟨"nixpkgs", "hello"⟩⟩ := rfl
  have hargs : ([] : List Value) = ([] : List String).map .str := rfl
  obtain ⟨i, hi⟩ := exists_call_of_action hp rfl hargs hh .build
  have hmem := hi ▸ List.mem_singleton_self i
  obtain ⟨-, he⟩ := brings_of_action hmem
  have hvs : i.environment = vs := by
    rw [hkept, h] at he
    exact (Option.some.inj he).symm
  exact ⟨"/", packageRun, .buildPackage "p", i, hrun, rfl, hmem, hvs⟩

theorem starts_iff :
    Starts launch environment vs ↔ environmentFrom? environment = some vs :=
  ⟨environmentFrom?_of_starts, fun h => starts_of_environmentFrom? h launch⟩

/-- Programs see the variables that are derived from those of the first process, at any depth. -/
theorem transGen_starts_iff :
    Relation.TransGen (Starts launch) environment vs ↔
      environmentFrom? environment = some vs := by
  refine ⟨fun h => ?_, fun h => .single (starts_iff.mpr h)⟩
  induction h with
  | single h => exact starts_iff.mp h
  | tail _ h ih =>
    -- the inner process has the variables for nix already, and derives them again
    rw [starts_iff, environmentFrom?_fixed ih] at h
    rw [ih, h]

/-- There are no variables for nix exactly if the home directory is missing or empty. Otherwise
they are those of the process with the first file of certificates that is not empty, which settles
them, and they are derived from themselves again. So programs that are started from one another
all see the same variables. -/
theorem environment_derived (environment : Table String) :
    (environmentFrom? environment = none ↔
      environment.find? "HOME" = none ∨ environment.find? "HOME" = some "") ∧
    (∀ v binary c, (Handle.ofContext v binary environment c).result = .error .homeUnset ↔
      environment.find? "HOME" = none ∨ environment.find? "HOME" = some "") ∧
    (∀ vs, environmentFrom? environment = some vs →
      Derives environment vs ∧ (∀ us, Derives environment us → us.same vs) ∧
        (∃ file, vs.find? "NIX_SSL_CERT_FILE" = some file ∧ file ≠ "") ∧
        environmentFrom? vs = some vs) ∧
    ∀ launch vs, Relation.TransGen (Starts launch) environment vs ↔
      environmentFrom? environment = some vs := by
  refine ⟨?_, fun v binary c => ?_, fun vs h => ?_, fun launch vs => transGen_starts_iff⟩
  · rw [environmentFrom?_eq_none_iff, not_hasHome_iff]
  · rw [Handle.ofContext_eq_homeUnset_iff, not_hasHome_iff]
  · have hd := derives_of_environmentFrom? h
    exact ⟨hd, fun us hu => hu.same hd, (hasHome_and_certificates h).2, environmentFrom?_fixed h⟩

/-- An empty variable for the file of certificates gives way to the next one, and an empty home
directory counts as none. -/
theorem environment_derived_emptyVariables :
    let outer := Table.ofList [("NIX_SSL_CERT_FILE", ""), ("HOME", "/h"), ("LANG", "C"),
      ("SSL_CERT_FILE", "/ssl.pem")]
    let inner := Table.ofList [("NIX_SSL_CERT_FILE", "/ssl.pem"), ("HOME", "/h"), ("LANG", "C"),
      ("SSL_CERT_FILE", "/ssl.pem")]
    environmentFrom? (outer.insert "HOME" "") = none ∧
      Derives outer inner ∧ environmentFrom? inner = some inner ∧
      Relation.TransGen (Starts Runner.start) outer inner ∧
      Relation.TransGen (Starts Runner.start) inner inner := by
  intro outer inner
  obtain ⟨hrefused, -⟩ := environment_derived (outer.insert "HOME" "")
  obtain ⟨-, -, hderived, hstarted⟩ := environment_derived outer
  have he : environmentFrom? outer = some inner := by decide +kernel
  obtain ⟨hd, -, -, hfixed⟩ := hderived inner he
  exact ⟨hrefused.mpr (.inr rfl), hd, hfixed, (hstarted _ inner).mpr he,
    ((environment_derived inner).2.2.2 _ inner).mpr hfixed⟩

end Session

end NixContext
