import NixContext.Package.Raw
import NixContext.Proofs.Package

/-! # Connections and their calls

Connecting calls no runner (`RawContext.calls_connect`); a handle calls it once for each run. So
an operation on a package calls what the connection calls that it makes
(`Package.Operation.calls_performRaw`).
-/

namespace NixContext

namespace Activity

variable {α β : Type}

theorem calls_bind (x : Activity α) (f : α → Activity β) :
    (x >>= f).calls = x.calls ++ x.result.toOption.elim [] fun a => (f a).calls := by
  obtain ⟨es, r⟩ := x
  cases r with
  | error e => exact (List.append_nil _).symm
  | ok a => exact List.filterMap_append

theorem calls_bind_of_quiet {f : α → Activity β} (x : Activity α) (hf : ∀ a, (f a).calls = []) :
    (x >>= f).calls = x.calls := by
  rw [calls_bind]
  cases x.result with
  | error e => exact List.append_nil _
  | ok a => exact (congrArg (x.calls ++ ·) (hf a)).trans (List.append_nil _)

theorem calls_bind_of_calls_eq_nil {x : Activity α} {f : α → Activity β} (hx : x.calls = [])
    (hf : ∀ a, (f a).calls = []) : (x >>= f).calls = [] := by
  rw [calls_bind_of_quiet x hf, hx]

theorem calls_ofResult_bind (r : Except Failure α) (f : α → Activity β) :
    (ofResult r >>= f).calls = r.toOption.elim [] fun a => (f a).calls := by
  cases r <;> rfl

end Activity

open Nix

/-- Connecting calls no runner. -/
theorem RawContext.calls_connect (c : RawContext) (binary : String) (environment : Table String) :
    (c.connect binary environment).calls = [] := by
  rw [connect]
  split
  · rfl
  · refine Activity.calls_bind_of_calls_eq_nil rfl fun _ => ?_
    split
    · refine Activity.calls_bind_of_calls_eq_nil ?_ fun _ => rfl
      refine Activity.calls_bind_of_calls_eq_nil rfl fun o => ?_
      split
      · rfl
      · refine Activity.calls_bind_of_calls_eq_nil rfl fun _ => ?_
        split <;> rfl
    · rfl
    · rfl

/-- A connected handle has the program it was given and the variables for nix. -/
theorem RawContext.handle_of_connect {c : RawContext} {binary : String}
    {environment : Table String} {h : Handle}
    (hc : (c.connect binary environment).result = .ok (.handle h)) :
    environmentFrom? environment = some h.environment ∧ h.binary = binary := by
  rw [connect] at hc
  split at hc
  · cases hc
  obtain ⟨_, -, hc⟩ := Activity.result_bind_eq_ok_iff.mp hc
  split at hc
  · obtain ⟨g, hg, he⟩ := Activity.result_bind_eq_ok_iff.mp hc
    cases he
    obtain ⟨o, -, hg⟩ := Activity.result_bind_eq_ok_iff.mp hg
    split at hg
    · cases hg
    · rename_i vs hvs
      obtain ⟨_, -, hg⟩ := Activity.result_bind_eq_ok_iff.mp hg
      split at hg
      · cases hg
      · cases hg
        exact ⟨hvs, rfl⟩
  · cases hc
  · cases hc

/-- The call of a handle; a stub calls nothing. -/
def Connection.calls (args : List String) : Connection → List Invocation
  | handle h => [h.invocation args]
  | stub _ _ => []

theorem Connection.calls_run (c : Connection) (args : List String) (launch : Launch) :
    (c.run args launch).calls = c.calls args := by
  cases c with
  | handle h =>
    rw [run, Handle.run_eq]
    rfl
  | stub c muted => cases muted <;> rfl

namespace Package.Operation

/-- The name of the method that carries out an operation. -/
def method : Operation → String
  | build => "build"
  | evaluate _ => "eval"
  | run _ => "run"

/-- Carries out an operation on a package of any values. -/
def performRaw (binary : String) (environment : Table String) (p : RawPackage)
    (launch : Launch) : Operation → Activity Report
  | build => p.build binary environment launch
  | evaluate json => p.evaluate binary environment json launch
  | run args => p.run binary environment args launch

theorem performRaw_eq (binary : String) (environment : Table String) (p : RawPackage)
    (launch : Launch) (o : Operation) :
    o.performRaw binary environment p launch =
      p.operate binary environment o.method (o.event p.subject) (o.words p.subject) launch := by
  cases o with
  | build => rfl
  | evaluate json => cases json <;> rfl
  | run args => cases args <;> rfl

theorem performRaw_raw (binary : String) (environment : Table String) (p : Package)
    (launch : Launch) (o : Operation) :
    o.performRaw binary environment p.raw launch = o.perform binary environment p launch := by
  cases o <;> rfl

/-- An operation calls what the connection calls that it makes. -/
theorem calls_performRaw {p : RawPackage} {r : RawContext} {o : Operation}
    (hp : p.context = .own r) (hm : o.method ∉ p.hidden) (binary : String)
    (environment : Table String) (launch : Launch) :
    (o.performRaw binary environment p launch).calls =
      (r.connect binary environment).result.toOption.elim [] fun c =>
        c.calls (o.words p.subject) := by
  have he : (Activity.note (o.event p.subject)).calls = [] := by cases o <;> rfl
  rw [performRaw_eq, RawPackage.operate, if_neg hm, hp, Activity.calls_bind, he, List.nil_append]
  refine (Activity.calls_bind _ _).trans ?_
  simp only [r.calls_connect, List.nil_append, Connection.calls_run]

theorem mem_calls_performRaw {binary : String} {environment : Table String} {p : RawPackage}
    {launch : Launch} {o : Operation} {i : Invocation}
    (hi : i ∈ (o.performRaw binary environment p launch).calls) :
    ∃ (r : RawContext) (n : Connection),
      (r.connect binary environment).result = .ok n ∧ i ∈ n.calls (o.words p.subject) := by
  by_cases hm : o.method ∈ p.hidden
  · rw [performRaw_eq, RawPackage.operate, if_pos hm] at hi
    cases hi
  cases hp : p.context with
  | assigned v =>
    have he : (Activity.note (o.event p.subject)).calls = [] := by cases o <;> rfl
    rw [performRaw_eq, RawPackage.operate, if_neg hm, hp, Activity.calls_bind, he] at hi
    cases hi
  | own r =>
    rw [calls_performRaw hp hm] at hi
    cases hc : (r.connect binary environment).result with
    | error f =>
      rw [hc] at hi
      cases hi
    | ok n =>
      rw [hc] at hi
      exact ⟨r, n, hc, hi⟩

end Package.Operation

end NixContext
