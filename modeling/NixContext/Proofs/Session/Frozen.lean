import NixContext.Proofs.Session.Drafts

/-! # Frozen objects

Everything that is reached from a context or a handle refuses assignments, its runner and its
class of backends apart (`isClosed_of_follow`), and no action reaches back into an object once it
is handed out. So a context, a handle and the command lines of a handle are the same however a
run goes on (`frozen_after`).
-/

namespace NixContext.Session

open InPlace

namespace Place

variable {p q : Place} {name : String} {path : List String}

/-- A name that does not lead to a runner or to a class of backends. -/
def IsOwn (name : String) : Prop :=
  name ≠ "runner" ∧ name ≠ "nix_backend"

instance (name : String) : Decidable (IsOwn name) :=
  inferInstanceAs (Decidable (_ ∧ _))

/-- The parts of a closed place are closed, as far as their names are its own. -/
theorem isClosed_of_mem_parts (hp : p.isClosed) (h : (name, q) ∈ p.parts) (hn : IsOwn name) :
    q.isClosed := by
  have hcontext : ∀ args, ∀ x ∈ contextParts args, IsOwn x.1 → x.2.isClosed := by decide
  have hhandle : ∀ x ∈ handleParts, IsOwn x.1 → x.2.isClosed := by decide
  cases p with
  | context args => exact hcontext args _ h hn
  | record r =>
    cases r with
    | handle v => exact hhandle _ h hn
    | _ => exact (by decide : ∀ x ∈ parts (.record _), IsOwn x.1 → x.2.isClosed) _ h hn
  | collection | plain => cases h
  | _ => cases hp

theorem mem_parts_of_lookup_eq_some (h : p.parts.lookup name = some q) : (name, q) ∈ p.parts := by
  obtain ⟨before, behind, hparts, -⟩ := List.lookup_eq_some_iff.mp h
  rw [hparts]
  exact List.mem_append_right before (.head behind)

/-- What is reached part by part from a closed place is closed. -/
theorem isClosed_of_follow (hp : p.isClosed) (h : p.follow path = some q)
    (hpath : ∀ n ∈ path, IsOwn n) : q.isClosed := by
  induction path generalizing p with
  | nil =>
    cases h
    exact hp
  | cons n path ih =>
    rw [follow] at h
    split at h
    · next r hr =>
      refine ih ?_ h fun m hm => hpath m (.tail _ hm)
      exact isClosed_of_mem_parts hp (mem_parts_of_lookup_eq_some hr) (hpath n (.head _))
    · cases h

/-- A closed place refuses whatever is assigned to a field. -/
theorem exists_refusal? (hp : p.isClosed) (hn : isFieldName name) :
    ∃ f, p.refusal? name = some f := by
  cases p with
  | record r => exact ⟨_, if_pos hn⟩
  | context | collection | plain => exact ⟨_, rfl⟩
  | _ => cases hp

end Place

/-- An assignment of any value fails and leaves the session as it was. -/
def Refuses (s : Session) (on : String) (path : List String) (t : Target) (f : Failure) : Prop :=
  ∀ v, s.step (.assign on path t v) = (⟨[], .error f⟩, s)

variable {s : Session} {on label name : String} {o : Object} {p : Place} {path : List String}
  {a : Action} {as : List Action}

section Assign

theorem refuses_of_assign_eq_error (ho : s.object on = .ok o) {t : Target} {f : Failure}
    (h : ∀ v, o.assign path t v = .error f) : s.Refuses on path t f := by
  intro v
  refine Eq.trans (run_ask_bind_of_ok ho) ?_
  exact run_ask_bind_of_error (h v)

theorem assign_field_of_refusal? (hp : (Place.ofObject o).follow path = some p) {f : Failure}
    (h : p.refusal? name = some f) (v : Value) : o.assign path (.field name) v = .error f := by
  simp only [Object.assign, hp, h]

theorem assign_item_of_collection (h : (Place.ofObject o).follow path = some .collection)
    (key v : Value) : o.assign path (.item key) v = .error .typeMismatch := by
  simp only [Object.assign, h]

/-- No path from a closed object leads to a field that can be assigned to. -/
theorem exists_refuses_field (ho : s.object on = .ok o) (hc : (Place.ofObject o).isClosed)
    (hpath : ∀ n ∈ path, Place.IsOwn n) (hn : Place.isFieldName name) :
    ∃ f, s.Refuses on path (.field name) f := by
  cases hp : (Place.ofObject o).follow path with
  | none =>
    exact ⟨.wrongKind, refuses_of_assign_eq_error ho fun v => by simp only [Object.assign, hp]⟩
  | some p =>
    obtain ⟨f, hf⟩ := Place.exists_refusal? (Place.isClosed_of_follow hc hp hpath) hn
    exact ⟨f, refuses_of_assign_eq_error ho (assign_field_of_refusal? hp hf)⟩

end Assign

section Kept

theorem step_command {h : Nix.Handle} (hs : s.handle on = .ok h) (args : Value) :
    (s.step (.command on args)).1 = ⟨[], (argsOf args).map fun xs => .argv (h.command xs)⟩ := by
  rw [step, carryOut, fst_run_ask_bind, hs, Activity.ofResult_ok_bind, fst_run_ask_bind]
  cases argsOf args <;> rfl

end Kept

/-- In any state of a session, contexts and what is reached from them and from handles refuse
assignments of any value: a context to all names, the records of a handle to all that are names of
fields, and collections to items. Nothing changes then, and contexts, handles and the command lines
of handles stay the same whatever is done next, until something else is stored under their
label. -/
theorem frozen_after (s : Session) :
    (∀ on o path p, s.object on = .ok o → (Place.ofObject o).follow path = some p →
      (∀ name args, p = .context args → s.Refuses on path (.field name) (.frozenField name)) ∧
      (∀ name r, p = .record r → Place.isFieldName name →
        s.Refuses on path (.field name) (.rejected r [⟨.frozen, [.field name]⟩])) ∧
      (p = .collection → ∀ key, s.Refuses on path (.item key) .typeMismatch)) ∧
    (∀ on o path name, s.object on = .ok o → (Place.ofObject o).isClosed →
      (∀ n ∈ path, Place.IsOwn n) → Place.isFieldName name →
        ∃ f, s.Refuses on path (.field name) f) ∧
    (∀ label c, s.context label = .ok c → ∀ as : List Action, (∀ a ∈ as, ¬ a.rebinds label) →
      (s.after as).context label = .ok c) ∧
    (∀ label h, s.handle label = .ok h → ∀ as : List Action, (∀ a ∈ as, ¬ a.rebinds label) →
      (s.after as).handle label = .ok h ∧
        ∀ args, ((s.after as).step (.command label args)).1 =
          ⟨[], (argsOf args).map fun xs => .argv (h.command xs)⟩) := by
  refine ⟨fun on o path p ho hp => ⟨fun name args hc => ?_, fun name r hr hn => ?_,
      fun hc key => ?_⟩,
    fun on o path name ho hc hpath hn => exists_refuses_field ho hc hpath hn,
    fun label c hc as has => ?_, fun label h hh as has => ?_⟩
  · subst hc
    exact refuses_of_assign_eq_error ho (assign_field_of_refusal? hp rfl)
  · subst hr
    exact refuses_of_assign_eq_error ho (assign_field_of_refusal? hp (if_pos hn))
  · subst hc
    exact refuses_of_assign_eq_error ho (assign_item_of_collection hp key)
  · rw [context_eq_ok_iff] at hc ⊢
    exact object_after hc rfl has
  · have hkept : (s.after as).handle label = .ok h := by
      rw [handle_eq_ok_iff] at hh ⊢
      exact object_after hh rfl has
    exact ⟨hkept, step_command hkept⟩

/-- A context is built and a handle connected. -/
def handedOut : Session :=
  (start ⟨.ofList [("HOME", "/h")], "/"⟩).after
    [.newDraft "b" (.commandLine .plain), .replace "b" "config_dir" (.str "/c") [],
      .replace "b" "cache_dir" (.str "/k") [], .replace "b" "data_dir" (.str "/d") [],
      .build "b" "c", .connect "c" "n"]

/-- Assignments, setters on the draft and on the context, and other surroundings. -/
def attempts : List Action :=
  [.assign "c" [] (.field "_data_dir") (.str "/z"),
    .assign "n" ["nix_config"] (.field "warn_dirty") (.bool true),
    .assign "n" ["flake_args", "override_inputs"] (.item (.str "a")) (.str "b"),
    .assign "n" [] (.field "_x") .null, .assign "b" [] (.field "_data_dir") (.str "/z"),
    .replace "b" "data_dir" (.str "/z") [], .applySettings "c" [(.str "data_dir", .str "/z")],
    .setVariable "HOME" "/z", .changeDirectory "/z"]

theorem frozen_after_attempts :
    let c : Context :=
      { configDir := .ofText "/c", cacheDir := .ofText "/k", dataDir := .ofText "/d" }
    handedOut.Refuses "c" [] (.field "_data_dir") (.frozenField "_data_dir") ∧
    handedOut.Refuses "n" ["nix_config"] (.field "warn_dirty")
      (.rejected .options [⟨.frozen, [.field "warn_dirty"]⟩]) ∧
    handedOut.Refuses "n" ["flake_args", "override_inputs"] (.item (.str "a")) .typeMismatch ∧
    (∃ f, handedOut.Refuses "n" ["nix_config", "netrc_file"] (.field "parent") f) ∧
    (handedOut.after attempts).context "c" = .ok c ∧
    ∃ h, (handedOut.after attempts).handle "n" = .ok h ∧
      ((handedOut.after attempts).step (.command "n" (.list [.str "build"]))).1.result =
        .ok (.argv (h.command ["build"])) := by
  intro c
  have hkept : ∀ label ∈ ["c", "n"], ∀ a ∈ attempts, ¬ a.rebinds label := by
    simp [attempts, Action.rebinds, Action.made?]
  have hc : handedOut.context "c" = .ok c := by decide +kernel
  have hn : (handedOut.handle "n").isOk := by decide +kernel
  rcases hh : handedOut.handle "n" with f | h
  · rw [hh] at hn
    cases hn
  obtain ⟨hrefuses, hclosed, hcontexts, hhandles⟩ := frozen_after handedOut
  have ho := handle_eq_ok_iff.mp hh
  refine ⟨(hrefuses "c" _ [] _ (context_eq_ok_iff.mp hc) rfl).1 _ true rfl,
    (hrefuses "n" _ ["nix_config"] _ ho rfl).2.1 _ _ rfl (by decide),
    (hrefuses "n" _ ["flake_args", "override_inputs"] _ ho rfl).2.2 rfl _,
    hclosed "n" _ ["nix_config", "netrc_file"] _ ho rfl (by simp [Place.IsOwn]) (by decide),
    hcontexts "c" c hc attempts (hkept "c" (by decide)), h, ?_⟩
  obtain ⟨hlater, hcommand⟩ := hhandles "n" h hh attempts (hkept "n" (by decide))
  exact ⟨hlater, congrArg Activity.result (hcommand (.list [.str "build"]))⟩

/-- Names that are not those of fields are not covered: a handle takes them. -/
theorem not_forall_refuses :
    ¬ ∀ (w : Surroundings) (launch : Nix.Launch) (as : List Action) (on : String)
      (h : Nix.Handle) (name : String), ((start w launch).after as).handle on = .ok h →
        ∃ f, ((start w launch).after as).Refuses on [] (.field name) f := by
  intro h
  let as : List Action := [.newHandle "n" [(.str "nix_bin", .str "nix")]]
  obtain ⟨f, hf⟩ := h ⟨∅, "/"⟩ Nix.Runner.start as "n" { binary := "nix", runner := .recorder }
    "_x" (by decide +kernel)
  have hok : (((start ⟨∅, "/"⟩).after as).step (.assign "n" [] (.field "_x") .null)).1.result =
      .ok .done := by
    decide +kernel
  rw [hf] at hok
  cases hok

end NixContext.Session
