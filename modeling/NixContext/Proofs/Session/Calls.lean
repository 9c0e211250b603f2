import NixContext.Proofs.Connection
import NixContext.Proofs.Session.History

/-! # What runners are called with

Three moments matter to a call: the program is fixed when the session begins, the variables of
a handle when it is connected, and those of an operation on a package when it is carried out
(`calls_at_moment`). Nothing that happens to the surroundings in between reaches a call.
-/

namespace NixContext

open Nix

namespace InPlace

variable {σ α β : Type}

/-- An operation that calls no runner. -/
def Quiet (x : InPlace σ α) : Prop :=
  ∀ s, (x.run s).1.calls = []

theorem quiet_pure (a : α) : (pure a : InPlace σ α).Quiet := fun _ => rfl

theorem quiet_ask (g : σ → Except Failure α) : (ask g).Quiet := fun _ => rfl

theorem quiet_write (g : σ → σ) : (write g).Quiet := fun _ => rfl

theorem Quiet.bind {x : InPlace σ α} {k : α → InPlace σ β} (hx : x.Quiet)
    (hk : ∀ a, (k a).Quiet) : (x >>= k).Quiet := by
  intro s
  have hs := hx s
  rw [run_bind]
  rcases hr : x.run s with ⟨⟨es, f | a⟩, t⟩
  · rw [hr] at hs
    exact hs
  · rw [hr] at hs
    have hes : es.filterMap Event.call? = [] := hs
    exact List.filterMap_append.trans (by rw [hes]; exact hk a t)

end InPlace

namespace Draft

open InPlace

theorem quiet_call (name : String) (v : Value) : (call name v).Quiet :=
  (quiet_ask _).bind fun _ => (quiet_ask _).bind fun _ => quiet_write _

theorem quiet_give (x : Fields) (fs : List Setting) : (give x fs).Quiet := by
  induction fs with
  | nil => exact quiet_pure ()
  | cons f fs ih =>
    rw [give]
    split
    · exact (quiet_call _ _).bind fun _ => ih
    · exact (quiet_pure ()).bind fun _ => ih

end Draft

/-- The action that carries out an operation. -/
def Package.Operation.action (on : String) : Operation → Session.Action
  | build => .buildPackage on
  | evaluate json => .evaluatePackage on json
  | run args => .runPackage on args

namespace Session

open InPlace
open Package (Operation)

variable {s m : Session} {a : Action} {as : List Action} {on label : String}

section Run

theorem connection_congr {t : Session} (h : t.objects.find? on = s.objects.find? on) :
    t.connection on = s.connection on := by
  rw [connection, connection, object, object, h]

theorem connection_store (s : Session) (label : String) (n : Connection) :
    (s.store label (.connection n)).connection label = .ok n :=
  connection_eq_ok_iff.mpr (find?_eq_some_iff.mp (find?_store s label _))

/-- A run calls what its connection calls. -/
theorem calls_step_run (s : Session) (on : String) (args : Value) :
    (s.step (.run on args)).1.calls =
      (s.connection on).toOption.elim [] fun c => (argsOf args).toOption.elim [] c.calls := by
  rw [step, carryOut, fst_run_ask_bind, Activity.calls_ofResult_bind]
  congr 1
  funext c
  rw [fst_run_look_bind, Activity.calls_bind_of_quiet _ fun _ => rfl, runArgs,
    Activity.calls_ofResult_bind]
  congr 1
  funext xs
  exact c.calls_run xs s.launch

theorem mem_calls_step_run {args : Value} {i : Invocation}
    (hi : i ∈ (s.step (.run on args)).1.calls) :
    ∃ h xs, s.connection on = .ok (.handle h) ∧ argsOf args = .ok xs ∧ i = h.invocation xs := by
  rw [calls_step_run] at hi
  cases hc : s.connection on with
  | error f => rw [hc] at hi; cases hi
  | ok n =>
    cases hx : argsOf args with
    | error f => rw [hc, hx] at hi; cases hi
    | ok xs =>
      rw [hc, hx] at hi
      cases n with
      | stub c muted => cases hi
      | handle h => exact ⟨h, xs, rfl, rfl, List.mem_singleton.mp hi⟩

/-- What a successful connection has stored. -/
theorem connect_of_makes (h : m.Makes (.connect on label) label) :
    ∃ (c : RawContext) (n : Connection), (c.connect m.binary m.environment).result = .ok n ∧
      (m.step (.connect on label)).1.result = .ok (.connection n) ∧
      (m.step (.connect on label)).2.connection label = .ok n := by
  obtain ⟨o, ⟨c, n, hc, hn, rfl⟩, ht⟩ := exists_stores_of_makes h
  refine ⟨c, n, hn, ?_, by rw [ht, connection_store]⟩
  rw [step, carryOut, fst_run_ask_bind, hc, Activity.ofResult_ok_bind, fst_run_look_bind,
    Activity.result_bind_eq_ok_iff]
  exact ⟨n, hn, rfl⟩

theorem ofContext_ne_connection (c : RawContext) (n : Connection) :
    Object.ofContext c ≠ .connection n := by
  rw [Object.ofContext]
  cases c.context? <;> rintro ⟨⟩

theorem ofPackage_ne_connection (p : RawPackage) (n : Connection) :
    Object.ofPackage p ≠ .connection n := by
  rw [Object.ofPackage]
  cases p.package? <;> rintro ⟨⟩

/-- Only a handle that takes an assignment is a handle afterwards. -/
theorem eq_handle_of_assign {q : Object} {path : List String} {t : Target} {v : Value}
    {h : Handle} (ha : q.assign path t v = .ok (.connection (.handle h))) :
    q = .connection (.handle h) := by
  have hput : ∀ name, q.put name v = .connection (.handle h) → q = .connection (.handle h) := by
    intro name hp
    cases q with
    | connection n => cases n with
      | handle g => exact hp
      | stub => cases hp
    | package | rawPackage => exact absurd hp (ofPackage_ne_connection _ _)
    | _ => cases hp
  cases hp : (Place.ofObject q).follow path with
  | none => simp [Object.assign, hp] at ha
  | some p =>
    cases t with
    | field name =>
      simp only [Object.assign, hp] at ha
      split at ha
      · cases ha
      · have ha := Except.ok.inj ha
        split at ha
        · exact hput name ha
        · exact ha
    | item key =>
      simp only [Object.assign, hp] at ha
      split at ha
      · cases hi : putItem key v _ <;> rw [hi] at ha <;> cases ha
      · cases ha

/-- Handles are made by connecting, or from given values. -/
theorem connect_or_newHandle_of_makes {h : Handle} (hm : m.Makes a label)
    (hn : (m.step a).2.objects.find? label = some (.connection (.handle h))) :
    (∃ on, a = .connect on label) ∨ ∃ entries, a = .newHandle label entries := by
  have hl := label?_of_makes hm
  obtain ⟨o, ho, ht⟩ := exists_stores_of_makes hm
  have hn' := hn
  rw [ht, find?_store] at hn'
  obtain rfl := Option.some.inj hn'
  cases a <;> simp only [Action.label?, Action.made?, Option.some.injEq, reduceCtorEq] at hl <;>
    subst hl
  case connect => exact .inl ⟨_, rfl⟩
  case newHandle => exact .inr ⟨_, rfl⟩
  -- each of the others stores an object of another kind, or what was there before
  case newDraft | loadDraft => obtain ⟨d, -, hd⟩ := ho; cases hd
  case applySettings | apply | replace => obtain ⟨d, e, -, -, he⟩ := ho; cases he
  case newSettings => obtain ⟨x, hx⟩ := ho; cases hx
  case build =>
    obtain ⟨c, hc⟩ := ho
    exact absurd hc.symm (ofContext_ne_connection c _)
  case package =>
    obtain ⟨p, hp⟩ := ho
    exact absurd hp.symm (ofPackage_ne_connection p _)
  case assign =>
    obtain ⟨q, hq, ha⟩ := ho
    obtain rfl := eq_handle_of_assign ha
    rcases hm with ⟨hr, -⟩ | hne
    · cases hr
    · exact absurd (by rw [ht, store_self hq]) hne

end Run

section Moment

/-- The session whose variables the runner is given if an action calls one: for a handle the
one in which it was connected, for a package the one at hand. -/
def moment? (s : Session) (as : List Action) : Action → Option Session
  | .run on _ =>
    match maker? on s as with
    | some (m, .connect _ _) => some m
    | _ => none
  | .buildPackage _ | .evaluatePackage _ _ | .runPackage _ _ => some (s.after as)
  | _ => none

theorem quiet_callSetter (name : String) (v : Value) (items : List Value) :
    (callSetter name v items).Quiet := by
  refine (Draft.quiet_call name v).bind fun _ => ?_
  split
  · exact quiet_write _
  · exact quiet_pure ()

theorem quiet_onDraft {on : String} {x : InPlace Draft Unit} (hx : x.Quiet) :
    (onDraft on x).Quiet := by
  intro s
  cases hd : s.draft on with
  | error f => rw [run_onDraft_of_error hd]; rfl
  | ok d =>
    rw [run_onDraft hd]
    exact hx d

/-- Only runs and operations on packages call a runner. -/
theorem calls_step_eq_nil (hr : ∀ on args, a ≠ .run on args)
    (ho : ∀ on (o : Operation), a ≠ o.action on) : (s.step a).1.calls = [] := by
  refine (?_ : (carryOut a).Quiet) s
  cases a
  case run on args => exact absurd rfl (hr on args)
  case buildPackage on => exact absurd rfl (ho on .build)
  case evaluatePackage on json => exact absurd rfl (ho on (.evaluate json))
  case runPackage on args => exact absurd rfl (ho on (.run args))
  case setVariable | unsetVariable | changeDirectory | newDraft =>
    exact (quiet_write _).bind fun _ => quiet_pure _
  case loadDraft label e file context =>
    refine Quiet.bind (fun s => ?_) fun _ => (quiet_write _).bind fun _ => quiet_pure _
    refine Activity.calls_bind_of_calls_eq_nil rfl fun _ => ?_
    exact Activity.calls_bind_of_calls_eq_nil rfl fun _ => rfl
  case newSettings | newHandle =>
    exact (quiet_ask _).bind fun _ => (quiet_write _).bind fun _ => quiet_pure _
  case applySettings =>
    exact (quiet_ask _).bind fun _ => (quiet_ask _).bind fun _ =>
      (quiet_onDraft (Draft.quiet_give _ _)).bind fun _ => quiet_pure _
  case apply =>
    exact (quiet_ask _).bind fun _ =>
      (quiet_onDraft (Draft.quiet_give _ _)).bind fun _ => quiet_pure _
  case replace => exact (quiet_onDraft (quiet_callSetter _ _ _)).bind fun _ => quiet_pure _
  case build =>
    exact (quiet_ask _).bind fun _ => (quiet_ask _).bind fun _ => (quiet_ask _).bind fun _ =>
      (quiet_write _).bind fun _ => quiet_pure _
  case connect =>
    exact (quiet_ask _).bind fun c => Quiet.bind (fun s => c.calls_connect _ _) fun _ =>
      (quiet_write _).bind fun _ => quiet_pure _
  case package | assign =>
    exact (quiet_ask _).bind fun _ => (quiet_ask _).bind fun _ =>
      (quiet_write _).bind fun _ => quiet_pure _
  case inspect => exact (quiet_ask _).bind fun _ => quiet_pure _
  case command | compare =>
    exact (quiet_ask _).bind fun _ => (quiet_ask _).bind fun _ => quiet_pure _

theorem calls_step_action (s : Session) (on : String) (o : Operation) :
    (s.step (o.action on)).1.calls =
      (s.anyPackage on).toOption.elim [] fun p =>
        (o.performRaw s.binary s.environment p s.launch).calls := by
  have hs : s.step (o.action on) =
      (ask (·.anyPackage on) >>= fun p =>
        look (fun s => o.performRaw s.binary s.environment p s.launch) >>= fun r =>
          pure (.report r)).run s := by
    cases o <;> rfl
  rw [hs, fst_run_ask_bind, Activity.calls_ofResult_bind]
  congr 1
  funext p
  rw [fst_run_look_bind, Activity.calls_bind_of_quiet _ fun _ => rfl]

variable {w : Surroundings} {launch : Launch}

/-- In a session that has just begun there are no handles, so each is connected or given. -/
theorem exists_maker?_of_handle {h : Handle}
    (hh : ((start w launch).after as).connection on = .ok (.handle h)) :
    ∃ m, (∃ c, maker? on (start w launch) as = some (m, .connect c on)) ∨
      ∃ entries, maker? on (start w launch) as = some (m, .newHandle on entries) := by
  have hf := find?_eq_some_iff.mpr (connection_eq_ok_iff.mp hh)
  obtain ⟨m, a, hm⟩ := exists_maker? rfl hf
  obtain ⟨hmakes, -, hkept⟩ := maker?_spec hm
  rw [hkept] at hf
  rcases connect_or_newHandle_of_makes hmakes hf with ⟨c, rfl⟩ | ⟨entries, rfl⟩
  · exact ⟨m, .inl ⟨c, hm⟩⟩
  · exact ⟨m, .inr ⟨entries, hm⟩⟩

/-- A call starts the given program with variables derived from the given ones. -/
def Brings (binary : String) (environment : Table String) (i : Invocation) : Prop :=
  i.argv.head? = some binary ∧ environmentFrom? environment = some i.environment

theorem brings_of_connect {c : RawContext} {n : Connection} {binary : String}
    {environment : Table String} (hc : (c.connect binary environment).result = .ok n)
    {args : List String} {i : Invocation} (hi : i ∈ n.calls args) :
    Brings binary environment i := by
  cases n with
  | stub c muted => cases hi
  | handle h =>
    obtain rfl := List.mem_singleton.mp hi
    obtain ⟨he, hb⟩ := RawContext.handle_of_connect hc
    exact ⟨congrArg some hb, he⟩

/-- What has been connected is kept, and was connected with the program of the session. -/
theorem connection_after
    (h : maker? label (start w launch) as = some (m, .connect on label)) :
    ∃ (c : RawContext) (n : Connection),
      (c.connect (Nix.binary w.environment) m.environment).result = .ok n ∧
      (m.step (.connect on label)).1.result = .ok (.connection n) ∧
      ((start w launch).after as).connection label = .ok n := by
  obtain ⟨hmakes, ⟨before, behind, -, rfl⟩, hkept⟩ := maker?_spec h
  obtain ⟨c, n, hn, hx, hs⟩ := connect_of_makes hmakes
  rw [(fixed_after _ before).1] at hn
  exact ⟨c, n, hn, hx, (connection_congr hkept).trans hs⟩

/-- A run brings the program of the session and the variables from when its handle was
connected. -/
theorem brings_of_run {c : String} {args : Value}
    (h : maker? on (start w launch) as = some (m, .connect c on)) {i : Invocation}
    (hi : i ∈ (((start w launch).after as).step (.run on args)).1.calls) :
    Brings (Nix.binary w.environment) m.environment i := by
  obtain ⟨c, n, hn, -, hc⟩ := connection_after h
  obtain ⟨g, xs, hg, -, rfl⟩ := mem_calls_step_run hi
  rw [hc] at hg
  cases hg
  have hi : g.invocation xs ∈ (Connection.handle g).calls xs := .head _
  exact brings_of_connect hn hi

/-- An operation on a package brings the program of the session and the variables at hand. -/
theorem brings_of_action {o : Operation} {i : Invocation}
    (hi : i ∈ (((start w launch).after as).step (o.action on)).1.calls) :
    Brings (Nix.binary w.environment) ((start w launch).after as).environment i := by
  rw [calls_step_action, (fixed_after _ as).1] at hi
  cases hp : ((start w launch).after as).anyPackage on with
  | error f => rw [hp] at hi; cases hi
  | ok p =>
    rw [hp] at hi
    obtain ⟨r, n, hr, hi⟩ := Operation.mem_calls_performRaw hi
    exact brings_of_connect hr hi

/-- Where the values of a package are as declared, the operation is the package's own. -/
theorem calls_step_action_of_package {p : Package} (hp : s.package on = .ok p) (o : Operation) :
    (s.step (o.action on)).1.calls = (o.perform s.binary s.environment p s.launch).calls := by
  rw [calls_step_action, anyPackage_of_package hp, ← Operation.performRaw_raw]
  rfl

/-- An operation calls the runner once if the package's context can be connected. -/
theorem exists_call_of_action {p : Package} {v : Variant} {xs : List String}
    (hp : s.package on = .ok p) (hv : p.context.engine = .commandLine v)
    (hx : p.context.extraArgs = xs.map .str) (hh : HasHome s.environment) (o : Operation) :
    ∃ i, (s.step (o.action on)).1.calls = [i] := by
  obtain ⟨q, hq, -⟩ := exists_preset
  obtain ⟨vs, -, hc⟩ := Handle.ofContext_of_hasHome hq hx hh v s.binary
  have hconnect := Context.connect_commandLine hv hc
  refine ⟨(Handle.configured v s.binary vs q xs).invocation (o.words p.installable), ?_⟩
  rw [calls_step_action_of_package hp, Operation.perform_eq, Package.operate_of_connect hconnect,
    Connection.run, Handle.run_eq]
  cases o <;> rfl

/-- A call brings the program of the session and the variables of its moment. -/
theorem brings_of_moment? (h : moment? (start w launch) as a = some m)
    {i : Invocation} (hi : i ∈ (((start w launch).after as).step a).1.calls) :
    Brings (Nix.binary w.environment) m.environment i := by
  unfold moment? at h
  split at h
  · rename_i on args
    split at h
    · rename_i c label hm
      cases h
      obtain rfl : label = on := Option.some.inj (label?_of_makes (maker?_spec hm).1)
      exact brings_of_run hm hi
    · cases h
  · cases h
    exact brings_of_action (o := .build) hi
  · cases h
    exact brings_of_action (o := .evaluate _) hi
  · cases h
    exact brings_of_action (o := .run _) hi
  · cases h

/-- Calls have a moment, except those of handles that were made from given values. -/
theorem moment?_or_newHandle_of_calls (h : (((start w launch).after as).step a).1.calls ≠ []) :
    moment? (start w launch) as a ≠ none ∨
      ∃ on args m entries, a = .run on args ∧
        maker? on (start w launch) as = some (m, .newHandle on entries) := by
  by_cases ho : ∃ on, ∃ o : Operation, a = o.action on
  · obtain ⟨on, o, rfl⟩ := ho
    left
    cases o <;> exact Option.some_ne_none _
  · by_cases hr : ∃ on args, a = .run on args
    · obtain ⟨on, args, rfl⟩ := hr
      obtain ⟨i, hi⟩ := List.exists_mem_of_ne_nil _ h
      obtain ⟨g, xs, hg, -⟩ := mem_calls_step_run hi
      obtain ⟨m, ⟨c, hm⟩ | ⟨entries, hm⟩⟩ := exists_maker?_of_handle hg
      · left
        rw [moment?, hm]
        exact Option.some_ne_none m
      · exact .inr ⟨on, args, m, entries, rfl, hm⟩
    · refine absurd (calls_step_eq_nil (fun on args he => hr ⟨on, args, he⟩) ?_) h
      exact fun on o he => ho ⟨on, o, he⟩

/-- A connection is kept as it was made. A run of a handle brings nix the variables that were
derived when the handle was connected, an operation on a package those derived when it is
carried out, and both start the program that the session began with; so a home directory and a
file of certificates are always there. No other action calls a runner, handles made from given
values apart. All this holds whatever the runners do. -/
theorem calls_at_moment (w : Surroundings) (launch : Launch) (as : List Action) :
    let s := start w launch
    let t := s.after as
    (∀ on label m, maker? label s as = some (m, .connect on label) →
      ∃ n, (m.step (.connect on label)).1.result = .ok (.connection n) ∧
        t.connection label = .ok n ∧
        ∀ h, n = .handle h → environmentFrom? m.environment = some h.environment ∧
          ∀ args xs, argsOf args = .ok xs →
            (t.step (.run label args)).1.calls = [⟨h.command xs, h.environment⟩]) ∧
    (∀ a m, moment? s as a = some m → ∀ i ∈ (t.step a).1.calls,
      Brings (Nix.binary w.environment) m.environment i ∧ HasHome i.environment ∧
        ∃ file, i.environment.find? "NIX_SSL_CERT_FILE" = some file ∧ file ≠ "") ∧
    (∀ on p v (xs : List String), t.package on = .ok p → p.context.engine = .commandLine v →
      p.context.extraArgs = xs.map .str → HasHome t.environment →
        ∀ o : Operation, ∃ i, (t.step (o.action on)).1.calls = [i]) ∧
    (∀ a, (t.step a).1.calls ≠ [] → moment? s as a ≠ none ∨
      ∃ on args m entries, a = .run on args ∧ maker? on s as = some (m, .newHandle on entries)) := by
  intro s t
  refine ⟨fun on label m hm => ?_, fun a m ha i hi => ?_,
    fun on p v xs hp hv hx hh => exists_call_of_action hp hv hx hh,
    fun a => moment?_or_newHandle_of_calls⟩
  · obtain ⟨c, n, hn, hx, hc⟩ := connection_after hm
    refine ⟨n, hx, hc, ?_⟩
    rintro h rfl
    refine ⟨(RawContext.handle_of_connect hn).1, fun args xs hargs => ?_⟩
    rw [calls_step_run, hc, hargs]
    rfl
  · have hb := brings_of_moment? ha hi
    exact ⟨hb, hasHome_and_certificates hb.2⟩

/-- A handle is connected before the home directory and the program are set anew, a package is
made in between. -/
def movedRun : List Action :=
  [.newDraft "b" (.commandLine .recording), .replace "b" "config_dir" (.str "/c") [],
    .replace "b" "cache_dir" (.str "/k") [], .replace "b" "data_dir" (.str "/d") [],
    .build "b" "c", .connect "c" "n", .package "c" "p" "nixpkgs#hello",
    .setVariable "HOME" "/new", .setVariable "FLOX_NIX_BIN" "nix-2"]

theorem calls_after_movedRun :
    let old := Table.ofList [("HOME", "/old"), ("FLOX_NIX_BIN", "nix-1")]
    let t := (start ⟨old, "/"⟩).after movedRun
    (∃ i, (t.step (.run "n" (.list [.str "show-config"]))).1.calls = [i] ∧ Brings "nix-1" old i) ∧
    (∃ i, (t.step (.buildPackage "p")).1.calls = [i] ∧
      Brings "nix-1" ((old.insert "HOME" "/new").insert "FLOX_NIX_BIN" "nix-2") i ∧
      HasHome i.environment) := by
  intro old t
  obtain ⟨-, hmoment, -⟩ := calls_at_moment ⟨old, "/"⟩ Runner.start movedRun
  have hbinary : Nix.binary old = "nix-1" := by decide +kernel
  constructor
  · have hm : moment? (start ⟨old, "/"⟩) movedRun (.run "n" (.list [.str "show-config"])) =
        some ((start ⟨old, "/"⟩).after (movedRun.take 5)) := by
      have hmaker : maker? "n" (start ⟨old, "/"⟩)
          (movedRun.take 5 ++ .connect "c" "n" :: movedRun.drop 6) = some (_, .connect "c" "n") :=
        maker?_append_cons (.inl ⟨rfl, by decide +kernel⟩)
          (by simp [movedRun, Action.label?, Action.made?])
      rw [show movedRun.take 5 ++ .connect "c" "n" :: movedRun.drop 6 = movedRun from rfl] at hmaker
      rw [moment?, hmaker]
    have hold : ((start ⟨old, "/"⟩).after (movedRun.take 5)).environment = old := by
      decide +kernel
    obtain ⟨i, hi⟩ := List.length_eq_one_iff.mp (by decide +kernel :
      (t.step (.run "n" (.list [.str "show-config"]))).1.calls.length = 1)
    obtain ⟨hb, -⟩ := hmoment _ _ hm i (by rw [hi]; exact .head _)
    rw [hbinary, hold] at hb
    exact ⟨i, hi, hb⟩
  · have hnew : t.environment = (old.insert "HOME" "/new").insert "FLOX_NIX_BIN" "nix-2" := by
      decide +kernel
    obtain ⟨i, hi⟩ := List.length_eq_one_iff.mp (by decide +kernel :
      (t.step (.buildPackage "p")).1.calls.length = 1)
    obtain ⟨hb, hh, -⟩ := hmoment _ t rfl i (by rw [hi]; exact .head _)
    rw [hbinary, hnew] at hb
    exact ⟨i, hi, hb, hh⟩

end Moment

end Session

end NixContext
