import NixContext.Activity

/-! # Operations in place

An operation in place changes a state as it goes. It may fail after it has written, and what it
has written by then stays written.
-/

namespace NixContext

/-- An operation on a state: what comes of it, and the state that it leaves. -/
structure InPlace (σ α : Type) where
  run : σ → Activity α × σ

namespace InPlace

variable {σ α β : Type}

/-- The operation that gives a result and leaves the state as it is. -/
def done (a : α) : InPlace σ α :=
  ⟨fun s => (.done a, s)⟩

/-- Goes on from where an operation has led, unless it failed. -/
def goOn (k : α → InPlace σ β) : Activity α × σ → Activity β × σ
  | (⟨es, .ok a⟩, t) =>
    let y := (k a).run t
    (⟨es ++ y.1.events, y.1.result⟩, y.2)
  | (⟨es, .error f⟩, t) => (⟨es, .error f⟩, t)

/-- One operation after the other, unless the first fails. -/
def andThen (x : InPlace σ α) (k : α → InPlace σ β) : InPlace σ β :=
  ⟨fun s => goOn k (x.run s)⟩

instance : Monad (InPlace σ) where
  pure := done
  bind := andThen

/-- An activity that looks at the state. -/
def look (g : σ → Activity α) : InPlace σ α :=
  ⟨fun s => (g s, s)⟩

/-- What is found in the state, without any event. -/
def ask (g : σ → Except Failure α) : InPlace σ α :=
  look fun s => .ofResult (g s)

/-- A single write. -/
def write (g : σ → σ) : InPlace σ Unit :=
  ⟨fun s => (.done (), g s)⟩

variable {k : α → InPlace σ β} {s t : σ} {a : α} {f : Failure}

@[simp] theorem run_pure (a : α) (s : σ) : (pure a : InPlace σ α).run s = (⟨[], .ok a⟩, s) := rfl

@[simp] theorem run_write_bind (g : σ → σ) (k : Unit → InPlace σ β) (s : σ) :
    (write g >>= k).run s = (k ()).run (g s) := rfl

theorem run_bind (x : InPlace σ α) (k : α → InPlace σ β) (s : σ) :
    (x >>= k).run s = goOn k (x.run s) := rfl

theorem run_look (g : σ → Activity α) (s : σ) : (look g).run s = (g s, s) := rfl

theorem run_bind_of_ok {x : InPlace σ α} (h : x.run s = (⟨[], .ok a⟩, t)) :
    (x >>= k).run s = (k a).run t := by
  rw [run_bind, h]
  rfl

theorem run_bind_of_error {x : InPlace σ α} {es : List Event}
    (h : x.run s = (⟨es, .error f⟩, t)) : (x >>= k).run s = (⟨es, .error f⟩, t) := by
  rw [run_bind, h]
  rfl

theorem run_ask_bind_of_ok {g : σ → Except Failure α} (h : g s = .ok a) :
    (ask g >>= k).run s = (k a).run s :=
  run_bind_of_ok (by rw [ask, run_look, h]; rfl)

theorem run_ask_bind_of_error {g : σ → Except Failure α} (h : g s = .error f) :
    (ask g >>= k).run s = (⟨[], .error f⟩, s) :=
  run_bind_of_error (by rw [ask, run_look, h]; rfl)

/-- The activity of an operation that begins with a look. -/
theorem fst_run_look_bind (g : σ → Activity α) (k : α → InPlace σ β) (s : σ) :
    ((look g >>= k).run s).1 = g s >>= fun a => ((k a).run s).1 := by
  rw [run_bind, run_look]
  rcases g s with ⟨es, f | a⟩ <;> rfl

theorem fst_run_ask_bind (g : σ → Except Failure α) (k : α → InPlace σ β) (s : σ) :
    ((ask g >>= k).run s).1 = Activity.ofResult (g s) >>= fun a => ((k a).run s).1 :=
  fst_run_look_bind _ k s

/-- A look leaves the state as it is, which changes only if the look succeeds. -/
theorem snd_run_look_bind (g : σ → Activity α) (k : α → InPlace σ β) (s : σ) :
    ((look g >>= k).run s).2 = (g s).result.toOption.elim s fun a => ((k a).run s).2 := by
  rw [run_bind, run_look]
  rcases g s with ⟨es, f | a⟩ <;> rfl

/-- What succeeds after a look goes on with what was found. -/
theorem exists_of_run_look_bind {g : σ → Activity α} {b : β}
    (h : ((look g >>= k).run s).1.result = .ok b) :
    ∃ a, (g s).result = .ok a ∧ ((k a).run s).1.result = .ok b ∧
      ((look g >>= k).run s).2 = ((k a).run s).2 := by
  rw [fst_run_look_bind, Activity.result_bind_eq_ok_iff] at h
  obtain ⟨a, ha, hb⟩ := h
  exact ⟨a, ha, hb, by rw [snd_run_look_bind, ha]; rfl⟩

end InPlace

end NixContext
