import NixContext.Nix.Handle

/-! # Command lines

Every element of a command line has an origin (`Handle.traced`). The flags for flake inputs
and for evaluation stand before all separators among the arguments exactly if there are no
such flags or no separator among the extra arguments: only the arguments of the subcommand
are searched for one.
-/

namespace NixContext.Nix

/-- Where an element of a command line comes from. -/
inductive Origin where
  | binary
  | general
  | options
  | extra
  | given
  | flake
  | evaluation
  deriving DecidableEq, Repr

namespace Origin

/-- The extra arguments and those of the subcommand. -/
def isArgument : Origin → Bool
  | extra | given => true
  | _ => false

/-- The flags for flake inputs and for evaluation. -/
def isTrailing : Origin → Bool
  | flake | evaluation => true
  | _ => false

/-- Elements of one origin. -/
def mark (o : Origin) (xs : List String) : List (Origin × String) :=
  xs.map (o, ·)

theorem map_snd_mark (o : Origin) (xs : List String) : (mark o xs).map Prod.snd = xs := by
  simp [mark, Function.comp_def]

theorem fst_of_mem_mark {o : Origin} {xs : List String} {e : Origin × String}
    (h : e ∈ mark o xs) : e.1 = o := by
  obtain ⟨x, -, rfl⟩ := List.mem_map.mp h
  rfl

theorem filter_mark (o p : Origin) (xs : List String) :
    (mark p xs).filter (·.1 = o) = if p = o then mark p xs else [] := by
  split
  · exact List.filter_eq_self.mpr fun e he => by simp_all [fst_of_mem_mark he]
  · exact List.filter_eq_nil_iff.mpr fun e he => by simp_all [fst_of_mem_mark he]

end Origin

/-- An argument that separates. -/
def Separates (e : Origin × String) : Prop :=
  e.1.isArgument ∧ e.2 = separator

/-- No flag for flake inputs or for evaluation stands behind a separating argument. -/
def FlagsLead (es : List (Origin × String)) : Prop :=
  es.Pairwise fun a b => Separates a → ¬ b.1.isTrailing

instance (e : Origin × String) : Decidable (Separates e) :=
  inferInstanceAs (Decidable (_ ∧ _))

instance (es : List (Origin × String)) : Decidable (FlagsLead es) :=
  inferInstanceAs (Decidable (List.Pairwise _ es))

/-- Of a list with one block of marked elements none stands behind a stop if the block is empty
or no stop stands before it. -/
theorem pairwise_block_iff {α : Type} {stop marked : α → Prop} {before block behind : List α}
    (hbefore : ∀ a ∈ before, ¬ marked a) (hblock : ∀ a ∈ block, marked a ∧ ¬ stop a)
    (hbehind : ∀ a ∈ behind, ¬ marked a) :
    (before ++ block ++ behind).Pairwise (fun a b => stop a → ¬ marked b) ↔
      block = [] ∨ ∀ a ∈ before, ¬ stop a := by
  have quiet : ∀ {l : List α}, (∀ a ∈ l, ¬ marked a) → l.Pairwise fun a b => stop a → ¬ marked b :=
    fun {l} hl => List.pairwise_of_forall_mem_list fun a _ b hb _ => hl b hb
  rw [List.pairwise_append, List.pairwise_append]
  constructor
  · rintro ⟨⟨-, -, h⟩, -, -⟩
    cases block with
    | nil => exact .inl rfl
    | cons b block =>
      exact .inr fun a ha hs => h a ha b (.head _) hs (hblock b (.head _)).1
  · intro h
    refine ⟨⟨quiet hbefore, ?_, ?_⟩, quiet hbehind, fun a _ b hb _ => hbehind b hb⟩
    · exact List.pairwise_of_forall_mem_list fun a ha b _ hs => ((hblock a ha).2 hs).elim
    · rcases h with rfl | h
      · simp
      · exact fun a ha b _ hs => (h a ha hs).elim

namespace Handle

open Origin (mark map_snd_mark fst_of_mem_mark filter_mark)

/-- The elements in front of the flags for flake inputs and for evaluation. -/
def tracedFront (h : Handle) (args : List String) : List (Origin × String) :=
  mark .binary [h.binary] ++ mark .general h.general.toArgs ++ mark .options h.options.toArgs ++
    mark .extra h.extraArgs ++ mark .given (args.takeWhile (· != separator))

/-- The elements of a command line with their origins. -/
def traced (h : Handle) (args : List String) : List (Origin × String) :=
  h.tracedFront args ++ (mark .flake h.flake.toArgs ++ mark .evaluation h.evaluation.toArgs) ++
    mark .given (args.dropWhile (· != separator))

/-- What each origin contributes to a command line. -/
def part (h : Handle) (args : List String) : Origin → List String
  | .binary => [h.binary]
  | .general => h.general.toArgs
  | .options => h.options.toArgs
  | .extra => h.extraArgs
  | .given => args
  | .flake => h.flake.toArgs
  | .evaluation => h.evaluation.toArgs

theorem map_snd_traced (h : Handle) (args : List String) :
    (h.traced args).map Prod.snd = h.command args := by
  simp [traced, tracedFront, map_snd_mark, command, leadingArgs, trailingArgs]

theorem map_snd_filter_traced (h : Handle) (args : List String) (o : Origin) :
    ((h.traced args).filter (·.1 = o)).map Prod.snd = h.part args o := by
  have hsplit : args.takeWhile (· != separator) ++ args.dropWhile (· != separator) = args :=
    List.takeWhile_append_dropWhile
  simp only [traced, tracedFront, List.filter_append, filter_mark]
  cases o <;> simp [map_snd_mark, part, hsplit]

theorem isTrailing_of_mem_tracedFront {h : Handle} {args : List String} {e : Origin × String}
    (he : e ∈ h.tracedFront args) : ¬ e.1.isTrailing := by
  simp only [tracedFront, List.mem_append] at he
  rcases he with (((he | he) | he) | he) | he <;> simp [fst_of_mem_mark he, Origin.isTrailing]

/-- Only the extra arguments bring a separator in front of the flags. -/
theorem forall_tracedFront_iff {h : Handle} {args : List String} :
    (∀ e ∈ h.tracedFront args, ¬ Separates e) ↔ separator ∉ h.extraArgs := by
  constructor
  · intro hf hs
    refine hf (.extra, separator) ?_ ⟨rfl, rfl⟩
    simp [tracedFront, mark, hs]
  · rintro hs ⟨o, x⟩ he ⟨ho, hx⟩
    subst hx
    simp only [tracedFront, List.mem_append] at he
    rcases he with (((he | he) | he) | he) | he <;>
      obtain ⟨y, hy, he⟩ := List.mem_map.mp he <;> cases he
    · cases ho
    · cases ho
    · cases ho
    · exact hs hy
    · simpa using List.all_eq_true.mp List.all_takeWhile _ hy

/-- Flags lead in a command line exactly if there are none or no extra argument is a
separator. -/
theorem flagsLead_traced_iff (h : Handle) (args : List String) :
    (h.traced args).map Prod.snd = h.command args ∧
      (∀ o, ((h.traced args).filter (·.1 = o)).map Prod.snd = h.part args o) ∧
      (FlagsLead (h.traced args) ↔ h.trailingArgs = [] ∨ separator ∉ h.extraArgs) := by
  refine ⟨h.map_snd_traced args, h.map_snd_filter_traced args, ?_⟩
  have hblock : ∀ e ∈ mark .flake h.flake.toArgs ++ mark .evaluation h.evaluation.toArgs,
      e.1.isTrailing ∧ ¬ Separates e := by
    intro e he
    rcases List.mem_append.mp he with he | he <;>
      simp [fst_of_mem_mark he, Separates, Origin.isTrailing, Origin.isArgument]
  have hbehind : ∀ e ∈ mark .given (args.dropWhile (· != separator)), ¬ e.1.isTrailing := by
    intro e he
    simp [fst_of_mem_mark he, Origin.isTrailing]
  have hempty : mark .flake h.flake.toArgs ++ mark .evaluation h.evaluation.toArgs = [] ↔
      h.trailingArgs = [] := by
    simp [mark, trailingArgs]
  rw [← hempty, ← forall_tracedFront_iff]
  exact pairwise_block_iff (fun e => isTrailing_of_mem_tracedFront) hblock hbehind

/-- A separator among the extra arguments stands before the flags. -/
theorem not_flagsLead_extra_separator :
    ¬ FlagsLead (({ binary := "nix", flake := { noWriteLockFile := true }, extraArgs := ["--"] } :
      Handle).traced ["build", "."]) := by
  decide

/-- Without flags to place, the arguments stay in one piece wherever they hold separators. -/
theorem command_of_trailingArgs {h : Handle} (ht : h.trailingArgs = []) (args : List String) :
    h.command args = h.binary :: h.leadingArgs ++ args := by
  rw [command, ht, List.append_nil, List.append_assoc, List.takeWhile_append_dropWhile]

end Handle

end NixContext.Nix
