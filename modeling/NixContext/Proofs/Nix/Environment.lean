import NixContext.Nix.Environment

/-! # Variables for nix

There are variables for nix exactly if the home directory is set and not empty. They hold a
home directory and a file of certificates, neither of them empty; all other variables are those
of the process (`derives_of_environmentFrom?`), and a process that has the variables for nix
derives them again (`environmentFrom?_fixed`). Variables that differ may give the same ones for
nix, since a file of certificates can be set or found.
-/

namespace NixContext.Nix

/-- The home directory is set and not empty. -/
def HasHome (environment : Table String) : Prop :=
  ∃ home, environment.find? "HOME" = some home ∧ home ≠ ""

theorem nonEmpty?_eq_some_iff {environment : Table String} {name v : String} :
    nonEmpty? environment name = some v ↔ environment.find? name = some v ∧ v ≠ "" := by
  simp [nonEmpty?, Option.filter_eq_some_iff]

instance (environment : Table String) : Decidable (HasHome environment) :=
  decidable_of_iff (nonEmpty? environment "HOME").isSome <|
    Option.isSome_iff_exists.trans (exists_congr fun _ => nonEmpty?_eq_some_iff)

theorem environmentFrom?_of_hasHome {environment : Table String} (h : HasHome environment) :
    environmentFrom? environment =
      some (environment.insert "NIX_SSL_CERT_FILE" (certificates environment)) := by
  obtain ⟨home, hh⟩ := h
  rw [environmentFrom?, nonEmpty?_eq_some_iff.mpr hh]

theorem environmentFrom?_of_not_hasHome {environment : Table String}
    (h : ¬ HasHome environment) : environmentFrom? environment = none := by
  unfold environmentFrom?
  split
  · rename_i home hh
    exact (h ⟨home, nonEmpty?_eq_some_iff.mp hh⟩).elim
  · rfl

theorem certificates_ne_empty (environment : Table String) : certificates environment ≠ "" := by
  intro h
  rw [certificates] at h
  cases h₁ : nonEmpty? environment "NIX_SSL_CERT_FILE" with
  | some v =>
    rw [h₁] at h
    exact (nonEmpty?_eq_some_iff.mp h₁).2 h
  | none =>
    cases h₂ : nonEmpty? environment "SSL_CERT_FILE" with
    | some v =>
      rw [h₁, h₂] at h
      exact (nonEmpty?_eq_some_iff.mp h₂).2 h
    | none =>
      rw [h₁, h₂] at h
      exact absurd h (by decide)

theorem environmentFrom?_eq_some_iff {environment vs : Table String} :
    environmentFrom? environment = some vs ↔
      HasHome environment ∧
        vs = environment.insert "NIX_SSL_CERT_FILE" (certificates environment) := by
  constructor
  · intro h
    by_cases hh : HasHome environment
    · rw [environmentFrom?_of_hasHome hh] at h
      exact ⟨hh, (Option.some.inj h).symm⟩
    · rw [environmentFrom?_of_not_hasHome hh] at h
      cases h
  · rintro ⟨hh, rfl⟩
    exact environmentFrom?_of_hasHome hh

/-- The variables for nix hold a home directory and a file of certificates. -/
theorem hasHome_and_certificates {environment vs : Table String}
    (h : environmentFrom? environment = some vs) :
    HasHome vs ∧ ∃ file, vs.find? "NIX_SSL_CERT_FILE" = some file ∧ file ≠ "" := by
  obtain ⟨⟨home, hf, hne⟩, rfl⟩ := environmentFrom?_eq_some_iff.mp h
  refine ⟨⟨home, ?_, hne⟩, _, ?_, certificates_ne_empty environment⟩
  · rw [Table.find?_insert, if_neg (by decide), hf]
  · rw [Table.find?_insert, if_pos rfl]

theorem not_hasHome_iff {environment : Table String} :
    ¬ HasHome environment ↔
      environment.find? "HOME" = none ∨ environment.find? "HOME" = some "" := by
  rw [HasHome]
  cases environment.find? "HOME" <;> simp

theorem environmentFrom?_eq_none_iff {environment : Table String} :
    environmentFrom? environment = none ↔ ¬ HasHome environment := by
  refine ⟨fun h hh => ?_, environmentFrom?_of_not_hasHome⟩
  rw [environmentFrom?_of_hasHome hh] at h
  cases h

/-- The files of certificates in the order in which they are tried. -/
def certificateFiles (environment : Table String) : List String :=
  (environment.find? "NIX_SSL_CERT_FILE").toList ++
    (environment.find? "SSL_CERT_FILE").toList ++ [defaultCertificates]

theorem nonEmpty?_eq_find? (environment : Table String) (name : String) :
    nonEmpty? environment name = (environment.find? name).toList.find? (· != "") := by
  rw [nonEmpty?]
  cases environment.find? name with
  | none => rfl
  | some v => rw [Option.toList_some, List.find?_singleton, Option.filter_some]

/-- The file of certificates is the first one that is not empty. -/
theorem find?_certificateFiles (environment : Table String) :
    (certificateFiles environment).find? (· != "") = some (certificates environment) := by
  have hdefault : [defaultCertificates].find? (· != "") = some defaultCertificates := by decide
  rw [certificateFiles, List.find?_append, List.find?_append, ← nonEmpty?_eq_find?,
    ← nonEmpty?_eq_find?, hdefault, Option.or_some, certificates, Option.orElse_eq_orElse,
    Option.orElse_eq_or]

/-- Variables are those of a process, with the first file of certificates that is not empty. -/
structure Derives (environment vs : Table String) : Prop where
  names : ∀ name, name ∈ vs.names ↔ name ∈ environment.names ∨ name = "NIX_SSL_CERT_FILE"
  others : ∀ name, name ≠ "NIX_SSL_CERT_FILE" → vs.find? name = environment.find? name
  file : vs.find? "NIX_SSL_CERT_FILE" = (certificateFiles environment).find? (· != "")

theorem derives_of_environmentFrom? {environment vs : Table String}
    (h : environmentFrom? environment = some vs) : Derives environment vs := by
  obtain ⟨-, rfl⟩ := environmentFrom?_eq_some_iff.mp h
  constructor
  case names => exact fun _ => Table.mem_names_insert
  case others =>
    intro name hname
    rw [Table.find?_insert, if_neg hname]
  case file => rw [Table.find?_insert, if_pos rfl, find?_certificateFiles]

/-- Nothing is left open: what is derived from a process is a single mapping. -/
theorem Derives.same {environment us vs : Table String} (hu : Derives environment us)
    (hv : Derives environment vs) : us.same vs := by
  rw [Table.same_iff]
  intro name
  by_cases hname : name = "NIX_SSL_CERT_FILE"
  · rw [hname, hu.file, hv.file]
  · rw [hu.others name hname, hv.others name hname]

theorem certificates_insert (environment : Table String) {file : String} (h : file ≠ "") :
    certificates (environment.insert "NIX_SSL_CERT_FILE" file) = file := by
  have hf : nonEmpty? (environment.insert "NIX_SSL_CERT_FILE" file) "NIX_SSL_CERT_FILE" =
      some file :=
    nonEmpty?_eq_some_iff.mpr ⟨by rw [Table.find?_insert, if_pos rfl], h⟩
  rw [certificates, hf]
  rfl

/-- The variables for nix give themselves when they are derived from again. -/
theorem environmentFrom?_fixed {environment vs : Table String}
    (h : environmentFrom? environment = some vs) : environmentFrom? vs = some vs := by
  have hh := (hasHome_and_certificates h).1
  obtain ⟨-, rfl⟩ := environmentFrom?_eq_some_iff.mp h
  rw [environmentFrom?_of_hasHome hh, certificates_insert _ (certificates_ne_empty _),
    Table.insert_insert]

theorem certificates_congr {e₁ e₂ : Table String} (h : e₁.same e₂) :
    certificates e₁ = certificates e₂ := by
  simp only [certificates, nonEmpty?, Table.same_iff.mp h]

/-- The variables for nix are the same mapping exactly if the files of certificates are the same
and all other variables are. -/
theorem same_environmentFrom?_iff {e₁ e₂ vs₁ vs₂ : Table String}
    (h₁ : environmentFrom? e₁ = some vs₁) (h₂ : environmentFrom? e₂ = some vs₂) :
    vs₁.same vs₂ ↔ certificates e₁ = certificates e₂ ∧
      ∀ name, name ≠ "NIX_SSL_CERT_FILE" → e₁.find? name = e₂.find? name := by
  obtain ⟨-, rfl⟩ := environmentFrom?_eq_some_iff.mp h₁
  obtain ⟨-, rfl⟩ := environmentFrom?_eq_some_iff.mp h₂
  rw [Table.same_iff]
  simp only [Table.find?_insert]
  constructor
  · intro h
    refine ⟨?_, fun name hname => ?_⟩
    · simpa using h "NIX_SSL_CERT_FILE"
    · simpa [hname] using h name
  · rintro ⟨hfile, hother⟩ name
    split
    · rw [hfile]
    · next hname => exact hother name hname

theorem same_environmentFrom?_of_same {e₁ e₂ vs₁ vs₂ : Table String} (h : e₁.same e₂)
    (h₁ : environmentFrom? e₁ = some vs₁) (h₂ : environmentFrom? e₂ = some vs₂) :
    vs₁.same vs₂ :=
  (same_environmentFrom?_iff h₁ h₂).mpr
    ⟨certificates_congr h, fun name _ => Table.same_iff.mp h name⟩

end NixContext.Nix
