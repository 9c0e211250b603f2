import NixContext.Table

/-! # Variables for nix

The variables that nix is started with are those of the process, with the file of trusted
certificates made explicit. Without a home directory there are none.
-/

namespace NixContext.Nix

/-- The file of trusted certificates when no variable names one. -/
def defaultCertificates : String :=
  "/etc/ssl/certs/ca-certificates.crt"

/-- The value of a variable that is set and not empty. -/
def nonEmpty? (environment : Table String) (name : String) : Option String :=
  (environment.find? name).filter (· != "")

/-- The file of trusted certificates. -/
def certificates (environment : Table String) : String :=
  (nonEmpty? environment "NIX_SSL_CERT_FILE" <|> nonEmpty? environment "SSL_CERT_FILE").getD
    defaultCertificates

/-- The variables for nix; the home directory has to be set and not empty. -/
def environmentFrom? (environment : Table String) : Option (Table String) :=
  match nonEmpty? environment "HOME" with
  | some _ => some (environment.insert "NIX_SSL_CERT_FILE" (certificates environment))
  | none => none

/-- The program that is started as nix. -/
def binary (environment : Table String) : String :=
  (environment.find? "FLOX_NIX_BIN").getD "nix"

end NixContext.Nix
