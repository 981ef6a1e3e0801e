import AccessDecision.MatcherConfig
import AccessDecision.Toml.Reader

/-
  Settings in documents

  The settings of a matcher may be given as a TOML text. A setting that is not
  given has its default, and names that are no setting are passed over.
-/

namespace AccessDecision.MatcherConfig

/-- The setting of a name, which has to be a whole number and not negative. -/
def setting (entries : Toml.Entries) (name : String) (default : Nat) : Except PolicyError Nat :=
  match Toml.Entries.find? name entries with
  | none => .ok default
  | some (.value (.integer (.ofNat n))) => .ok n
  | some _ => .error .configSyntax

/-- The settings that a text gives, if they are within bounds. -/
def ofToml (text : String) : Except PolicyError MatcherConfig :=
  match Toml.parse text with
  | none => .error .configSyntax
  | some entries => do
    let capacity ← setting entries "cache_capacity" defaultCacheCapacity
    let millis ← setting entries "match_timeout_ms" defaultMatchTimeoutMillis
    let config : MatcherConfig := ⟨capacity, millis⟩
    config.validate
    .ok config

/-- The settings that a file gives, or why the file could not be read. -/
def ofFile (content : Except FileFault ByteArray) : Except PolicyError MatcherConfig :=
  match content with
  | .error fault => .error (.file fault)
  | .ok bytes =>
    match String.fromUTF8? bytes with
    | none => .error (.file .notUtf8)
    | some text => ofToml text

end AccessDecision.MatcherConfig
