import AccessDecision.Json.Fault
import AccessDecision.Regex.Program
import AccessDecision.Time.Duration

/-
  Errors

  What can keep the library from deciding. An error says what went wrong; only
  two kinds are failures of matching itself rather than of what was given.
-/

namespace AccessDecision

/-- Why a file could not be read. -/
inductive FileFault where
  | notFound
  | notUtf8
  | other
deriving DecidableEq, Repr

/-- An error. -/
inductive PolicyError where
  | unbalancedDelimiters (template : String)
  | invalidDelimiter (byte : UInt8)
  | compile (cause : Regex.CompileError)
  | matchTimeout (pattern : String) (elapsed budget : Time.Duration)
  | invalidContext (fault : Json.Fault)
  | invalidCondition (fault : Json.Fault)
  | invalidConfig (reason : String)
  | configSyntax
  | file (fault : FileFault)
deriving DecidableEq, Repr

namespace PolicyError

/-- A byte in hexadecimal with at least two digits. -/
def byteText (b : UInt8) : String :=
  "0x" ++ String.ofList ((Text.hex b.toNat).leftpad 2 '0')

/-- The message of a failed compilation. -/
def compileMessage : Regex.CompileError → String
  | .syntaxError _ => "regex parse error"
  | .tooBig limit => "Compiled regex exceeds size limit of " ++ toString limit ++ " bytes."

/-- The message of a fault with a file. -/
def fileMessage : FileFault → String
  | .notFound => "No such file or directory"
  | .notUtf8 => "stream did not contain valid UTF-8"
  | .other => "the file could not be read"

/-- The message of an error. -/
def message : PolicyError → String
  | unbalancedDelimiters template => "Unbalanced delimiters in " ++ Text.quote template
  | invalidDelimiter byte =>
    "Template delimiter " ++ byteText byte ++ " is not a single ASCII character"
  | compile cause => "Regex compilation failed: " ++ compileMessage cause
  | matchTimeout pattern elapsed budget =>
    "Matching " ++ Text.quote pattern ++ " exceeded its time budget (" ++ elapsed.render ++
      " > " ++ budget.render ++ ")"
  | invalidContext fault => "Invalid condition context: " ++ fault.message
  | invalidCondition fault => "Invalid condition: " ++ fault.message
  | invalidConfig reason => "Invalid configuration: " ++ reason
  | configSyntax => "Configuration parse error: not a configuration in TOML"
  | file fault => "I/O error: " ++ fileMessage fault

/-- Whether matching itself failed, so that no decision was reached. -/
def isEvaluationFailure : PolicyError → Bool
  | matchTimeout _ _ _ | compile _ => true
  | _ => false

end PolicyError

end AccessDecision
