import AccessDecision.CommandLine
import Std.Time

/-
  The program

  Reads the arguments, the configuration file and the clock, and prints what the
  command answers. The time that a whole command takes stands for that of its
  evaluations, of which it is an upper bound.
-/

namespace AccessDecision

/-- The content of a file, or why it cannot be read. -/
def readContent (path : String) : IO (Except FileFault ByteArray) := do
  try
    return .ok (← IO.FS.readBinFile path)
  catch e =>
    match e with
    | .noFileOrDirectory .. => return .error .notFound
    | _ => return .error .other

/-- Prints an answer or a failure and gives the exit code. -/
def report : Except CommandLine.Failure CommandLine.Answer → IO UInt32
  | .ok answer => do
    IO.print answer.text
    return UInt32.ofNat answer.exitCode
  | .error failure => do
    IO.eprintln ("error: " ++ failure.message)
    return UInt32.ofNat CommandLine.failureCode

/-- Carries out an invocation. -/
def perform (invocation : CommandLine.Invocation) : IO UInt32 := do
  let content ← match invocation.configPath with
    | some path => readContent path
    | none => pure (.error .other)
  let now ← Std.Time.Timestamp.now
  let seconds := now.toSecondsSinceUnixEpoch.val
  let started ← IO.monoNanosNow
  match CommandLine.run (fun _ _ => Time.Duration.zero) seconds (fun _ => content) invocation with
  | .error failure => report (.error failure)
  | .ok _ =>
    let elapsed : Time.Duration := ⟨(← IO.monoNanosNow) - started⟩
    report (CommandLine.run (fun _ _ => elapsed) seconds (fun _ => content) invocation)

end AccessDecision

/-- Runs the command that the arguments ask for. -/
def main (args : List String) : IO UInt32 :=
  match AccessDecision.CommandLine.parse args with
  | .ok invocation => AccessDecision.perform invocation
  | .error .help => do
    IO.print AccessDecision.CommandLine.usage
    return 0
  | .error .usage => do
    IO.eprint AccessDecision.CommandLine.usage
    return 2
