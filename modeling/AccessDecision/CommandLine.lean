import AccessDecision.Condition.Decision
import AccessDecision.ConfigDocument
import AccessDecision.Pattern.Matcher
import AccessDecision.Pattern.Template
import AccessDecision.Registry

/-
  The command line

  Four commands match an identifier, match a template, decide a condition and
  show the context of a request. Reading the arguments and carrying out a command
  are functions; only reading the configuration file, the clock and printing are
  left to the program.
-/

namespace AccessDecision.CommandLine

/-- What to do. -/
inductive Command where
  | matchList (candidate patterns : String)
  | matchTemplate (template candidate : String) (opening closing : Char)
  | evaluate (context condition : String)
  | showContext (remoteAddress : String) (headers : List (String × String))
deriving DecidableEq, Repr

/-- A command and the configuration file to use. -/
structure Invocation where
  configPath : Option String
  command : Command
deriving DecidableEq, Repr

/-- Why arguments lead to no command. -/
inductive Stop where
  | usage
  | help
deriving DecidableEq, Repr

/-! ## Arguments -/

/-- An option, which always takes a value. -/
structure Opt where
  long : String
  short : Option Char := none
  repeatable : Bool := false
  /-- Which values it may have. -/
  accepts : String → Bool := fun _ => true

/-- The options of a command and how many other arguments it takes. -/
structure Signature where
  options : List Opt
  plain : Nat

/-- The options and other arguments read, in the order given. -/
structure Arguments where
  values : List (String × String) := []
  plain : List String := []
deriving DecidableEq, Repr

/-- How an argument reads before it is known which options there are. -/
inductive Shape where
  /-- Ends the options. -/
  | divider
  | long (name : String) (value : Option String)
  | short (letter : Char) (value : Option String)
  | plain
deriving DecidableEq, Repr

/-- The shape of an argument. A hyphen alone is no option. -/
def shapeOf (arg : String) : Shape :=
  match arg.toList with
  | ['-', '-'] => .divider
  | '-' :: '-' :: rest =>
    match Text.cutAt '=' rest with
    | some (name, value) => .long (String.ofList name) (some (String.ofList value))
    | none => .long (String.ofList rest) none
  | ['-', c] => .short c none
  | '-' :: c :: '=' :: rest => .short c (some (String.ofList rest))
  | '-' :: c :: rest => .short c (some (String.ofList rest))
  | _ => .plain

/-- Whether an argument asks how to call the program. -/
def asksForHelp (s : Shape) : Bool :=
  match s with
  | .long "help" none => true
  | .short 'h' _ => true
  | _ => false

/-- Adds the value of an option, which only a repeatable one may have twice. -/
def Arguments.add (a : Arguments) (o : Opt) (value : String) : Except Stop Arguments :=
  if !o.repeatable && a.values.any (·.1 == o.long) then .error .usage
  else if o.accepts value then .ok { a with values := a.values ++ [(o.long, value)] }
  else .error .usage

/-- Adds an argument that is no option, if there is room for one more. -/
def Arguments.addPlain (a : Arguments) (limit : Nat) (arg : String) : Except Stop Arguments :=
  if a.plain.length < limit then .ok { a with plain := a.plain ++ [arg] } else .error .usage

/-- Reads arguments. A value may stand in the same argument or be the next one,
if that does not look like an option. With `onlyOptions` the first argument that
is no option stops the reading and is given back with those after it. The first
problem met stops the reading, so what stands behind it does not count. -/
def readArguments (signature : Signature) (onlyOptions : Bool) :
    Arguments → List String → Except Stop (Arguments × List String)
  | a, [] => .ok (a, [])
  | a, arg :: rest =>
    let withValue (o : Option Opt) (value : Option String) :=
      match o, value with
      | none, _ => .error .usage
      | some o, some v =>
        (a.add o v).bind fun a => readArguments signature onlyOptions a rest
      | some o, none =>
        match rest with
        | v :: rest =>
          if shapeOf v = .plain then
            (a.add o v).bind fun a => readArguments signature onlyOptions a rest
          else .error .usage
        | [] => .error .usage
    match shapeOf arg with
    | .divider =>
      if onlyOptions then .error .usage
      else (rest.foldlM (Arguments.addPlain · signature.plain ·) a).map fun a => (a, [])
    | .long name value =>
      if asksForHelp (shapeOf arg) then .error .help
      else withValue (signature.options.find? (·.long == name)) value
    | .short letter value =>
      if asksForHelp (shapeOf arg) then .error .help
      else withValue (signature.options.find? (·.short == some letter)) value
    | .plain =>
      if onlyOptions then .ok (a, arg :: rest)
      else (a.addPlain signature.plain arg).bind fun a =>
        readArguments signature onlyOptions a rest

/-- The value of an option. -/
def Arguments.value? (a : Arguments) (long : String) : Option String :=
  (a.values.find? (·.1 == long)).map (·.2)

/-- The character that a text consists of. -/
def character? (text : String) : Option Char :=
  match text.toList with
  | [c] => some c
  | _ => none

/-- The delimiter given by an option. -/
def Arguments.delimiter (a : Arguments) (long : String) (default : Char) : Char :=
  ((a.value? long).bind character?).getD default

/-- A header given as `name=value`. -/
def header? (text : String) : Option (String × String) :=
  match Text.cutAt '=' text.toList with
  | some (c :: name, value) => some (String.ofList (c :: name), String.ofList value)
  | _ => none

/-- The peer address that is shown a context for by default. -/
def defaultRemoteAddress : String := "127.0.0.1:0"

/-- The options that stand in front of the name of a command. -/
def globalSignature : Signature :=
  ⟨[{ long := "config", short := some 'c', accepts := (· != "") }], 0⟩

/-- What the command of a name takes. -/
def signatureOf? (name : String) : Option Signature :=
  let delimiter (long : String) : Opt := { long, accepts := fun v => (character? v).isSome }
  match name with
  | "match" => some ⟨[], 2⟩
  | "template" => some ⟨[delimiter "open", delimiter "close"], 2⟩
  | "eval" => some ⟨[{ long := "context" }, { long := "condition" }], 0⟩
  | "context" =>
    some ⟨[{ long := "remote-addr" },
      { long := "header", repeatable := true, accepts := fun v => (header? v).isSome }], 0⟩
  | _ => none

/-- The command of a name with the arguments given to it, unless one is missing. -/
def commandOf (name : String) (a : Arguments) : Except Stop Command :=
  match name, a.plain with
  | "match", [candidate, patterns] => .ok (.matchList candidate patterns)
  | "template", [template, candidate] =>
    .ok (.matchTemplate template candidate (a.delimiter "open" '<') (a.delimiter "close" '>'))
  | "eval", [] =>
    match a.value? "context", a.value? "condition" with
    | some context, some condition => .ok (.evaluate context condition)
    | _, _ => .error .usage
  | "context", [] =>
    let headers := (a.values.filter (·.1 == "header")).filterMap (header? ·.2)
    .ok (.showContext ((a.value? "remote-addr").getD defaultRemoteAddress) headers)
  | _, _ => .error .usage

/-- Reads the name of a command and the arguments behind it. The command `help`
takes the name of a command to explain. -/
def readCommand (name : String) (args : List String) : Except Stop Command :=
  match signatureOf? name with
  | some signature =>
    (readArguments signature false {} args).bind fun (a, _) => commandOf name a
  | none =>
    match name, args with
    | "help", [] | "help", ["help"] => .error .help
    | "help", [topic] => if (signatureOf? topic).isSome then .error .help else .error .usage
    | _, _ => .error .usage

/-- Reads all arguments: options for every command, the name of the command, and
what belongs to it. -/
def parse (args : List String) : Except Stop Invocation := do
  match ← readArguments globalSignature true {} args with
  | (a, name :: rest) => .ok ⟨a.value? "config", ← readCommand name rest⟩
  | (_, []) => .error .usage

/-! ## Carrying out -/

/-- What a command fails with. -/
inductive Failure where
  | foreignDelimiter (c : Char)
  | error (e : PolicyError)
  | loadingConfig (path : String) (e : PolicyError)
deriving DecidableEq, Repr

/-- The message of a failure. -/
def Failure.message : Failure → String
  | foreignDelimiter c =>
    "Delimiter '" ++ String.ofList [c] ++ "' must be a single ASCII character"
  | error e => e.message
  | loadingConfig path e => "loading config " ++ path ++ ": " ++ e.message

/-- What a command answers. -/
inductive Answer where
  | verdict (matched : Bool)
  | context (c : Context)
deriving DecidableEq

namespace Answer

/-- The exit code: zero unless the verdict is negative. -/
def exitCode : Answer → Nat
  | verdict matched => if matched then 0 else 1
  | context _ => 0

/-- The text to print. -/
def text : Answer → String
  | verdict matched => if matched then "true\n" else "false\n"
  | context c => Json.indentedText (Context.write c) ++ "\n"

end Answer

/-- The exit code of failures and of wrong arguments. -/
def failureCode : Nat := 2

/-- The byte of a delimiter. -/
def delimiterByte (c : Char) : Except Failure UInt8 :=
  if c.toNat < 0x80 then .ok (UInt8.ofNat c.toNat) else .error (.foreignDelimiter c)

/-- The settings for an invocation, given what the configuration file holds. -/
def loadConfig (path : Option String) (content : String → Except FileFault ByteArray) :
    Except Failure MatcherConfig :=
  match path with
  | none => .ok MatcherConfig.default
  | some path => (MatcherConfig.ofFile (content path)).mapError (.loadingConfig path)

/-- Carries out a command. -/
def execute (clock : Clock) (now : Int) (config : MatcherConfig) :
    Command → Except Failure Answer
  | .matchList candidate patterns =>
    (((PatternMatcher.ofConfig config).matchesList clock candidate patterns).1.map
      Answer.verdict).mapError .error
  | .matchTemplate template candidate opening closing => do
    let opening ← delimiterByte opening
    let closing ← delimiterByte closing
    ((do
      let p ← Template.compileWithBudget template opening closing config.matchTimeout
      p.isMatch clock candidate).map Answer.verdict).mapError .error
  | .evaluate context condition =>
    ((evaluateConditions context condition).map Answer.verdict).mapError .error
  | .showContext remoteAddress headers =>
    .ok (.context (Registry.defaults.buildContext now
      ((Request.ofAddress remoteAddress).insertHeaders headers)))

/-- Loads the settings and carries out the command. -/
def run (clock : Clock) (now : Int) (content : String → Except FileFault ByteArray)
    (invocation : Invocation) : Except Failure Answer :=
  (loadConfig invocation.configPath content).bind fun config =>
    execute clock now config invocation.command

/-- How to call the program. -/
def usage : String :=
  "Usage: [-c <CONFIG>] <COMMAND>\n\n" ++
  "Commands:\n" ++
  "  match <CANDIDATE> <PATTERNS>\n" ++
  "  template <TEMPLATE> <CANDIDATE> [--open <OPEN>] [--close <CLOSE>]\n" ++
  "  eval --context <CONTEXT> --condition <CONDITION>\n" ++
  "  context [--remote-addr <REMOTE_ADDR>] [--header <NAME=VALUE>]...\n"

end AccessDecision.CommandLine
