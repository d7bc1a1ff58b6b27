import Companions.Console.Choice

/-!
The command line. A word is the name of a command, an option, the value of an option before it, or
out of place. An option takes at most one value and may be given once on each command; `--color` and
`--theme` may stand on any command, and the innermost counts. `--` ends the options.

A value that follows its option is only checked once the next option is met or the command ends, so
a misplaced word is reported before a bad value.
-/

namespace Companions.Console

/-! ### Commands and options -/

/-- The commands, with those that only lead to others. -/
inductive CommandName where
  | top
  | list
  | listTargets
  | generate
deriving Repr, DecidableEq

/-- The options. -/
inductive Switch where
  | help
  | version
  | color
  | theme
  | input
  | output
  | dialect
  | runtimePackage
  | dryRun
  | verbose
  | quiet
deriving Repr, DecidableEq

namespace Switch

/-- The name after two dashes. -/
def long : Switch → String
  | help => "help"
  | version => "version"
  | color => "color"
  | theme => "theme"
  | input => "input"
  | output => "output"
  | dialect => "dialect"
  | runtimePackage => "runtime-package"
  | dryRun => "dry-run"
  | verbose => "verbose"
  | quiet => "quiet"

/-- The letter after one dash. -/
def short? : Switch → Option Char
  | help => some 'h'
  | version => some 'V'
  | input => some 'i'
  | output => some 'o'
  | dialect => some 'd'
  | verbose => some 'v'
  | quiet => some 'q'
  | color | theme | runtimePackage | dryRun => none

/-- Whether a value belongs to the option. -/
def takesValue : Switch → Bool
  | color | theme | input | output | dialect | runtimePackage => true
  | help | version | dryRun | verbose | quiet => false

/-- Whether a text is a value of the option. -/
def accepts (s : Switch) (value : String) : Bool :=
  match s with
  | color => (ColorMode.choices.lookup value).isSome
  | theme => (ThemeMode.choices.lookup value).isSome
  | dialect => (DialectChoice.choices.lookup value).isSome
  | input | output => !value.isEmpty
  | help | version | runtimePackage | dryRun | verbose | quiet => true

end Switch

namespace CommandName

/-- The commands that may follow. -/
def next : CommandName → List (String × CommandName)
  | top => [("list", list), ("generate", generate)]
  | list => [("targets", listTargets)]
  | listTargets | generate => []

/-- The options of a command. -/
def switches : CommandName → List Switch
  | top => [.help, .version, .color, .theme]
  | list => [.help, .color, .theme]
  | listTargets => [.help, .color, .theme, .input]
  | generate =>
    [.help, .color, .theme, .input, .output, .dialect, .runtimePackage, .dryRun, .verbose, .quiet]

/-- The options that have to be given. -/
def required : CommandName → List Switch
  | top | list => []
  | listTargets => [.input]
  | generate => [.input, .output]

/-- Whether the word `help` is a command here. -/
def hasHelp (c : CommandName) : Bool :=
  !c.next.isEmpty

end CommandName

/-! ### Failures -/

/-- Why a command line is not carried out: it asks for help or the version, or it is wrong. -/
inductive ArgumentError where
  | displayHelp
  | displayVersion
  | helpOnNothing
  | missingSubcommand
  | invalidSubcommand
  | unknownArgument
  | missingRequired
  | invalidValue
  | tooManyValues
  | conflict
deriving Repr, DecidableEq

namespace ArgumentError

/-- Whether only help or the version was asked for. -/
def isRequest : ArgumentError → Bool
  | displayHelp | displayVersion => true
  | _ => false

/-- A short text for the failure. -/
def message : ArgumentError → String
  | displayHelp | helpOnNothing =>
    "usage: companion-gen generate --input FILE --output DIR [OPTIONS]\n"
      ++ "       companion-gen list targets --input FILE"
  | displayVersion => "companion-gen"
  | missingSubcommand => "a subcommand is required"
  | invalidSubcommand => "unrecognized subcommand"
  | unknownArgument => "unexpected argument"
  | missingRequired => "a required argument was not provided"
  | invalidValue => "a value is missing or invalid"
  | tooManyValues => "a flag takes no value"
  | conflict => "an argument was given more than once"

end ArgumentError

/-! ### Reading words -/

/-- What has been read on one command: options with their values, the last one first, and an option
that is not settled yet, with its value if that has come. -/
structure Reading where
  given : List (Switch × String) := []
  pending : Option (Switch × Option String) := none

namespace Reading

/-- Whether the next word is a value. -/
def awaitsValue (r : Reading) : Bool :=
  match r.pending with
  | some (_, none) => true
  | _ => false

/-- Takes the option that is not settled yet. -/
def settle (r : Reading) : Except ArgumentError Reading :=
  match r.pending with
  | none => .ok r
  | some (_, none) => .error .invalidValue
  | some (s, some value) =>
    if (r.given.lookup s).isSome then .error .conflict
    else if s.accepts value then .ok { given := (s, value) :: r.given }
    else .error .invalidValue

/-- Takes an option with the value that is attached to it. -/
def attach (r : Reading) (s : Switch) (value : String) : Except ArgumentError Reading := do
  let r ← r.settle
  settle { r with pending := some (s, some value) }

/-- Takes an option that has no value. -/
def flag (r : Reading) (s : Switch) : Except ArgumentError Reading := do
  let r ← r.settle
  match s with
  | .help => .error .displayHelp
  | .version => .error .displayVersion
  | _ => r.attach s "true"

/-- Waits for the value of an option. -/
def await (r : Reading) (s : Switch) : Except ArgumentError Reading := do
  return { ← r.settle with pending := some (s, none) }

/-- The name and the value of a long option, which `=` separates. -/
def splitValue (cs : List Char) : String × Option String :=
  let name := cs.takeWhile (· != '=')
  match cs.dropWhile (· != '=') with
  | [] => (String.ofList name, none)
  | _ :: value => (String.ofList name, some (String.ofList value))

/-- Reads an option of two dashes. -/
def readLong (c : CommandName) (r : Reading) (cs : List Char) : Except ArgumentError Reading :=
  let (name, value) := splitValue cs
  match c.switches.find? fun s => s.long == name with
  | none => .error .unknownArgument
  | some s =>
    match s.takesValue, value with
    | true, some value => r.attach s value
    | true, none => r.await s
    | false, some _ => .error .tooManyValues
    | false, none => r.flag s

/-- Reads the letters after one dash. The rest of the word after an option with a value is that
value, and a `=` before it does not count. -/
def readShort (c : CommandName) (r : Reading) : List Char → Except ArgumentError Reading
  | [] => .ok r
  | letter :: rest =>
    match c.switches.find? fun s => s.short? == some letter with
    | none => .error .unknownArgument
    | some s =>
      if s.takesValue then
        match rest with
        | [] => r.await s
        | '=' :: value => r.attach s (String.ofList value)
        | value => r.attach s (String.ofList value)
      else do readShort c (← r.flag s) rest

/-- The end of the last command. -/
def finish (c : CommandName) (r : Reading) : Except ArgumentError Reading := do
  let r ← r.settle
  if !c.next.isEmpty then
    .error (if r.given.isEmpty then .helpOnNothing else .missingSubcommand)
  else if c.required.all fun s => (r.given.lookup s).isSome then .ok r
  else .error .missingRequired

end Reading

/-- What comes of the words after `help`. -/
def helpOn (c : CommandName) : List String → ArgumentError
  | [] => .displayHelp
  | word :: rest =>
    match c.next.lookup word with
    | some c => helpOn c rest
    | none =>
      if word = "help" ∧ c.hasHelp ∧ rest = [] then .displayHelp else .invalidSubcommand

/-- A word that is neither a command nor an option nor a value. -/
def misplaced (c : CommandName) (afterDashes : Bool) (word : String) : ArgumentError :=
  let isCommand := (c.next.lookup word).isSome || (word == "help" && c.hasHelp)
  if afterDashes && isCommand then .unknownArgument
  else if c.next.isEmpty then .unknownArgument
  else .invalidSubcommand

/-- Reads the words that follow a command: the command they lead to, and every option, those of
inner commands first. -/
def readWords (c : CommandName) (r : Reading) (afterDashes : Bool) :
    List String → Except ArgumentError (CommandName × List (Switch × String))
  | [] => do return (c, (← r.finish c).given)
  | word :: rest =>
    if afterDashes then .error (misplaced c true word)
    else if word = "--" then readWords c r true rest
    else
      let follow := if r.awaitsValue then none else c.next.lookup word
      match follow with
      | some inner => do
        let (last, given) ← readWords inner {} false rest
        return (last, given ++ (← r.settle).given)
      | none =>
        if word = "help" ∧ c.hasHelp ∧ !r.awaitsValue then .error (helpOn c rest)
        else
          match word.toList with
          | '-' :: '-' :: cs => do readWords c (← r.readLong c cs) false rest
          | '-' :: letter :: cs => do readWords c (← r.readShort c (letter :: cs)) false rest
          | _ =>
            match r.pending with
            | some (s, none) => readWords c { r with pending := some (s, some word) } false rest
            | _ => .error (misplaced c false word)

/-! ### Invocations -/

/-- The options of `generate`. -/
structure GenerateOptions where
  input : String
  output : String
  dialect : DialectChoice := .auto
  runtimePackage : Option String := none
  dryRun : Bool := false
  verbose : Bool := false
  quiet : Bool := false
deriving Repr, DecidableEq

/-- What is to be done. -/
inductive Command where
  | listTargets (input : String)
  | generate (options : GenerateOptions)
deriving Repr, DecidableEq

/-- A command and how its output looks. -/
structure Invocation where
  command : Command
  color : ColorMode := .auto
  theme : ThemeMode := .auto
deriving Repr, DecidableEq

/-- The choice that was given for an option, or the one it has otherwise. -/
def chosen {α : Type} (given : List (Switch × String)) (s : Switch) (choices : List (String × α))
    (otherwise : α) : α :=
  ((given.lookup s).bind fun name => choices.lookup name).getD otherwise

/-- The options of `generate` that were given. -/
def generateOptions (given : List (Switch × String)) : GenerateOptions :=
  { input := (given.lookup .input).getD ""
    output := (given.lookup .output).getD ""
    dialect := chosen given .dialect DialectChoice.choices .auto
    runtimePackage := given.lookup .runtimePackage
    dryRun := (given.lookup .dryRun).isSome
    verbose := (given.lookup .verbose).isSome
    quiet := (given.lookup .quiet).isSome }

/-- The invocation that the words of a command line ask for. -/
def Invocation.parse (words : List String) : Except ArgumentError Invocation := do
  let (last, given) ← readWords .top {} false words
  let command ← match last with
    | .listTargets => .ok (.listTargets ((given.lookup .input).getD ""))
    | .generate => .ok (.generate (generateOptions given))
    | .top | .list => .error .missingSubcommand
  return {
    command
    color := chosen given .color ColorMode.choices .auto
    theme := chosen given .theme ThemeMode.choices .auto }

end Companions.Console
