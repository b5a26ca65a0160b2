/-!
# Command line arguments

The command takes an input file and the options `--root`, `--unit` and `--config`, whose
values follow an equality sign or are the next argument, and the flags `-v` and `-q`, which
may be repeated and written together.  Arguments after `--` are input files.

`Arguments.read` reads the arguments one after the other and stops at the first fault or at a
request for the version or for help; `Arguments.options` then checks that all that is needed
was given.
-/

namespace InterfaceDocs

/-- What an argument is by its looks. -/
inductive Argument where
  | separator
  | long (name : String) (value : Option String)
  | short (flags : List Char)
  | plain (text : String)

/-- The looks of an argument: a single hyphen is plain, and the value of a long option stands
behind the first equality sign. -/
def Argument.ofString (text : String) : Argument :=
  match text.toList with
  | ['-', '-'] => .separator
  | '-' :: '-' :: cs =>
    .long (.ofList (cs.takeWhile (· != '=')))
      (match cs.dropWhile (· != '=') with
      | [] => none
      | _ :: value => some (.ofList value))
  | '-' :: c :: cs => .short (c :: cs)
  | _ => .plain text

/-- The things that are given a value on the command line. -/
inductive Setting where
  | input
  | root
  | unit
  | config
  deriving DecidableEq

/-- The settings that have an option. -/
def Setting.ofOption? : String → Option Setting
  | "root" => some .root
  | "unit" => some .unit
  | "config" => some .config
  | _ => none

/-- How a setting is named in messages. -/
def Setting.text : Setting → String
  | .input => "<INPUT>"
  | .root => "--root <ROOT>"
  | .unit => "--unit <UNIT>"
  | .config => "--config <CONFIG>"

/-- Whether a setting is the name of a file, which is never empty. -/
def Setting.isFile : Setting → Bool
  | .input => true
  | .config => true
  | _ => false

/-- The switches of the command. -/
inductive Switch where
  | verbose
  | quiet
  | version
  | help

/-- The switch with a long name. -/
def Switch.ofLong? : String → Option Switch
  | "verbose" => some .verbose
  | "quiet" => some .quiet
  | "version" => some .version
  | "help" => some .help
  | _ => none

/-- The switch with a short name. -/
def Switch.ofShort? : Char → Option Switch
  | 'v' => some .verbose
  | 'q' => some .quiet
  | 'V' => some .version
  | 'h' => some .help
  | _ => none

/-- The faults of a command line. -/
inductive UsageError where
  | unexpected (argument : String)
  | unexpectedValue (name : String)
  | missingValue (setting : Setting)
  | emptyValue (setting : Setting)
  | repeated (setting : Setting)
  | missing (setting : Setting)
  | verboseAndQuiet

/-- The message of a usage error. -/
def UsageError.message : UsageError → String
  | .unexpected argument => "error: unexpected argument '" ++ argument ++ "' found"
  | .unexpectedValue name => "error: unexpected value for '--" ++ name ++ "' found"
  | .missingValue setting =>
    "error: a value is required for '" ++ setting.text ++ "' but none was supplied"
  | .emptyValue setting => "error: the value of '" ++ setting.text ++ "' is empty"
  | .repeated setting =>
    "error: the argument '" ++ setting.text ++ "' cannot be used multiple times"
  | .missing setting =>
    "error: the required argument '" ++ setting.text ++ "' was not provided"
  | .verboseAndQuiet => "error: the argument '--quiet' cannot be used with '--verbose'"

/-- What ends the reading of arguments early. -/
inductive Halt where
  | usage (error : UsageError)
  | version
  | help

/-- The arguments read so far: the values of the settings, how often the two flags were
given, the option that waits for its value, and whether the separator was met. -/
structure Arguments where
  values : List (Setting × String)
  verbose : Nat
  quiet : Nat
  waiting : Option Setting
  separated : Bool

/-- What a command line asks for. -/
structure Options where
  input : String
  root : String
  unit : String
  config : Option String
  verbosity : Nat
  deriving DecidableEq

namespace Arguments

/-- No arguments. -/
def none : Arguments where
  values := []
  verbose := 0
  quiet := 0
  waiting := .none
  separated := false

/-- Gives a value to a setting. -/
def set (args : Arguments) (setting : Setting) (value : String) : Except Halt Arguments :=
  if setting.isFile && value == "" then .error (.usage (.emptyValue setting))
  else if (args.values.lookup setting).isSome then .error (.usage (.repeated setting))
  else .ok { args with values := (setting, value) :: args.values, waiting := .none }

/-- Adds an input file. -/
def addInput (args : Arguments) (text : String) : Except Halt Arguments :=
  if (args.values.lookup .input).isSome then .error (.usage (.unexpected text))
  else args.set .input text

/-- Turns a switch on. -/
def turnOn (args : Arguments) : Switch → Except Halt Arguments
  | .verbose => .ok { args with verbose := args.verbose + 1 }
  | .quiet => .ok { args with quiet := args.quiet + 1 }
  | .version => .error .version
  | .help => .error .help

/-- Turns on the switch with a short name. -/
def addFlag (args : Arguments) (c : Char) : Except Halt Arguments :=
  match Switch.ofShort? c with
  | some switch => args.turnOn switch
  | .none => .error (.usage (.unexpected (.ofList ['-', c])))

/-- Adds an argument that is not the value of an option before it. -/
def addFresh (args : Arguments) (text : String) : Argument → Except Halt Arguments
  | .separator => .ok { args with separated := true }
  | .plain text => args.addInput text
  | .short flags => flags.foldlM addFlag args
  | .long name value =>
    match Setting.ofOption? name, Switch.ofLong? name, value with
    | some setting, _, some value => args.set setting value
    | some setting, _, .none => .ok { args with waiting := some setting }
    | .none, some switch, .none => args.turnOn switch
    | .none, some _, some _ => .error (.usage (.unexpectedValue name))
    | .none, .none, _ => .error (.usage (.unexpected text))

/-- Adds an argument.  Only a plain one can be the value of an option before it. -/
def add (args : Arguments) (text : String) : Except Halt Arguments :=
  if args.separated then args.addInput text
  else
    match args.waiting, Argument.ofString text with
    | .none, argument => args.addFresh text argument
    | some setting, .plain value => args.set setting value
    | some setting, _ => .error (.usage (.missingValue setting))

/-- The arguments of a command line. -/
def read (texts : List String) : Except Halt Arguments :=
  texts.foldlM add none

/-- The value of a setting that has to be given. -/
def required (args : Arguments) (setting : Setting) : Except Halt String :=
  match args.values.lookup setting with
  | some value => .ok value
  | .none => .error (.usage (.missing setting))

/-- The level up to which events are shown when no flag is given. -/
def usualVerbosity : Nat := 3

/-- What the arguments ask for. -/
def options (args : Arguments) : Except Halt Options := do
  if let some setting := args.waiting then
    throw (.usage (.missingValue setting))
  if args.verbose ≠ 0 ∧ args.quiet ≠ 0 then
    throw (.usage .verboseAndQuiet)
  return {
    input := ← args.required .input
    root := ← args.required .root
    unit := ← args.required .unit
    config := args.values.lookup .config
    verbosity := usualVerbosity + args.verbose - args.quiet }

end Arguments

/-- What a command line asks for. -/
def Options.ofArguments (texts : List String) : Except Halt Options := do
  (← Arguments.read texts).options

end InterfaceDocs
