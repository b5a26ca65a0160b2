import InterfaceDocs.Command.Arguments
import InterfaceDocs.Json.Parser
import InterfaceDocs.Json.Written
import InterfaceDocs.Load.Interface
import InterfaceDocs.Print.Interface

/-!
# The command

`run` is what the command does: it reads the configuration and the signature from their
files, loads the interface and prints it, with the events of the load and the errors on the
side.
-/

namespace InterfaceDocs.Command

/-- What a run of the command leaves behind: the exit code, the output, and the texts for the
error stream. -/
structure Outcome where
  exit : UInt32
  output : String
  messages : List String

/-- The reasons why a run fails. -/
inductive Failure where
  | unreadableConfig (file : String)
  | invalidConfig (file : String)
  | unreadableInput (file : String)
  | invalidInput (file : String)
  | load (unit : String) (error : LoadError)

/-- The text with each of its lines indented. -/
def indentedLines (text : String) : String :=
  "    " ++ Printed.indented text

/-- The message of a failure. -/
def Failure.message : Failure → String
  | .unreadableConfig file => "Error: Could not read config " ++ file
  | .invalidConfig file => "Error: Invalid config " ++ file
  | .unreadableInput file => "Error: Could not read " ++ file
  | .invalidInput file => "Error: Invalid signature " ++ file
  | .load unit error =>
    "Error: Failed to load " ++ unit ++ "\n\nCaused by:\n" ++ indentedLines error.message

/-- How deep arrays and objects may be nested in a file. -/
def nestingLimit : Nat := 127

/-- The value that the text of a file stands for; parts of alternatives may be written
without their names there. -/
def readText (text : String) : Option Json :=
  (Json.parse (some nestingLimit) text).map (Json.nameParts Compiled.namedAlternatives)

/-- Reads the configuration, which is the standard one unless a file is given. -/
def readConfig (files : String → Option String) : Option String → Except Failure Config
  | none => .ok .standard
  | some file =>
    match files file with
    | none => .error (.unreadableConfig file)
    | some text =>
      match readText text >>= Config.ofJson? with
      | none => .error (.invalidConfig file)
      | some config => .ok config

/-- Reads the signature. -/
def readSignature (files : String → Option String) (file : String) :
    Except Failure Written.Signature :=
  match files file with
  | none => .error (.unreadableInput file)
  | some text =>
    match readText text >>= Written.Signature.ofJson? with
    | none => .error (.invalidInput file)
    | some signature => .ok signature

/-- The configuration and the signature that are to be loaded. -/
def readFiles (files : String → Option String) (options : Options) :
    Except Failure (Config × Written.Signature) := do
  let config ← readConfig files options.config
  let signature ← readSignature files options.input
  return (config, signature)

/-- The interface that the options ask for, and the events on the way. -/
def load (options : Options) (config : Config) (signature : Written.Signature) :
    Reading Model.Interface := do
  let interface ← Model.Interface.load config options.root options.unit signature
  Reading.tell (.loaded interface.items.length)
  return interface

/-- Runs the command with valid options. -/
def runOptions (files : String → Option String) (options : Options) : Outcome :=
  match readFiles files options with
  | .error failure => ⟨1, "", [failure.message]⟩
  | .ok (config, signature) =>
    let reading := load options config signature
    let events := Event.shown options.verbosity reading.events
    match reading.outcome with
    | .error error => ⟨1, "", events ++ [(Failure.load options.unit error).message]⟩
    | .ok interface => ⟨0, interface.text ++ "\n", events⟩

/-- The name and version of the command. -/
def versionText : String := "sigdoc 0.1.0\n"

/-- How the command is used. -/
def helpText : String :=
  "Build the documentation model of a typed signature\n\n" ++
  "Usage: sigdoc [OPTIONS] --root <ROOT> --unit <UNIT> <INPUT>\n\n" ++
  "Arguments:\n" ++
  "  <INPUT>  JSON file holding the typed signature tree\n\n" ++
  "Options:\n" ++
  "      --root <ROOT>      Name of the compilation root (package or library)\n" ++
  "      --unit <UNIT>      Name of the compilation unit\n" ++
  "      --config <CONFIG>  JSON file with loader configuration\n" ++
  "  -v, --verbose...       Increase logging verbosity\n" ++
  "  -q, --quiet...         Decrease logging verbosity\n" ++
  "  -h, --help             Print help\n" ++
  "  -V, --version          Print version\n"

/-- Runs the command on files of which the given function knows the contents. -/
def run (files : String → Option String) (arguments : List String) : Outcome :=
  match Options.ofArguments arguments with
  | .error (.usage error) => ⟨2, "", [error.message]⟩
  | .error .version => ⟨0, versionText, []⟩
  | .error .help => ⟨0, helpText, []⟩
  | .ok options => runOptions files options

/-- The files that a run of the command looks at. -/
def filesOf (arguments : List String) : List String :=
  match Options.ofArguments arguments with
  | .error _ => []
  | .ok options => options.config.toList ++ [options.input]

end InterfaceDocs.Command
