import InterfaceDocs.Comment.Basic
import InterfaceDocs.Identifier

/-!
# Events of a load

A load tells what it does by events, each of which has a level and a text.  `Event.shown`
selects the events of a level or above and writes them as lines.
-/

namespace InterfaceDocs

/-- The levels of events, from the most urgent to the most detailed. -/
inductive Level where
  | error
  | warn
  | info
  | debug
  | trace
  deriving DecidableEq

namespace Level

/-- The number of a level: more detailed levels have greater numbers. -/
def number : Level → Nat
  | .error => 1
  | .warn => 2
  | .info => 3
  | .debug => 4
  | .trace => 5

/-- The name of a level in front of a line. -/
def text : Level → String
  | .error => "ERROR"
  | .warn => "WARN"
  | .info => "INFO"
  | .debug => "DEBUG"
  | .trace => "TRACE"

end Level

/-- What a load tells. -/
inductive Event where
  | loadingInterface (container unit : String)
  | readingSignature (id : Identifier) (items : Nat)
  | readingCompiledSignature (id : Identifier) (items : Nat)
  | readingType (id : Identifier)
  | readingModule (id : Identifier)
  | readingModuleType (id : Identifier)
  | readingFunctorParameter (id : Identifier)
  | readingClass (id : Identifier)
  | readingClassType (id : Identifier)
  | realizedInclude (parent : Identifier) (items : Nat)
  | ignoredAttribute (id : Identifier)
  | unparsableDoc (target : String) (error : DocError)
  | malformedCanonical (path : String)
  | loaded (items : Nat)

namespace Event

/-- The level of an event. -/
def level : Event → Level
  | .loadingInterface _ _ => .debug
  | .readingSignature _ _ => .debug
  | .readingCompiledSignature _ _ => .debug
  | .readingType _ => .trace
  | .readingModule _ => .trace
  | .readingModuleType _ => .trace
  | .readingFunctorParameter _ => .trace
  | .readingClass _ => .trace
  | .readingClassType _ => .trace
  | .realizedInclude _ _ => .trace
  | .ignoredAttribute _ => .trace
  | .unparsableDoc _ _ => .warn
  | .malformedCanonical _ => .warn
  | .loaded _ => .debug

/-- The text of an event. -/
def text : Event → String
  | .loadingInterface container unit => "Loading interface " ++ container ++ "/" ++ unit
  | .readingSignature id items =>
    "Reading signature of " ++ id.text ++ " (" ++ toString items ++ " items)"
  | .readingCompiledSignature id items =>
    "Reading compiled signature of " ++ id.text ++ " (" ++ toString items ++ " items)"
  | .readingType id => "Reading type " ++ id.text
  | .readingModule id => "Reading module " ++ id.text
  | .readingModuleType id => "Reading module type " ++ id.text
  | .readingFunctorParameter id => "Reading functor parameter " ++ id.text
  | .readingClass id => "Reading class " ++ id.text
  | .readingClassType id => "Reading class type " ++ id.text
  | .realizedInclude parent items =>
    "Include in " ++ parent.text ++ " realizes " ++ toString items ++ " items"
  | .ignoredAttribute id => "Ignoring non-string doc attribute on " ++ id.text
  | .unparsableDoc target error =>
    "Keeping unparsable documentation of " ++ target ++ ": " ++ error.text
  | .malformedCanonical path => "Ignoring malformed canonical path '" ++ path ++ "'"
  | .loaded items => "Loaded " ++ toString items ++ " top-level items"

/-- The line that shows an event. -/
def line (e : Event) : String :=
  e.level.text ++ ": " ++ e.text

/-- The lines that show the events up to a verbosity, which is the number of the most
detailed level to be shown. -/
def shown (verbosity : Nat) (events : List Event) : List String :=
  (events.filter fun e => e.level.number ≤ verbosity).map line

end Event

end InterfaceDocs
