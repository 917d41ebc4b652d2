import FidelityGate.Load.Issue
import FidelityGate.Value.Display
import FidelityGate.Verdict.Basic

/-!
# Faults

Everything that ends an operation without an answer, each with the text that reports it.  A failing
verdict is no fault: faults are broken contracts of the callers.
-/

namespace FidelityGate

/-- What is wrong with an object that was read as a collection, an entry or a method. -/
inductive EntryFault where
  | missing (kind member : String)
  | notIterable (kind : String)
  | notCallable (kind : String)
  deriving DecidableEq

def EntryFault.message : EntryFault → String
  | .missing kind member => "'" ++ kind ++ "' object has no attribute '" ++ member ++ "'"
  | .notIterable kind => "'" ++ kind ++ "' object is not iterable"
  | .notCallable kind => "'" ++ kind ++ "' object is not callable"

/-- What is wrong with a pack that was handed in. -/
inductive InputProblem where
  | absent
  | notPack (kind : String)
  | entry (fault : EntryFault)
  | described (detail : String)
  deriving DecidableEq

namespace InputProblem

/-- The problem of a value that is not a pack, by the name of its kind. -/
def ofKind (kind : String) : InputProblem :=
  if kind = "NoneType" then .absent else .notPack kind

def detail? : InputProblem → Option String
  | .entry fault => some fault.message
  | .described detail => some detail
  | _ => none

def message : InputProblem → String
  | .absent => "is None"
  | .notPack kind => "is not a context pack (got " ++ kind ++ ")"
  | .entry fault => "has malformed entries: " ++ fault.message
  | .described detail => "has malformed entries: " ++ detail

end InputProblem

/-- A comparison that two values may not have. -/
inductive Comparison where
  | greater
  | less
  | atLeast
  deriving DecidableEq

def Comparison.sign : Comparison → String
  | .greater => ">"
  | .less => "<"
  | .atLeast => ">="

inductive Fault where
  | invalidInput (role : String) (problem : InputProblem)
  | object (fault : EntryFault)
  | rendering (message : String)
  | noLength (kind : String)
  | unordered (comparison : Comparison) (kind other : String)
  | notACount
  | quotientOverflow
  | formatOverflow
  | unknownFormat (mark : Char) (kind : String)
  | noFormat (kind : String)
  | tooFewAttempts (attempts : Number)
  | exhausted (attempts : Value) (diagnosis : String) (verdict : Option Verdict)
  | unknownReason (code : Value)
  | unexpectedArgument (name : String)
  | repeatedArgument (name : String)
  | missingArguments (names : List String)
  | unknownField (owner name : String)
  | frozenField (name : String)
  | notLoaded (name : String) (form : Form) (issues : List Issue)
  | invalidPolicy (issues : List Issue)

namespace Fault

def quote (s : String) : String :=
  "'" ++ s ++ "'"

/-- Names in quotes, divided by commas, the last one by `and`, with a comma before it from three
names on. -/
def listNames : List String → String
  | [] => ""
  | [only] => quote only
  | [first, second] => quote first ++ " and " ++ quote second
  | first :: rest => ", ".intercalate (quote first :: tail rest)
where
  tail : List String → List String
    | [] => []
    | [last] => ["and " ++ quote last]
    | name :: rest => quote name :: tail rest

def message : Fault → String
  | .invalidInput role problem => "Invalid input: '" ++ role ++ "' pack " ++ problem.message
  | .object fault => fault.message
  | .rendering message => message
  | .noLength kind => "object of type '" ++ kind ++ "' has no len()"
  | .unordered comparison kind other =>
    quote comparison.sign ++ " not supported between instances of " ++ quote kind ++ " and " ++
      quote other
  | .notACount => "'float' object cannot be interpreted as an integer"
  | .quotientOverflow => "integer division result too large for a float"
  | .formatOverflow => "int too large to convert to float"
  | .unknownFormat mark kind =>
    "Unknown format code " ++ quote (String.singleton mark) ++ " for object of type " ++ quote kind
  | .noFormat kind => "unsupported format string passed to " ++ kind ++ ".__format__"
  | .tooFewAttempts attempts => "max_attempts must be >= 1, got " ++ attempts.text
  | .exhausted attempts diagnosis _ =>
    "All " ++ attempts.written ++ " compression attempts rejected. Last diagnosis: " ++ diagnosis
  | .unknownReason code => code.shown ++ " is not a valid ReasonCode"
  | .unexpectedArgument name =>
    "Verdict.__init__() got an unexpected keyword argument '" ++ name ++ "'"
  | .repeatedArgument name =>
    "Verdict.__init__() got multiple values for argument '" ++ name ++ "'"
  | .missingArguments names =>
    "Verdict.__init__() missing " ++ toString names.length ++ " required positional argument" ++
      (if names.length = 1 then ": " else "s: ") ++ listNames names
  | .unknownField owner name => "\"" ++ owner ++ "\" object has no field \"" ++ name ++ "\""
  | .frozenField name => "cannot assign to field " ++ Text.quoted name
  | .notLoaded name _ issues => issueCount name issues
  | .invalidPolicy issues => "Invalid gate config: " ++ issueCount "GateConfig" issues

end Fault

end FidelityGate
