/-!
# Issues of loading

An issue says where in a value loading failed and why.  Its wording depends on the form in which the
value was given only where a container was expected: a document has arrays and objects, a value has
lists and dictionaries.
-/

namespace FidelityGate

/-- How something to be loaded was given: as a value, or as the text of a document. -/
inductive Form where
  | value
  | document
  deriving DecidableEq

inductive Step where
  | key (name : String)
  | index (position : Nat)
  deriving DecidableEq

inductive Complaint where
  | notText
  | notInteger
  | unreadableInteger
  | oversizedInteger
  | fractionalInteger
  | notFinite
  | notNumber
  | unreadableNumber
  | notTruth
  | unreadableTruth
  | notChoice (choices : List String)
  | notList
  | notObject
  | notRecord (name : String)
  | below (bound : Nat)
  | frozen
  | notDocument
  deriving DecidableEq

structure Issue where
  path : List Step
  complaint : Complaint
  deriving DecidableEq

namespace Complaint

/-- Choices in quotes, divided by commas, the last one by `or`. -/
def listChoices : List String → String
  | [] => ""
  | [only] => "'" ++ only ++ "'"
  | [first, last] => "'" ++ first ++ "' or '" ++ last ++ "'"
  | first :: rest => "'" ++ first ++ "', " ++ listChoices rest

def code : Complaint → String
  | .notText => "string_type"
  | .notInteger => "int_type"
  | .unreadableInteger => "int_parsing"
  | .oversizedInteger => "int_parsing_size"
  | .fractionalInteger => "int_from_float"
  | .notFinite => "finite_number"
  | .notNumber => "float_type"
  | .unreadableNumber => "float_parsing"
  | .notTruth => "bool_type"
  | .unreadableTruth => "bool_parsing"
  | .notChoice _ => "enum"
  | .notList => "list_type"
  | .notObject => "dict_type"
  | .notRecord _ => "model_type"
  | .below _ => "greater_than_equal"
  | .frozen => "frozen_instance"
  | .notDocument => "json_invalid"

def message (form : Form) : Complaint → String
  | .notText => "Input should be a valid string"
  | .notInteger => "Input should be a valid integer"
  | .unreadableInteger =>
    "Input should be a valid integer, unable to parse string as an integer"
  | .oversizedInteger =>
    "Unable to parse input string as an integer, exceeded maximum size"
  | .fractionalInteger =>
    "Input should be a valid integer, got a number with a fractional part"
  | .notFinite => "Input should be a finite number"
  | .notNumber => "Input should be a valid number"
  | .unreadableNumber => "Input should be a valid number, unable to parse string as a number"
  | .notTruth => "Input should be a valid boolean"
  | .unreadableTruth => "Input should be a valid boolean, unable to interpret input"
  | .notChoice choices => "Input should be " ++ listChoices choices
  | .notList => match form with
    | .value => "Input should be a valid list"
    | .document => "Input should be a valid array"
  | .notObject => match form with
    | .value => "Input should be a valid dictionary"
    | .document => "Input should be an object"
  | .notRecord name => match form with
    | .value => "Input should be a valid dictionary or instance of " ++ name
    | .document => "Input should be an object"
  | .below bound => "Input should be greater than or equal to " ++ toString bound
  | .frozen => "Instance is frozen"
  | .notDocument => ""

end Complaint

/-- The issue as seen from one step further out. -/
def Issue.under (step : Step) (issue : Issue) : Issue :=
  { issue with path := step :: issue.path }

/-- The first line of a report on issues: how many there are, and what could not be loaded. -/
def issueCount (name : String) (issues : List Issue) : String :=
  toString issues.length ++
    (if issues.length = 1 then " validation error for " else " validation errors for ") ++ name

end FidelityGate
