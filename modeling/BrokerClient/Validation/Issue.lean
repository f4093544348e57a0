/-!
# Validation issues

An issue says where an input is refused and why. Its code names the reason, its message states it
in words. Reasons whose words depend on how a text was read have no message.
-/

namespace BrokerClient.Validation

/-- Whether an input was given as a value or as a JSON text. -/
inductive Origin
  | value
  | text
  deriving DecidableEq, Repr

/-- Why an input is refused. -/
inductive Reason
  | missing
  | extraForbidden
  | stringType
  | stringTooShort
  | intType
  | intFromFloat
  | intParsing
  | intParsingSize
  | finiteNumber
  | floatType
  | floatParsing
  | boolType
  | boolParsing
  | atLeast (bound : Int)
  | atMost (bound : Int)
  | above (bound : Int)
  | literal (allowed : List String)
  | dictType (origin : Origin)
  | modelType (origin : Origin) (model : String)
  | datetimeType
  | datetimeParsing
  | datetimeFromDateParsing
  | jsonInvalid
  | rule (statement : String)
  | frozen
  deriving DecidableEq, Repr

/-- The code of a reason. -/
def Reason.code : Reason → String
  | .missing => "missing"
  | .extraForbidden => "extra_forbidden"
  | .stringType => "string_type"
  | .stringTooShort => "string_too_short"
  | .intType => "int_type"
  | .intFromFloat => "int_from_float"
  | .intParsing => "int_parsing"
  | .intParsingSize => "int_parsing_size"
  | .finiteNumber => "finite_number"
  | .floatType => "float_type"
  | .floatParsing => "float_parsing"
  | .boolType => "bool_type"
  | .boolParsing => "bool_parsing"
  | .atLeast _ => "greater_than_equal"
  | .atMost _ => "less_than_equal"
  | .above _ => "greater_than"
  | .literal _ => "literal_error"
  | .dictType _ => "dict_type"
  | .modelType .. => "model_type"
  | .datetimeType => "datetime_type"
  | .datetimeParsing => "datetime_parsing"
  | .datetimeFromDateParsing => "datetime_from_date_parsing"
  | .jsonInvalid => "json_invalid"
  | .rule _ => "value_error"
  | .frozen => "frozen_instance"

/-- Words in single quotes with commas between them and `or` before the last. -/
def alternatives : List String → String
  | [] => ""
  | [a] => "'" ++ a ++ "'"
  | [a, b] => "'" ++ a ++ "' or '" ++ b ++ "'"
  | a :: rest => "'" ++ a ++ "', " ++ alternatives rest

/-- The words of a reason, if it has any. -/
def Reason.message? : Reason → Option String
  | .missing => some "Field required"
  | .extraForbidden => some "Extra inputs are not permitted"
  | .stringType => some "Input should be a valid string"
  | .stringTooShort => some "String should have at least 1 character"
  | .intType => some "Input should be a valid integer"
  | .intFromFloat => some "Input should be a valid integer, got a number with a fractional part"
  | .intParsing => some "Input should be a valid integer, unable to parse string as an integer"
  | .intParsingSize => some "Unable to parse input string as an integer, exceeded maximum size"
  | .finiteNumber => some "Input should be a finite number"
  | .floatType => some "Input should be a valid number"
  | .floatParsing => some "Input should be a valid number, unable to parse string as a number"
  | .boolType => some "Input should be a valid boolean"
  | .boolParsing => some "Input should be a valid boolean, unable to interpret input"
  | .atLeast n => some s!"Input should be greater than or equal to {n}"
  | .atMost n => some s!"Input should be less than or equal to {n}"
  | .above n => some s!"Input should be greater than {n}"
  | .literal allowed => some ("Input should be " ++ alternatives allowed)
  | .dictType .value => some "Input should be a valid dictionary"
  | .dictType .text => some "Input should be an object"
  | .modelType .value model => some s!"Input should be a valid dictionary or instance of {model}"
  | .modelType .text _ => some "Input should be an object"
  | .datetimeType => some "Input should be a valid datetime"
  | .datetimeParsing => none
  | .datetimeFromDateParsing => none
  | .jsonInvalid => none
  | .rule statement => some ("Value error, " ++ statement)
  | .frozen => some "Instance is frozen"

/-- A refused input: the names that lead to it and the reason. -/
structure Issue where
  loc : List String
  reason : Reason
  deriving DecidableEq, Repr

/-- The issue one level further out. -/
def Issue.under (name : String) (i : Issue) : Issue :=
  { i with loc := name :: i.loc }

/-- The headline of a list of issues with the input of a model. -/
def headline (model : String) (issues : List Issue) : String :=
  let n := issues.length
  let noun := if n == 1 then "error" else "errors"
  s!"{n} validation {noun} for {model}"

end BrokerClient.Validation
