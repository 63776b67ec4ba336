namespace ThreadTrace

inductive Problem.Cause
  | missing
  | textType
  | textUnicode
  | intType
  | intParsing
  | intSize
  | intFromFloat
  | finiteNumber
  | floatType
  | floatParsing
  | boolType
  | boolParsing
  | notPositive
  | notHashable
  | frozen
  | tupleType
  | arrayType
  | notMember (members : List String)
  | modelType (model : String)
  | notObject
  | malformed
deriving DecidableEq, Inhabited

/-- A refused field; the path is empty if the record as a whole was refused. -/
structure Problem where
  path : List String
  cause : Problem.Cause
deriving DecidableEq, Inhabited

namespace Problem.Cause

def tag : Cause → String
  | missing => "missing"
  | textType => "string_type"
  | textUnicode => "string_unicode"
  | intType => "int_type"
  | intParsing => "int_parsing"
  | intSize => "int_parsing_size"
  | intFromFloat => "int_from_float"
  | finiteNumber => "finite_number"
  | floatType => "float_type"
  | floatParsing => "float_parsing"
  | boolType => "bool_type"
  | boolParsing => "bool_parsing"
  | notPositive => "greater_than"
  | notHashable => "is_hashable"
  | frozen => "frozen_instance"
  | tupleType | arrayType => "tuple_type"
  | notMember _ => "enum"
  | modelType _ | notObject => "model_type"
  | malformed => "json_invalid"

def choices : List String → String
  | [] => ""
  | [a] => "'" ++ a ++ "'"
  | [a, b] => "'" ++ a ++ "' or '" ++ b ++ "'"
  | a :: r => "'" ++ a ++ "', " ++ choices r

def text : Cause → String
  | missing => "Field required"
  | textType => "Input should be a valid string"
  | textUnicode =>
    "Input should be a valid string, unable to parse raw data as a unicode string"
  | intType => "Input should be a valid integer"
  | intParsing => "Input should be a valid integer, unable to parse string as an integer"
  | intSize => "Unable to parse input string as an integer, exceeded maximum size"
  | intFromFloat => "Input should be a valid integer, got a number with a fractional part"
  | finiteNumber => "Input should be a finite number"
  | floatType => "Input should be a valid number"
  | floatParsing => "Input should be a valid number, unable to parse string as a number"
  | boolType => "Input should be a valid boolean"
  | boolParsing => "Input should be a valid boolean, unable to interpret input"
  | notPositive => "Input should be greater than 0"
  | notHashable => "Input should be hashable"
  | frozen => "Instance is frozen"
  | tupleType => "Input should be a valid tuple"
  | arrayType => "Input should be a valid array"
  | notMember members => "Input should be " ++ choices members
  | modelType model => "Input should be a valid dictionary or instance of " ++ model
  | notObject => "Input should be an object"
  | malformed => ""

end Problem.Cause

def Problem.text (p : Problem) : String :=
  ".".intercalate p.path ++ "|" ++ p.cause.tag ++ "|" ++ p.cause.text

end ThreadTrace
