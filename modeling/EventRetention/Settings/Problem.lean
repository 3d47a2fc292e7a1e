/-!
What can be wrong with a settings value, and where.
-/

namespace EventRetention.Settings

inductive Problem where
  | integerKind
  | integerText
  | integerSize
  | fraction
  | notFinite
  | notPositive
  | tooLarge (bound : Nat)
  | booleanKind
  | booleanText
  | textKind
  | unknownLevel
  /-- A section that is no map; its kind of settings is named. -/
  | sectionKind (title : String)
  | frozen
deriving DecidableEq, Repr

namespace Problem

def code : Problem → String
  | integerKind => "int_type"
  | integerText => "int_parsing"
  | integerSize => "int_parsing_size"
  | fraction => "int_from_float"
  | notFinite => "finite_number"
  | notPositive => "greater_than"
  | tooLarge _ => "less_than_equal"
  | booleanKind => "bool_type"
  | booleanText => "bool_parsing"
  | textKind => "string_type"
  | unknownLevel => "literal_error"
  | sectionKind _ => "model_type"
  | frozen => "frozen_instance"

def message : Problem → String
  | integerKind => "Input should be a valid integer"
  | integerText => "Input should be a valid integer, unable to parse string as an integer"
  | integerSize => "Unable to parse input string as an integer, exceeded maximum size"
  | fraction => "Input should be a valid integer, got a number with a fractional part"
  | notFinite => "Input should be a finite number"
  | notPositive => "Input should be greater than 0"
  | tooLarge bound => "Input should be less than or equal to " ++ toString bound
  | booleanKind => "Input should be a valid boolean"
  | booleanText => "Input should be a valid boolean, unable to interpret input"
  | textKind => "Input should be a valid string"
  | unknownLevel => "Input should be 'DEBUG', 'INFO', 'WARNING' or 'ERROR'"
  | sectionKind title => "Input should be a valid dictionary or instance of " ++ title
  | frozen => "Instance is frozen"

end Problem

structure Complaint where
  place : List String
  problem : Problem
deriving DecidableEq, Repr

end EventRetention.Settings
