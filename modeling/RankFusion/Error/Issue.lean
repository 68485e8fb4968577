import RankFusion.Value

/-!
This module contains the issues that the validation of a request or of settings reports.
-/

namespace RankFusion

inductive PathPart where
  | name (s : String)
  | position (n : Nat)
  deriving DecidableEq, Repr

/--
A rule over several fields, or over the whole text of one, that a value breaks.
-/
inductive RuleFault where
  | vectorDimension (actual expected : Nat)
  | weightSum (total : Binary)
  | logLevel (name : String) (allowed : List String)
  /-- A source of values cannot be read. -/
  | source (cause : String)

def RuleFault.message : RuleFault → String
  | vectorDimension actual expected =>
    s!"Additional query vector has dimension {actual}, expected {expected}"
  | weightSum total => "MRR weights must sum to 1.0, got " ++ total.text
  | logLevel name allowed =>
    "log_level must be one of " ++ ", ".intercalate allowed ++ ", got " ++ name
  | source cause => cause

inductive IssueKind where
  | missing
  | extraForbidden
  | noSuchAttribute
  | modelType
  | stringType
  /-- Bytes that are no text. -/
  | stringUnicode
  | listType
  | dictType
  | boolType
  | boolParsing
  | intType
  | intParsing
  | intParsingSize
  | intFromFloat
  | finiteNumber
  | floatType
  | floatParsing
  | member
  | tooShort
  | tooLong
  | greaterThan
  | greaterThanEqual
  | lessThan
  | lessThanEqual
  | rule (fault : RuleFault)

def IssueKind.code : IssueKind → String
  | missing => "missing"
  | extraForbidden => "extra_forbidden"
  | noSuchAttribute => "no_such_attribute"
  | modelType => "model_type"
  | stringType => "string_type"
  | stringUnicode => "string_unicode"
  | listType => "list_type"
  | dictType => "dict_type"
  | boolType => "bool_type"
  | boolParsing => "bool_parsing"
  | intType => "int_type"
  | intParsing => "int_parsing"
  | intParsingSize => "int_parsing_size"
  | intFromFloat => "int_from_float"
  | finiteNumber => "finite_number"
  | floatType => "float_type"
  | floatParsing => "float_parsing"
  | member => "enum"
  | tooShort => "too_short"
  | tooLong => "too_long"
  | greaterThan => "greater_than"
  | greaterThanEqual => "greater_than_equal"
  | lessThan => "less_than"
  | lessThanEqual => "less_than_equal"
  | rule _ => "value_error"

structure Issue where
  path : List PathPart
  kind : IssueKind

def Issue.message? (i : Issue) : Option String :=
  match i.kind with
  | .rule fault => some ("Value error, " ++ fault.message)
  | _ => none

def Issue.under (part : PathPart) (i : Issue) : Issue := { i with path := part :: i.path }

end RankFusion
