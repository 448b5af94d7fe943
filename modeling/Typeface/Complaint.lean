import Typeface.Number.Decimal

/-!
# Complaints

A value that does not fit the fields of a record is refused with a list of
complaints.  Each names the place in the value, and the defect found there; a
defect has a tag for programs and a sentence for people.
-/

namespace Typeface

/-- One step from a value into a part of it. -/
inductive Place
  | field (name : String)
  | index (position : Nat)
deriving DecidableEq, Repr

inductive Defect
  | missing
  | notText
  | textEncoding
  | textTooShort
  | notInteger
  | integerUnreadable
  | integerTooLong
  | integerHasFraction
  | notFinite
  | notNumber
  | numberUnreadable
  | notPositive
  | negative
  | notTruth
  | truthUnreadable
  | notList
  /-- The value is neither a mapping nor a record of the kind named. -/
  | notRecord (record : String)
  /-- The value is none of the codes of an enumeration. -/
  | unknownCode (codes : List Nat)
  | frozen
  /-- A rule of the record itself speaks. -/
  | rule (message : String)
deriving DecidableEq, Repr

namespace Defect

def tag : Defect → String
  | missing => "missing"
  | notText => "string_type"
  | textEncoding => "string_unicode"
  | textTooShort => "string_too_short"
  | notInteger => "int_type"
  | integerUnreadable => "int_parsing"
  | integerTooLong => "int_parsing_size"
  | integerHasFraction => "int_from_float"
  | notFinite => "finite_number"
  | notNumber => "float_type"
  | numberUnreadable => "float_parsing"
  | notPositive => "greater_than"
  | negative => "greater_than_equal"
  | notTruth => "bool_type"
  | truthUnreadable => "bool_parsing"
  | notList => "list_type"
  | notRecord _ => "model_type"
  | unknownCode _ => "enum"
  | frozen => "frozen_instance"
  | rule _ => "value_error"

/-- Numbers in a row, with `or` before the last one. -/
def choices : List String → String
  | [] => ""
  | [only] => only
  | [first, last] => first ++ " or " ++ last
  | first :: rest => first ++ ", " ++ choices rest

def message : Defect → String
  | missing => "Field required"
  | notText => "Input should be a valid string"
  | textEncoding =>
    "Input should be a valid string, unable to parse raw data as a unicode string"
  | textTooShort => "String should have at least 1 character"
  | notInteger => "Input should be a valid integer"
  | integerUnreadable => "Input should be a valid integer, unable to parse string as an integer"
  | integerTooLong => "Unable to parse input string as an integer, exceeded maximum size"
  | integerHasFraction => "Input should be a valid integer, got a number with a fractional part"
  | notFinite => "Input should be a finite number"
  | notNumber => "Input should be a valid number"
  | numberUnreadable => "Input should be a valid number, unable to parse string as a number"
  | notPositive => "Input should be greater than 0"
  | negative => "Input should be greater than or equal to 0"
  | notTruth => "Input should be a valid boolean"
  | truthUnreadable => "Input should be a valid boolean, unable to interpret input"
  | notList => "Input should be a valid list"
  | notRecord record => s!"Input should be a valid dictionary or instance of {record}"
  | unknownCode codes =>
    "Input should be " ++ choices (codes.map fun (code : Nat) => Number.decimal code)
  | frozen => "Instance is frozen"
  | rule message => s!"Value error, {message}"

end Defect

structure Complaint where
  place : List Place
  defect : Defect
deriving DecidableEq, Repr

namespace Complaint

/-- Moves complaints about a part to where the part stands. -/
def within (place : Place) (complaints : List Complaint) : List Complaint :=
  complaints.map fun complaint => { complaint with place := place :: complaint.place }

end Complaint

end Typeface
