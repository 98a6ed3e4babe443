/-!
# Issues

What a check finds wrong with a value: the kind of the problem and the path to it.  A check of
several parts reports the issues of all of them, in the order of the parts.
-/

namespace SheetRecall.Schema

/-- One step of the path to a problem. -/
inductive Step where
  | field (name : String)
  | item (index : Int)
  deriving Repr, DecidableEq

/-- What is wrong. -/
inductive Problem where
  | absent
  | notText
  | brokenText
  | notNumber
  | unreadableNumber
  | notInteger
  | unreadableInteger
  | integerOutOfRange
  | integerWithFraction
  | notFinite
  | notBoolean
  | unreadableBoolean
  | notList
  | notMap
  | notObject
  | noAttributes
  | unknownField
  | belowMinimum
  | aboveMaximum
  | frozen
  | noJson
  deriving Repr, DecidableEq

/-- The name under which a problem is reported. -/
def Problem.name : Problem → String
  | absent => "missing"
  | notText => "string_type"
  | brokenText => "string_unicode"
  | notNumber => "float_type"
  | unreadableNumber => "float_parsing"
  | notInteger => "int_type"
  | unreadableInteger => "int_parsing"
  | integerOutOfRange => "int_parsing_size"
  | integerWithFraction => "int_from_float"
  | notFinite => "finite_number"
  | notBoolean => "bool_type"
  | unreadableBoolean => "bool_parsing"
  | notList => "list_type"
  | notMap => "dict_type"
  | notObject => "model_type"
  | noAttributes => "model_attributes_type"
  | unknownField => "no_such_attribute"
  | belowMinimum => "greater_than_equal"
  | aboveMaximum => "less_than_equal"
  | frozen => "frozen_field"
  | noJson => "json_invalid"

/-- A problem and where it is. -/
structure Issue where
  problem : Problem
  path : List Step
  deriving Repr, DecidableEq

/-- A checked value, or everything that is wrong with it. -/
abbrev Checked (α : Type) := Except (List Issue) α

/-- One problem with the whole value. -/
def fail (problem : Problem) : Checked α := .error [⟨problem, []⟩]

/-- Puts a step in front of the path of every issue. -/
def under (step : Step) (checked : Checked α) : Checked α :=
  checked.mapError fun issues => issues.map fun issue => { issue with path := step :: issue.path }

/-- Checks two parts; the issues of both are reported. -/
def both (a : Checked α) (b : Checked β) : Checked (α × β) :=
  match a, b with
  | .ok x, .ok y => .ok (x, y)
  | .ok _, .error issues => .error issues
  | .error issues, .ok _ => .error issues
  | .error issues, .error more => .error (issues ++ more)

end SheetRecall.Schema
