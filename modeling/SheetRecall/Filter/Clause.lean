import SheetRecall.Query.Path

/-!
# Clauses

What a list of filters compiles to: an alternative of conjunctions of predicates.  A predicate
names a parameter instead of holding a value, and its text never holds anything but names.
-/

namespace SheetRecall.Filter

/-- What one pair of a filter asks of a document. -/
inductive Predicate where
  /-- The tag's values hold the parameter's value. -/
  | tagContains (key parameter : String)
  /-- The column's value equals the parameter's value. -/
  | columnEquals (column parameter : String)
  deriving Repr, DecidableEq

/-- One of the conjunctions must hold. -/
structure Clause where
  alternatives : List (List Predicate)
  deriving Repr, DecidableEq

namespace Predicate

/-- The parameter that the predicate names. -/
def parameter : Predicate → String
  | tagContains _ parameter => parameter
  | columnEquals _ parameter => parameter

/-- The predicate in a query. -/
def render (item : String) : Predicate → String
  | tagContains key parameter =>
    "ARRAY_CONTAINS(" ++ Query.propertyPath item Part.tags key ++ ", " ++ parameter ++ ")"
  | columnEquals column parameter =>
    Query.propertyPath item Part.data column ++ " = " ++ parameter

end Predicate

/-- A conjunction in a query, between parentheses. -/
def renderConjunction (item : String) (predicates : List Predicate) : String :=
  "(" ++ " AND ".intercalate (predicates.map (·.render item)) ++ ")"

/-- A clause in a query. -/
def Clause.render (item : String) (clause : Clause) : String :=
  " OR ".intercalate (clause.alternatives.map (renderConjunction item))

end SheetRecall.Filter
