import SheetRecall.Filter.Basic
import SheetRecall.Filter.Clause
import SheetRecall.Column.Name
import SheetRecall.Value.Display
import SheetRecall.Notice

/-!
# Compiling filters

A list of filters means that one of them holds.  Each usable pair becomes a predicate with a
parameter of its own, numbered in the order of the pairs; a pair is usable if its value is not
null, its key is not empty, and it names a column if it is marked as one.  A filter without usable
pairs is left out, and if none is left every document matches.
-/

namespace SheetRecall.Filter

/-! ## Conditions -/

/-- What a key addresses. -/
inductive Target where
  | tag (key : String)
  | column (name : String)
  deriving Repr, DecidableEq

/-- A usable pair, its key resolved. -/
structure Condition where
  target : Target
  value : Value

/-- The column that a key names, if it bears the mark of columns. -/
def markedColumn? (key : String) : Option String :=
  if columnMark.isPrefixOf key then some (key.drop columnMark.length).toString else none

/-- The name under which a column is stored. -/
def columnName (normalize : Bool) (column : String) : String :=
  if normalize then Column.stored column else column

/-- What a key addresses; an empty key or column name addresses nothing. -/
def target? (normalize : Bool) (key : String) : Option Target :=
  match markedColumn? key with
  | some column => if column.isEmpty then none else some (.column (columnName normalize column))
  | none => if key.isEmpty then none else some (.tag key)

/-- The condition that a pair asks for. -/
def condition? (normalize : Bool) (pair : String × Value) : Option Condition :=
  if pair.2.isNull then none
  else (target? normalize pair.1).map fun target => ⟨target, pair.2⟩

/-- The conditions of a filter. -/
def conditions (normalize : Bool) (f : Filter) : List Condition :=
  f.pairs.filterMap (condition? normalize)

/-- What there is to report about a pair. -/
def pairNotices (normalize : Bool) (pair : String × Value) : List Notice :=
  if pair.2.isNull then []
  else
    match markedColumn? pair.1 with
    | some column =>
      if column.isEmpty then
        [.warning ("Invalid structured data filter key found: "
          ++ String.ofList (Value.spelled (.text pair.1)))]
      else
        let name := columnName normalize column
        if name = column then []
        else [.debug ("Normalized field name: " ++ pair.1 ++ " -> " ++ columnMark ++ name)]
    | none =>
      if pair.1.isEmpty then [.warning "Empty tag filter key found, skipping predicate"] else []

/-! ## Numbering -/

/-- The name of the parameter with a number. -/
def parameterName (n : Nat) : String := "@p_" ++ toString n

/-- The predicate of a condition, with a parameter for its value. -/
def Condition.predicate (c : Condition) (parameter : String) : Predicate :=
  match c.target with
  | .tag key => .tagContains key parameter
  | .column name => .columnEquals name parameter

/-- The predicates of conditions, parameters numbered from `first` on. -/
def numbered (first : Nat) : List Condition → List Predicate
  | [] => []
  | c :: rest => c.predicate (parameterName first) :: numbered (first + 1) rest

/-- The conjunctions of groups of conditions, parameters numbered through all groups. -/
def numberedGroups (first : Nat) : List (List Condition) → List (List Predicate)
  | [] => []
  | group :: rest => numbered first group :: numberedGroups (first + group.length) rest

/-- The parameters of conditions, numbered from `first` on. -/
def parametersFrom (first : Nat) : List Condition → List (String × Value)
  | [] => []
  | c :: rest => (parameterName first, c.value) :: parametersFrom (first + 1) rest

/-! ## Compiling -/

/-- What a list of filters compiles to. -/
structure Compiled where
  item : String
  clause : Option Clause
  parameters : List (String × Value)
  notices : List Notice

/-- Every document matches. -/
def Compiled.matchAll (item : String) (notices : List Notice) : Compiled :=
  ⟨item, none, [], notices⟩

/-- Compiles filters pair by pair. -/
def compileGroups (normalize : Bool) (item : String) (filters : List Filter) : Compiled :=
  let asking := filters.filter fun f => !f.isEmpty
  let notices := asking.flatMap fun f => f.pairs.flatMap (pairNotices normalize)
  let groups := (asking.map (conditions normalize)).filter fun group => !group.isEmpty
  if groups.isEmpty then .matchAll item notices
  else ⟨item, some ⟨numberedGroups 0 groups⟩, parametersFrom 0 groups.flatten, notices⟩

/-- Compiles filters; if no filter asks for anything, there is nothing to compile. -/
def compile (normalize : Bool) (item : String) (filters : List Filter) : Compiled :=
  if filters.all isEmpty then .matchAll item [] else compileGroups normalize item filters

/-- The condition of a query, or nothing when every document matches. -/
def Compiled.whereText (c : Compiled) : String :=
  match c.clause with
  | none => ""
  | some clause => "WHERE " ++ clause.render c.item

end SheetRecall.Filter
