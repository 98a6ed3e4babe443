import SheetRecall.Value.Number

/-!
# Equality of values

Numbers are equal when they stand for the same number, whatever their kind; lists are compared
item by item, maps without regard to the order of their fields.  Two equalities differ only in the
double that is no number: it equals nothing, or it is alike itself.
-/

namespace SheetRecall

namespace Value

mutual

/-- The values agree, numbers compared in a given way. -/
def sameBy (sameNumber : Number → Number → Bool) : Value → Value → Bool
  | null, null => true
  | text s, text t => s == t
  | list xs, list ys => sameItemsBy sameNumber xs ys
  | map fs, map gs => fs.length == gs.length && sameFieldsBy sameNumber fs gs
  | v, w =>
    match v.number?, w.number? with
    | some a, some b => sameNumber a b
    | _, _ => false
termination_by structural v => v

/-- The lists agree item by item. -/
def sameItemsBy (sameNumber : Number → Number → Bool) : List Value → List Value → Bool
  | [], [] => true
  | v :: vs, w :: ws => sameBy sameNumber v w && sameItemsBy sameNumber vs ws
  | _, _ => false
termination_by structural vs => vs

/-- Every field of the first map stands in the second with a value that agrees. -/
def sameFieldsBy (sameNumber : Number → Number → Bool) :
    List (String × Value) → List (String × Value) → Bool
  | [], _ => true
  | (key, v) :: rest, others =>
    (match others.lookup key with
      | some w => sameBy sameNumber v w
      | none => false) && sameFieldsBy sameNumber rest others
termination_by structural fields => fields

end

/-- The values are equal. -/
def same (v w : Value) : Bool := sameBy Number.same v w

/-- The values are equal, the double that is no number being alike itself. -/
def alike (v w : Value) : Bool := sameBy Number.alike v w

end Value

/-- The maps are equal. -/
def Fields.same (fs gs : Fields) : Bool := (Value.map fs).same (.map gs)

/-- The maps are equal, the double that is no number being alike itself. -/
def Fields.alike (fs gs : Fields) : Bool := (Value.map fs).alike (.map gs)

end SheetRecall
