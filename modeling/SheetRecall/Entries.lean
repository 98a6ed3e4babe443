/-!
# Entries

Values under names, in the order in which the names first came.  A change replaces a value where it
stands and puts a new name at the end, so a list built by changes never repeats a name.
-/

namespace SheetRecall

/-- Values under names. -/
abbrev Entries (α : Type) := List (String × α)

namespace Entries

/-- The value under a name. -/
def get? (entries : Entries α) (name : String) : Option α := entries.lookup name

/-- Changes the value under a name: in place if the name is there, at the end otherwise. -/
def alter (entries : Entries α) (name : String) (change : Option α → α) : Entries α :=
  match entries with
  | [] => [(name, change none)]
  | (n, a) :: rest =>
    if n = name then (n, change (some a)) :: rest else (n, a) :: alter rest name change

/-- Sets the value under a name. -/
def put (entries : Entries α) (name : String) (a : α) : Entries α := entries.alter name fun _ => a

/-- Sets one value after the other, from no entries on. -/
def ofPairs (pairs : List (String × α)) : Entries α :=
  pairs.foldl (fun entries pair => entries.put pair.1 pair.2) []

/-- The entries but for the one under a name. -/
def without (entries : Entries α) (name : String) : Entries α :=
  entries.filter fun entry => entry.1 ≠ name

/-- The entries under the given names. -/
def restrict (entries : Entries α) (names : List String) : Entries α :=
  entries.filter fun entry => names.contains entry.1

/-- The names in order. -/
def names (entries : Entries α) : List String := entries.map (·.1)

end Entries

end SheetRecall
