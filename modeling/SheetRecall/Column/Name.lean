import SheetRecall.Text.Case
import SheetRecall.Text.Slice

/-!
# Column names

Three spellings of a column's name: the stored one (lower case, words joined by low lines), the
clean header of a worksheet column, and the readable one that is shown to people.
-/

namespace SheetRecall.Column

open SheetRecall.Text

/-! ## The stored spelling -/

/-- An ASCII lower-case letter. -/
def isSmall (c : Char) : Bool := 'a' ≤ c && c ≤ 'z'

/-- An ASCII upper-case letter. -/
def isCapital (c : Char) : Bool := 'A' ≤ c && c ≤ 'Z'

/-- Puts a low line between each small letter and the capital that follows it. -/
def splitHumps : List Char → List Char
  | [] => []
  | [c] => [c]
  | c :: d :: rest =>
    if isSmall c && isCapital d then c :: '_' :: splitHumps (d :: rest)
    else c :: splitHumps (d :: rest)

/-- The stored spelling of a column name. -/
def storedChars (cs : List Char) : List Char := lowerChars (splitHumps cs)

/-- The stored spelling of a column name: `serverPurpose` is stored as `server_purpose`. -/
def stored (name : String) : String := String.ofList (storedChars name.toList)

/-! ## The clean header -/

/-- Leaves one low line of each run. -/
def squeeze : List Char → List Char
  | [] => []
  | [c] => [c]
  | c :: d :: rest =>
    if c = '_' && d = '_' then squeeze (d :: rest) else c :: squeeze (d :: rest)

/-- The clean form of a header: every character that belongs to no word becomes a low line, runs
of low lines become one, and none stands at either end. -/
def cleanChars (cs : List Char) : List Char :=
  trimBy (· = '_') (squeeze (cs.map fun c => if isWord c then c else '_'))

/-- The clean form of a header: `Server Name (FQDN)` becomes `Server_Name_FQDN`. -/
def clean (header : String) : String := String.ofList (cleanChars header.toList)

/-! ## The readable spelling -/

/-- A word with its first letter in upper case. -/
def capitalized : List Char → List Char
  | [] => []
  | c :: rest => upperChar c ++ rest

/-- The readable spelling of a stored name: `server_purpose` reads `Server Purpose`. -/
def readable (name : String) : String :=
  let words := (splitOn '_' name.toList).filter fun word => !word.isEmpty
  String.ofList (joinWith [' '] (words.map capitalized))

end SheetRecall.Column
