import SheetRecall.Schema.Issue
import SheetRecall.Ident.Code
import SheetRecall.Text.Quoted

/-!
# Faults

Why an operation gives no answer.  A fault names its cause; the ones whose wording belongs to the
library or to the store behind it carry that wording.  The others have a wording too, which only
the import of a file tells.
-/

namespace SheetRecall

/-- Why a value of a kind that can be an integer is none. -/
inductive NoInteger where
  | text (s : String)
  /-- It has so many digits. -/
  | digits (count : Nat)
  /-- It is the double that is no number. -/
  | noNumber
  deriving Repr, DecidableEq

/-- The wording for a value that is no integer; of a text so much is told as fits. -/
def NoInteger.wording : NoInteger → String
  | text s =>
    "invalid literal for int() with base 10: "
      ++ String.ofList ((Text.quoteChars s.toList).take 200)
  | digits count =>
    "Exceeds the limit (4300 digits) for integer string conversion: value has " ++ toString count
      ++ " digits; use sys.set_int_max_str_digits() to increase the limit"
  | noNumber => "cannot convert float NaN to integer"

/-- Why an operation gives no answer. -/
inductive Fault where
  /-- A value does not pass its checks. -/
  | invalid (issues : List Schema.Issue)
  /-- A value is of the right kind and still not usable. -/
  | unusable (message : Option String)
  /-- A value that has to be an integer is none. -/
  | noInteger (cause : NoInteger)
  /-- A list stands where one value has to; whether the list holds nothing at all. -/
  | severalValues (areNone : Bool)
  /-- A value is of a kind that the operation does not take. -/
  | wrongKind
  /-- A map lacks an entry that is needed. -/
  | noEntry
  /-- A value lacks the part that is asked of it. -/
  | noPart
  /-- A number is beyond the range of doubles. -/
  | outOfRange
  /-- A document id is no code of a record id. -/
  | badCode (fault : Ident.CodeFault)
  /-- The store refused, with a status. -/
  | refused (status : Int) (message : String)
  /-- The store does not have what was asked for. -/
  | notFound (message : String)
  /-- The store did not answer. -/
  | unreachable (message : String)
  /-- Something else went wrong on the way. -/
  | broken (message : String)
  /-- The embedding model cannot be loaded. -/
  | noModel (message : String)
  /-- A text nests its values too deeply to be read. -/
  | tooDeep
  /-- An answer nests its values too deeply to be written. -/
  | deepAnswer
  /-- An answer cannot be written, because a text in it holds half a surrogate pair. -/
  | brokenAnswer
  /-- The file is no archive. -/
  | noArchive (reason : String)
  /-- The file is an archive without an item that is needed. -/
  | noItem (name : String)
  deriving Repr, DecidableEq

namespace Fault

/-- The wording of an answer of the store with a status. -/
def statusText (status : Int) (message : String) : String :=
  "Status code: " ++ toString status ++ "\n" ++ message

/-- The wording of a fault, where it has one. -/
def message? : Fault → Option String
  | unusable message => message
  | refused status message => some (statusText status message)
  | notFound message => some (statusText 404 message)
  | unreachable message => some message
  | broken message => some message
  | noModel message => some message
  | _ => none

/-- The wording of a fault that stands in the way of an import. -/
def wording : Fault → String
  | noInteger cause => cause.wording
  | severalValues true =>
    "The truth value of an empty array is ambiguous. Use \x60array.size > 0\x60 to check that an "
      ++ "array is not empty."
  | severalValues false =>
    "The truth value of an array with more than one element is ambiguous. Use a.any() or a.all()"
  | noArchive reason => reason
  | noItem name =>
    String.ofList (Text.quoteChars
      ("There is no item named " ++ String.ofList (Text.quoteChars name.toList)
        ++ " in the archive").toList)
  | fault => fault.message?.getD ""

end Fault

/-- A checked value as the answer of an operation. -/
def Schema.Checked.orFault (checked : Schema.Checked α) : Except Fault α :=
  checked.mapError .invalid

end SheetRecall
