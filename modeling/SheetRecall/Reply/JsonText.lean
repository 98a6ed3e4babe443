import SheetRecall.Text.Slice

/-!
# JSON in replies

A model that is asked for JSON may wrap it: in a fence of three backticks, or in prose.  What a
fence encloses counts for the whole reply.  A reply that starts with a bracket is taken as it is;
otherwise the part from the first opening bracket to the last closing one is.
-/

namespace SheetRecall.Reply

open SheetRecall.Text

/-- What opens and closes a fence. -/
def fence : List Char := ['\x60', '\x60', '\x60']

/-- The text without the name of the language that a fence may start with. -/
def dropLanguage (cs : List Char) : List Char := (dropWord? "json".toList cs).getD cs

/-- What the first fence encloses. -/
def fenced? (cs : List Char) : Option (List Char) := do
  let (_, opened) ← cutAt? fence cs
  let (enclosed, _) ← cutAt? fence (dropLanguage opened)
  return trimChars enclosed

/-- A bracket that opens an array or an object. -/
def opensJson (c : Char) : Bool := c = '[' || c = '\x7b'

/-- A bracket that closes an array or an object. -/
def closesJson (c : Char) : Bool := c = ']' || c = '\x7d'

/-- The part from the first opening bracket to the last closing one. -/
def bracketSpan (cs : List Char) : List Char :=
  ((cs.dropWhile fun c => !opensJson c).reverse.dropWhile fun c => !closesJson c).reverse

/-- The text without the prose around its brackets, if there are any. -/
def dropProse (cs : List Char) : List Char :=
  if cs.head?.any opensJson then cs
  else
    let span := bracketSpan cs
    if span.isEmpty then cs else span

/-- The characters of a reply that stand for JSON. -/
def jsonChars (cs : List Char) : List Char :=
  let trimmed := trimChars cs
  dropProse ((fenced? trimmed).getD trimmed)

/-- The JSON in a reply; no reply is an empty one. -/
def jsonText (reply : Option String) : String :=
  String.ofList (jsonChars ((reply.getD "").toList))

end SheetRecall.Reply
