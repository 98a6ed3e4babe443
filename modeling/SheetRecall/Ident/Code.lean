import SheetRecall.Ident.Base64

/-!
# Document ids

A record id is any text; a document id may hold neither `/` nor `=`.  The code of a record id is
the base 64 of its UTF-8 octets with `=` written as `_` and `/` as `-`.
-/

namespace SheetRecall.Ident

/-- Why a text is no code. -/
inductive CodeFault where
  /-- The text holds characters beyond ASCII. -/
  | beyondAscii
  /-- The last group of letters is incomplete. -/
  | incomplete
  /-- The octets are no UTF-8. -/
  | notUtf8
  deriving Repr, DecidableEq

/-- How the code writes a character of base 64. -/
def toCodeChar (c : Char) : Char := if c = '=' then '_' else if c = '/' then '-' else c

/-- The character of base 64 that the code writes in this way. -/
def ofCodeChar (c : Char) : Char := if c = '_' then '=' else if c = '-' then '/' else c

/-- The code of a record id. -/
def encode (id : String) : String :=
  String.ofList ((Base64.encode id.toUTF8.toList).map toCodeChar)

/-- The record id of a code. -/
def decode (code : String) : Except CodeFault String :=
  let cs := code.toList.map ofCodeChar
  if cs.any fun c => 0x7f < c.toNat then .error .beyondAscii
  else
    match Base64.decode cs with
    | none => .error .incomplete
    | some octets =>
      match String.fromUTF8? ⟨octets.toArray⟩ with
      | some id => .ok id
      | none => .error .notUtf8

end SheetRecall.Ident
