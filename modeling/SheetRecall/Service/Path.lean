import SheetRecall.Json.Reader

/-!
# Paths and names

How the path of a request comes about, how it is shown, and how the name of a file comes through a
form.

A part of a path may hold any characters; a percent sign before two digits in base sixteen stands
for a byte of the UTF-8 form of one, and a part is not told apart from what its codes stand for.
-/

namespace SheetRecall.Service

/-! ## Paths -/

/-- The path with some parts; a part `.` is left out, and `..` takes the part before it away. -/
def joinParts (parts : List String) : String :=
  "/" ++ "/".intercalate (parts.foldl
    (fun path part =>
      if part = "." then path else if part = ".." then path.dropLast else path ++ [part]) [])

/-- The bytes of a text in UTF-8, with those that codes in it stand for. -/
def bytesOfCoded : List Char → List Nat
  | [] => []
  | '%' :: a :: b :: rest =>
    match Json.hexDigit? a, Json.hexDigit? b with
    | some high, some low => (16 * high + low) :: bytesOfCoded rest
    | _, _ => 0x25 :: bytesOfCoded (a :: b :: rest)
  | c :: rest => (String.singleton c).toUTF8.toList.map UInt8.toNat ++ bytesOfCoded rest

/-- The text with the characters that codes in it stand for. -/
def decoded (text : String) : String :=
  String.ofList (Text.ofAnyBytes (bytesOfCoded text.toList))

/-- The path with some parts, as the service sees it. -/
def pathOf (parts : List String) : String := decoded (joinParts parts)

/-- A character of a path as it is shown: one that would end the path is written as its code in
base sixteen, tabs and line ends are left out. -/
def shownChar (c : Char) : List Char :=
  if c = '?' then "%3F".toList
  else if c = '#' then "%23".toList
  else if c = '\\' then "%5C".toList
  else if c = '\t' || c = '\n' || c = '\r' then []
  else [c]

/-- A path as it is shown. -/
def shownPath (path : String) : String := String.ofList (path.toList.flatMap shownChar)

/-! ## Names of files -/

/-- A digit in base sixteen. -/
def hexDigit (n : Nat) : Char :=
  if n < 10 then Char.ofNat (0x30 + n) else Char.ofNat (0x37 + n)

/-- A character of a name in a form: quotes and control characters, the escape character apart, are
written as codes. -/
def formChar (c : Char) : List Char :=
  if c = '"' || (c.toNat < 0x20 && c.toNat ≠ 0x1b) then
    ['%', hexDigit (c.toNat / 16), hexDigit (c.toNat % 16)]
  else [c]

/-- The name starts at the root of a drive or of a network. -/
def isRooted : List Char → Bool
  | '\\' :: '\\' :: _ => true
  | _ :: ':' :: '\\' :: _ => true
  | _ => false

/-- The name of a file as it comes through a form: of one that starts at a root, what stands behind
the last backslash. -/
def formName (name : String) : String :=
  let cs := name.toList.flatMap formChar
  String.ofList (if isRooted cs then (cs.reverse.takeWhile (· ≠ '\\')).reverse else cs)

end SheetRecall.Service
