import SheetRecall.Fault

/-!
# Archives

What a file may be that holds no worksheets: an archive with other items, or anything else.  An
archive ends in a record that tells how long the directory before it is, and the directory has an
entry for each item.  Numbers are written with their low byte first.
-/

namespace SheetRecall.Workbook.Archive

/-- The number that bytes denote. -/
def number (bytes : List Nat) : Nat := bytes.foldr (fun byte n => byte + 256 * n) 0

/-- The number in some of the bytes. -/
def field (bytes : List Nat) (start width : Nat) : Nat := number ((bytes.drop start).take width)

/-- What the end record starts with. -/
def endMark : List Nat := [0x50, 0x4b, 0x05, 0x06]

/-- The length of the end record without its comment. -/
def endSize : Nat := 22

/-- The length of the longest comment, and one. -/
def commentBound : Nat := 65536

/-- What an entry of the directory starts with. -/
def entryMark : List Nat := [0x50, 0x4b, 0x01, 0x02]

/-- The length of an entry without its name, its extra field and its comment. -/
def entrySize : Nat := 46

/-- The bytes from the last occurrence of the end mark on, and how many stand before it. -/
def lastEnd? (start : Nat) : List Nat → Option (Nat × List Nat)
  | [] => none
  | byte :: rest =>
    match lastEnd? (start + 1) rest with
    | some found => some found
    | none => if endMark.isPrefixOf (byte :: rest) then some (start, byte :: rest) else none

/-- The end record and its position: the last bytes, if they are one without a comment, or the last
place near the end that looks like one. -/
def endRecord? (bytes : List Nat) : Option (Nat × List Nat) :=
  let position := bytes.length - endSize
  let last := bytes.drop position
  if last.length = endSize && endMark.isPrefixOf last && field last 20 2 = 0 then
    some (position, last)
  else
    let near := position - commentBound
    (lastEnd? near (bytes.drop near)).filter fun found => endSize ≤ found.2.length

/-- Why the entries of a directory of a length are none, if they are not. -/
def entryFault? (length : Nat) (bytes : List Nat) : Option String :=
  if _ : length = 0 then none
  else if bytes.length < entrySize then some "Truncated central directory"
  else if !entryMark.isPrefixOf bytes then some "Bad magic number for central directory"
  else
    let size := entrySize + (field bytes 28 2 + field bytes 30 2 + field bytes 32 2)
    entryFault? (length - size) (bytes.drop size)
termination_by length
decreasing_by simp only [entrySize]; omega

/-- Why the bytes are no archive, if they are none. -/
def fault? (bytes : List Nat) : Option String :=
  match endRecord? bytes with
  | none => some "File is not a zip file"
  | some (position, record) =>
    let length := field record 12 4
    if position < length then some "Bad offset for central directory"
    else entryFault? length ((bytes.drop (position - length)).take length)

end SheetRecall.Workbook.Archive
