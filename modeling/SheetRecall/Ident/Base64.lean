/-!
# Base 64

Three octets are written as four characters of a 64-letter alphabet; a last group of one or two
octets is filled up with `=`.  The reader is lenient: it skips characters outside the alphabet,
stops at the first group that padding completes, and ignores padding anywhere else.
-/

namespace SheetRecall.Ident.Base64

/-- The letter of a number below 64. -/
def letter (n : Nat) : Char :=
  if n < 26 then Char.ofNat (0x41 + n)
  else if n < 52 then Char.ofNat (0x61 + (n - 26))
  else if n < 62 then Char.ofNat (0x30 + (n - 52))
  else if n = 62 then '+'
  else '/'

/-- The number of a letter. -/
def number? (c : Char) : Option Nat :=
  if 'A' ≤ c && c ≤ 'Z' then some (c.toNat - 0x41)
  else if 'a' ≤ c && c ≤ 'z' then some (c.toNat - 0x61 + 26)
  else if '0' ≤ c && c ≤ '9' then some (c.toNat - 0x30 + 52)
  else if c = '+' then some 62
  else if c = '/' then some 63
  else none

/-- Octets as text, in groups of three. -/
def encode : List UInt8 → List Char
  | [] => []
  | [a] =>
    let n := a.toNat <<< 16
    [letter (n >>> 18), letter (n >>> 12 % 64), '=', '=']
  | [a, b] =>
    let n := a.toNat <<< 16 + b.toNat <<< 8
    [letter (n >>> 18), letter (n >>> 12 % 64), letter (n >>> 6 % 64), '=']
  | a :: b :: c :: rest =>
    let n := a.toNat <<< 16 + b.toNat <<< 8 + c.toNat
    letter (n >>> 18) :: letter (n >>> 12 % 64) :: letter (n >>> 6 % 64) :: letter (n % 64)
      :: encode rest

/-- How far the reader is inside a group: the numbers read, and the padding since the last. -/
inductive Place where
  | start
  | one (a : Nat)
  | two (b : Nat) (padding : Nat)
  | three (c : Nat)
  deriving Repr, DecidableEq

/-- Reads octets; `none` when the text ends inside a group. -/
def decodeFrom : Place → List Char → Option (List UInt8)
  | .start, [] => some []
  | _, [] => none
  | place, '=' :: rest =>
    match place with
    | .two b padding => if padding = 0 then decodeFrom (.two b 1) rest else some []
    | .three _ => some []
    | place => decodeFrom place rest
  | place, ch :: rest =>
    match number? ch with
    | none => decodeFrom place rest
    | some n =>
      match place with
      | .start => decodeFrom (.one n) rest
      | .one a => (decodeFrom (.two (n % 16) 0) rest).map (UInt8.ofNat (a * 4 + n / 16) :: ·)
      | .two b _ => (decodeFrom (.three (n % 4)) rest).map (UInt8.ofNat (b * 16 + n / 4) :: ·)
      | .three c => (decodeFrom .start rest).map (UInt8.ofNat (c * 64 + n) :: ·)

/-- Reads octets from text. -/
def decode (cs : List Char) : Option (List UInt8) := decodeFrom .start cs

end SheetRecall.Ident.Base64
