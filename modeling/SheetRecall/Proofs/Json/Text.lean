import Mathlib.Data.Nat.Basic
import SheetRecall.Json.Reader
import SheetRecall.Json.Writer

/-!
# JSON Texts Are Read Back

A text between quotes is read back as it was written, whatever its characters are and whether or
not those beyond ASCII are escaped, and the reader stops behind the closing quote.

## Main statement
`readText_writeText`.  The work is done character by character (`readChars_escapeChar`): a short
escape, the escape of one UTF-16 unit, a surrogate pair, or the character itself.
-/

namespace SheetRecall.Json

open SheetRecall.Text

/-! ## Digits in base sixteen -/

theorem hexDigit?_digitChar {d : Nat} (h : d < 16) : hexDigit? d.digitChar = some d := by
  revert d
  decide

/-- Four digits in base sixteen are a number's digits of each place. -/
theorem hexDigits_four {n : Nat} (h : n < 0x10000) :
    hexDigits 4 n = [(n / 0x1000).digitChar, (n / 0x100 % 16).digitChar,
      (n / 16 % 16).digitChar, (n % 16).digitChar] := by
  have hbase : 1 < 16 := by decide
  -- the places in front of the first digit are filled with zeros
  rcases Nat.lt_or_ge n 16 with h1 | h1
  · rw [hexDigits, Nat.toDigits_of_lt_base h1]
    have hplaces : n / 0x1000 = 0 ∧ n / 0x100 % 16 = 0 ∧ n / 16 % 16 = 0 ∧ n % 16 = n := by omega
    simp [hplaces, List.replicate]
  rcases Nat.lt_or_ge n 0x100 with h2 | h2
  · rw [hexDigits, Nat.toDigits_of_base_le hbase h1,
      Nat.toDigits_of_lt_base (by omega : n / 16 < 16)]
    have hplaces : n / 0x1000 = 0 ∧ n / 0x100 % 16 = 0 ∧ n / 16 % 16 = n / 16 := by omega
    simp [hplaces, List.replicate]
  rcases Nat.lt_or_ge n 0x1000 with h3 | h3
  · rw [hexDigits, Nat.toDigits_of_base_le hbase h1,
      Nat.toDigits_of_base_le hbase (by omega : 16 ≤ n / 16),
      Nat.toDigits_of_lt_base (by omega : n / 16 / 16 < 16)]
    have hplaces : n / 0x1000 = 0 ∧ n / 0x100 % 16 = n / 16 / 16 := by omega
    simp [hplaces]
  · rw [hexDigits, Nat.toDigits_of_base_le hbase h1,
      Nat.toDigits_of_base_le hbase (by omega : 16 ≤ n / 16),
      Nat.toDigits_of_base_le hbase (by omega : 16 ≤ n / 16 / 16),
      Nat.toDigits_of_lt_base (by omega : n / 16 / 16 / 16 < 16)]
    have hplaces : n / 16 / 16 / 16 = n / 0x1000 ∧ n / 16 / 16 % 16 = n / 0x100 % 16 := by omega
    simp [hplaces]

/-- The escape of a unit has four digits, and they are read back. -/
theorem hexUnit?_hexDigits {unit : Nat} (h : unit < 0x10000) :
    ∃ a b c d, hexDigits 4 unit = [a, b, c, d] ∧ hexUnit? a b c d = some unit := by
  refine ⟨_, _, _, _, hexDigits_four h, ?_⟩
  simp only [hexUnit?, hexDigit?_digitChar (by omega : unit / 0x1000 < 16),
    hexDigit?_digitChar (by omega : unit / 0x100 % 16 < 16),
    hexDigit?_digitChar (by omega : unit / 16 % 16 < 16),
    hexDigit?_digitChar (by omega : unit % 16 < 16), Option.bind_eq_bind, Option.bind_some]
  congr 1
  omega

/-! ## Characters -/

/-- What is read behind a character, with that character in front. -/
def leadWith (c : Char) (read : Except CharFault (List Char × List Char)) :
    Except CharFault (List Char × List Char) :=
  read.map fun (cs, left) => (c :: cs, left)

/-- A short escape is read as its character. -/
theorem readChars_shortEscape (half : HalfPair) {c x : Char} (hc : shortEscape? c = some x)
    (rest : List Char) : readChars half ('\\' :: c :: rest) = leadWith x (readChars half rest) := by
  have hne : c ≠ 'u' := by
    rintro rfl
    have hnone : shortEscape? 'u' = none := by decide
    exact absurd (hnone.symm.trans hc) (by simp)
  rw [readChars, hc]
  · rfl
  all_goals exact fun _ _ _ _ _ => by simp [hne]

theorem readChars_plain (half : HalfPair) {c : Char} (hquote : c ≠ '"') (hslash : c ≠ '\\')
    (hcontrol : ¬ c.toNat < 0x20) (rest : List Char) :
    readChars half (c :: rest) = leadWith c (readChars half rest) := by
  rw [readChars, if_neg hcontrol]
  · rfl
  all_goals simp [hquote, hslash]

/-- The escape of a unit that is no half of a pair is read as its character. -/
theorem readChars_escapeUnit (half : HalfPair) {unit : Nat} (h : unit < 0x10000)
    (hhigh : isHighHalf unit = false) (hlow : isLowHalf unit = false) {rest : List Char}
    (hrest : rest ≠ []) :
    readChars half (escapeUnit unit ++ rest)
      = leadWith (Char.ofNat unit) (readChars half rest) := by
  obtain ⟨a, b, c, d, hdigits, hunit⟩ := hexUnit?_hexDigits h
  have hsingle : readChars.single half unit = some (Char.ofNat unit) := by
    simp [readChars.single, hhigh, hlow]
  rw [escapeUnit, hdigits]
  simp only [List.cons_append, List.nil_append]
  -- another escape behind this one makes no difference
  by_cases hpair : ∃ e f g h more, rest = '\\' :: 'u' :: e :: f :: g :: h :: more
  · obtain ⟨e, f, g, h, more, rfl⟩ := hpair
    cases half with
    | refused =>
      rw [readChars, hunit]
      simp only [hhigh, hsingle]
      rfl
    | marked =>
      rw [readChars, hunit]
      simp only [hhigh, hsingle]
      rfl
  · have hempty : rest.isEmpty = false := by simpa using hrest
    rw [readChars, hempty, hunit]
    · simp only [Option.bind_some, hsingle]
      rfl
    · intro e f g h more heq
      exact hpair ⟨e, f, g, h, more, heq⟩

/-- A surrogate pair is read as the character beyond the basic plane that it stands for. -/
theorem readChars_escapePair (half : HalfPair) {high low : Nat} (hhigh : high < 0x400)
    (hlow : low < 0x400) {rest : List Char} (hrest : rest ≠ []) :
    readChars half (escapeUnit (0xd800 + high) ++ (escapeUnit (0xdc00 + low) ++ rest))
      = leadWith (Char.ofNat (0x10000 + high * 0x400 + low)) (readChars half rest) := by
  obtain ⟨a, b, c, d, hdigits, hunit⟩ :=
    hexUnit?_hexDigits (by omega : 0xd800 + high < 0x10000)
  obtain ⟨e, f, g, h, hlowDigits, hlowUnit⟩ :=
    hexUnit?_hexDigits (by omega : 0xdc00 + low < 0x10000)
  have hisHigh : isHighHalf (0xd800 + high) = true := by simp [isHighHalf]; omega
  have hisLow : isLowHalf (0xdc00 + low) = true := by simp [isLowHalf]; omega
  have hcode : 0x10000 + (0xd800 + high - 0xd800) * 0x400 + (0xdc00 + low - 0xdc00)
      = 0x10000 + high * 0x400 + low := by omega
  have hempty : rest.isEmpty = false := by simpa using hrest
  -- both units are read before the manner of reading half a pair matters
  rw [escapeUnit, escapeUnit, hdigits, hlowDigits]
  simp only [List.cons_append, List.nil_append]
  cases half with
  | refused =>
    rw [readChars, hunit, hempty, hlowUnit]
    simp only [hisHigh, hisLow, Bool.false_eq_true, if_true, if_false, hcode]
    rfl
  | marked =>
    rw [readChars, hunit, hempty, hlowUnit]
    simp only [hisHigh, hisLow, Bool.false_eq_true, if_true, if_false, hcode]
    rfl

/-- No character is half of a surrogate pair. -/
theorem not_half_toNat (c : Char) :
    isHighHalf c.toNat = false ∧ isLowHalf c.toNat = false := by
  have hvalid : c.toNat < 0xd800 ∨ (0xdfff < c.toNat ∧ c.toNat < 0x110000) := c.valid
  simp only [isHighHalf, isLowHalf, Bool.and_eq_false_iff, decide_eq_false_iff_not]
  omega

/-- The escapes of a character are read as that character. -/
theorem readChars_escapeUnits (half : HalfPair) (c : Char) {rest : List Char} (hrest : rest ≠ []) :
    readChars half (escapeUnits c.toNat ++ rest) = leadWith c (readChars half rest) := by
  rw [escapeUnits]
  split
  case isTrue hsmall =>
    have hhalf := not_half_toNat c
    rw [readChars_escapeUnit half hsmall hhalf.1 hhalf.2 hrest, Char.ofNat_toNat]
  case isFalse hlarge =>
    -- beyond the basic plane the code is split over the two halves
    have hbound : c.toNat < 0x110000 := by
      have hvalid : c.toNat < 0xd800 ∨ (0xdfff < c.toNat ∧ c.toNat < 0x110000) := c.valid
      omega
    have hcode : 0x10000 + (c.toNat - 0x10000) / 0x400 * 0x400 + (c.toNat - 0x10000) % 0x400
        = c.toNat := by omega
    rw [List.append_assoc, readChars_escapePair half (by omega) (by omega) hrest, hcode,
      Char.ofNat_toNat]

/-- A written character is read back. -/
theorem readChars_escapeChar (half : HalfPair) (asciiOnly : Bool) (c : Char) {rest : List Char}
    (hrest : rest ≠ []) :
    readChars half (escapeChar asciiOnly c ++ rest) = leadWith c (readChars half rest) := by
  unfold escapeChar
  -- one case for each way in which a character is written
  split_ifs with hquote hslash hfeed hreturn htab hback hform hcontrol hascii
  case pos =>
    subst hquote
    exact readChars_shortEscape half rfl rest
  case pos =>
    subst hslash
    exact readChars_shortEscape half rfl rest
  case pos =>
    subst hfeed
    exact readChars_shortEscape half rfl rest
  case pos =>
    subst hreturn
    exact readChars_shortEscape half rfl rest
  case pos =>
    subst htab
    exact readChars_shortEscape half rfl rest
  case pos =>
    subst hback
    exact readChars_shortEscape half rfl rest
  case pos =>
    subst hform
    exact readChars_shortEscape half rfl rest
  case pos =>
    have hhalf := not_half_toNat c
    rw [readChars_escapeUnit half (by omega) hhalf.1 hhalf.2 hrest, Char.ofNat_toNat]
  case pos => exact readChars_escapeUnits half c hrest
  case neg => exact readChars_plain half hquote hslash hcontrol rest

/-- Written characters are read back up to the closing quote. -/
theorem readChars_flatMap (half : HalfPair) (asciiOnly : Bool) (cs rest : List Char) :
    readChars half (cs.flatMap (escapeChar asciiOnly) ++ '"' :: rest) = .ok (cs, rest) := by
  induction cs with
  | nil => rw [List.flatMap_nil, List.nil_append, readChars]
  | cons c cs ih =>
    rw [List.flatMap_cons, List.append_assoc, readChars_escapeChar half asciiOnly c (by simp), ih]
    rfl

/-- **A written text is read back**, and the reader stops behind its closing quote. -/
theorem readText_writeText (half : HalfPair) (asciiOnly : Bool) (s : String) (rest : List Char) :
    readText half (s.toList.flatMap (escapeChar asciiOnly) ++ '"' :: rest) = .ok (s, rest) := by
  rw [readText, readChars_flatMap]
  simp

end SheetRecall.Json
