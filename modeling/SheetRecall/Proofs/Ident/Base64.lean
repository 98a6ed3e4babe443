import SheetRecall.Ident.Base64

/-!
# Base 64 Is Read Back

The octets that base 64 stands for are those that were written.  Whole groups are read letter by
letter (`decodeFrom_start` and the lemmas after it); the padding of the last group ends the text.
What stands between the letters is skipped (`decode_filter`).
-/

namespace SheetRecall.Ident.Base64

/-! ## Letters -/

/-- A letter is read as its number. -/
theorem number?_letter {n : Nat} (hn : n < 64) : number? (letter n) = some n := by
  revert n
  decide

/-- No letter is the padding. -/
theorem letter_ne_padding {n : Nat} (hn : n < 64) : letter n ≠ '=' := by
  revert n
  decide

/-- The reader at the start of a group takes the first letter. -/
theorem decodeFrom_start {n : Nat} (hn : n < 64) (rest : List Char) :
    decodeFrom .start (letter n :: rest) = decodeFrom (.one n) rest := by
  rw [decodeFrom, number?_letter hn]
  exact letter_ne_padding hn

/-- The second letter of a group ends the first octet. -/
theorem decodeFrom_one (a : Nat) {n : Nat} (hn : n < 64) (rest : List Char) :
    decodeFrom (.one a) (letter n :: rest)
      = (decodeFrom (.two (n % 16) 0) rest).map (UInt8.ofNat (a * 4 + n / 16) :: ·) := by
  rw [decodeFrom, number?_letter hn]
  exact letter_ne_padding hn

/-- The third letter of a group ends the second octet. -/
theorem decodeFrom_two (b padding : Nat) {n : Nat} (hn : n < 64) (rest : List Char) :
    decodeFrom (.two b padding) (letter n :: rest)
      = (decodeFrom (.three (n % 4)) rest).map (UInt8.ofNat (b * 16 + n / 4) :: ·) := by
  rw [decodeFrom, number?_letter hn]
  exact letter_ne_padding hn

/-- The fourth letter of a group ends the third octet. -/
theorem decodeFrom_three (c : Nat) {n : Nat} (hn : n < 64) (rest : List Char) :
    decodeFrom (.three c) (letter n :: rest)
      = (decodeFrom .start rest).map (UInt8.ofNat (c * 64 + n) :: ·) := by
  rw [decodeFrom, number?_letter hn]
  exact letter_ne_padding hn

/-! ## Groups -/

/-- Helper: an octet from the parts that its letters carry. -/
private theorem ofNat_eq {a : UInt8} {n : Nat} (h : n = a.toNat) : UInt8.ofNat n = a := by
  rw [h, UInt8.ofNat_toNat]

/-- The written octets are read back. -/
theorem decode_encode (octets : List UInt8) : decode (encode octets) = some octets := by
  unfold decode
  induction octets using encode.induct with
  | case1 => rfl
  | case2 a =>
    -- one octet is left: two letters and two paddings
    have ha := a.toNat_lt
    rw [encode]
    simp only [Nat.shiftLeft_eq, Nat.shiftRight_eq_div_pow]
    rw [decodeFrom_start (by omega), decodeFrom_one _ (by omega)]
    have hpadding : ∀ b, decodeFrom (.two b 0) ['=', '='] = some [] := fun _ => rfl
    rw [hpadding, Option.map_some, ofNat_eq (a := a) (by omega)]
  | case3 a b =>
    -- two octets are left: three letters and one padding
    have ha := a.toNat_lt
    have hb := b.toNat_lt
    rw [encode]
    simp only [Nat.shiftLeft_eq, Nat.shiftRight_eq_div_pow]
    rw [decodeFrom_start (by omega), decodeFrom_one _ (by omega), decodeFrom_two _ _ (by omega)]
    have hpadding : ∀ c, decodeFrom (.three c) ['='] = some [] := fun _ => rfl
    rw [hpadding, Option.map_some, Option.map_some, ofNat_eq (a := a) (by omega),
      ofNat_eq (a := b) (by omega)]
  | case4 a b c rest ih =>
    -- a whole group of four letters goes before the others
    have ha := a.toNat_lt
    have hb := b.toNat_lt
    have hc := c.toNat_lt
    rw [encode]
    simp only [Nat.shiftLeft_eq, Nat.shiftRight_eq_div_pow]
    rw [decodeFrom_start (by omega), decodeFrom_one _ (by omega), decodeFrom_two _ _ (by omega),
      decodeFrom_three _ (by omega), ih]
    rw [Option.map_some, Option.map_some, Option.map_some, ofNat_eq (a := a) (by omega),
      ofNat_eq (a := b) (by omega), ofNat_eq (a := c) (by omega)]

/-! ## Text between the letters -/

/-- The character is a letter of the alphabet or the padding. -/
def isSign (c : Char) : Bool := c = '=' || (number? c).isSome

/-- What is neither a letter nor the padding is skipped. -/
theorem decodeFrom_skip (place : Place) {c : Char} (hpadding : c ≠ '=') (hnone : number? c = none)
    (rest : List Char) : decodeFrom place (c :: rest) = decodeFrom place rest := by
  rw [decodeFrom, hnone]
  exact hpadding

theorem decodeFrom_filter (place : Place) (cs : List Char) :
    decodeFrom place (cs.filter isSign) = decodeFrom place cs := by
  induction cs generalizing place with
  | nil => rfl
  | cons c rest ih =>
    by_cases hpadding : c = '='
    · subst hpadding
      rw [List.filter_cons_of_pos (by decide)]
      -- padding stays in the group or ends the text, whatever follows it
      cases place with
      | start => exact ih .start
      | one a => exact ih (.one a)
      | two b padding =>
        rw [decodeFrom, decodeFrom]
        simp only [ih]
      | three n => rfl
    cases hnumber : number? c with
    | none =>
      have hsign : isSign c = false := by simp [isSign, hpadding, hnumber]
      rw [List.filter_cons_of_neg (by simp [hsign]), decodeFrom_skip place hpadding hnumber, ih]
    | some n =>
      have hsign : isSign c = true := by simp [isSign, hnumber]
      rw [List.filter_cons_of_pos hsign, decodeFrom, decodeFrom, hnumber]
      · cases place <;> simp only [ih]
      · exact hpadding
      · exact hpadding

/-- Only the letters and the padding of a text count. -/
theorem decode_filter (cs : List Char) : decode (cs.filter isSign) = decode cs :=
  decodeFrom_filter .start cs

/-! ## Characters -/

/-- What holds of the letters and of the padding holds of all written characters. -/
theorem forall_mem_encode {p : Char → Prop} (hpadding : p '=') (hletter : ∀ n < 64, p (letter n))
    (octets : List UInt8) : ∀ ch ∈ encode octets, p ch := by
  -- in each group every sign stands for six bits, so for a number below 64
  induction octets using encode.induct with
  | case1 => exact fun _ hch => absurd hch (by simp [encode])
  | case2 a =>
    have ha := a.toNat_lt
    rw [encode]
    simp only [Nat.shiftLeft_eq, Nat.shiftRight_eq_div_pow, List.forall_mem_cons]
    exact ⟨hletter _ (by omega), hletter _ (by omega), hpadding, hpadding, by simp⟩
  | case3 a b =>
    have ha := a.toNat_lt
    have hb := b.toNat_lt
    rw [encode]
    simp only [Nat.shiftLeft_eq, Nat.shiftRight_eq_div_pow, List.forall_mem_cons]
    exact ⟨hletter _ (by omega), hletter _ (by omega), hletter _ (by omega), hpadding, by simp⟩
  | case4 a b c rest ih =>
    have ha := a.toNat_lt
    have hb := b.toNat_lt
    have hc := c.toNat_lt
    rw [encode]
    simp only [Nat.shiftLeft_eq, Nat.shiftRight_eq_div_pow, List.forall_mem_cons]
    exact ⟨hletter _ (by omega), hletter _ (by omega), hletter _ (by omega), hletter _ (by omega),
      ih⟩

end SheetRecall.Ident.Base64
