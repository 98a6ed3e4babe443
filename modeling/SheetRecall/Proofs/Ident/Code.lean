import SheetRecall.Ident.Code
import SheetRecall.Proofs.Ident.Base64

/-!
# Document Ids Are Read Back

The code of a record id is read back as that id, whatever its characters are, and holds nothing
that a document id may not hold.  The reader takes more than codes: it skips what is no letter of
the code, and then asks for UTF-8 and nothing else.

## Main statements
- `decode_encode`, `encode_injective`: no two record ids have one code.
- `decode_eq_ok_iff`: what is read as a given record id.
- `code_lossless`: all of it together.
-/

namespace SheetRecall.Ident

/-! ## Octets of a text -/

/-- Helper: the octets of an array from some place on, behind those before it. -/
private theorem toList_loop_eq (octets : ByteArray) (start : Nat) (before : List UInt8) :
    ByteArray.toList.loop octets start before
      = before.reverse ++ octets.data.toList.drop start := by
  fun_induction ByteArray.toList.loop octets start before with
  | case1 start before hlt ih =>
    have hlength : start < octets.data.toList.length := by simpa using hlt
    have hget : octets.get! start = octets.data.toList[start] := by
      obtain ⟨data⟩ := octets
      exact getElem!_pos data start hlt
    rw [ih, List.drop_eq_getElem_cons hlength, hget]
    simp
  | case2 start before hge =>
    have hlength : octets.data.toList.length ≤ start := by simpa using Nat.le_of_not_lt hge
    rw [List.drop_eq_nil_of_le hlength, List.append_nil]

theorem toList_eq_data_toList (octets : ByteArray) : octets.toList = octets.data.toList := by
  rw [ByteArray.toList, toList_loop_eq]
  rfl

/-- The octets of a text are read as that text. -/
theorem fromUTF8?_toList (id : String) :
    String.fromUTF8? ⟨id.toUTF8.toList.toArray⟩ = some id := by
  have hoctets : (⟨id.toUTF8.toList.toArray⟩ : ByteArray) = id.toUTF8 := by
    rw [toList_eq_data_toList]
  have hvalid : id.toUTF8.IsValidUTF8 := id.isValidUTF8
  rw [hoctets, String.fromUTF8?, dif_pos hvalid]
  rfl

/-- Octets are read as a text exactly when they are the octets of that text. -/
theorem fromUTF8?_eq_some_iff (octets : List UInt8) (id : String) :
    String.fromUTF8? ⟨octets.toArray⟩ = some id ↔ octets = id.toUTF8.toList := by
  constructor
  · intro h
    unfold String.fromUTF8? at h
    split at h
    case isTrue hvalid =>
      obtain rfl := Option.some.inj h
      rw [toList_eq_data_toList]
      rfl
    case isFalse => cases h
  · rintro rfl
    exact fromUTF8?_toList id

/-! ## Codes -/

/-- **The code of a record id is read back.** -/
theorem decode_encode (id : String) : decode (encode id) = .ok id := by
  -- changing the two characters back gives plain base64, which is ASCII
  have hrestored : (encode id).toList.map ofCodeChar = Base64.encode id.toUTF8.toList := by
    rw [encode, String.toList_ofList, List.map_map]
    refine (List.map_congr_left ?_).trans (List.map_id _)
    apply Base64.forall_mem_encode
    · decide
    · decide
  have hascii : ((Base64.encode id.toUTF8.toList).any fun c => 0x7f < c.toNat) = false := by
    rw [List.any_eq_false]
    apply Base64.forall_mem_encode
    · decide
    · decide
  simp only [decode, hrestored, hascii, Base64.decode_encode, fromUTF8?_toList]
  rfl

/-- **No two record ids have one code.** -/
theorem encode_injective : Function.Injective encode := by
  intro id other h
  have hdecoded := congrArg decode h
  rw [decode_encode, decode_encode] at hdecoded
  exact Except.ok.inj hdecoded

/-! ## Characters of codes -/

/-- The characters that codes are made of: letters and digits of ASCII, and three marks. -/
def isCodeChar (c : Char) : Bool := c.isAlphanum || c = '+' || c = '-' || c = '_'

theorem isCodeChar_of_mem_encode {id : String} {c : Char} (h : c ∈ (encode id).toList) :
    isCodeChar c = true := by
  rw [encode, String.toList_ofList, List.mem_map] at h
  obtain ⟨sign, hsign, rfl⟩ := h
  revert sign
  apply Base64.forall_mem_encode
  · decide
  · decide

/-! ## Reading texts that may be no codes -/

/-- A text is read as a record id exactly when it is ASCII and its letters stand for the octets of
that id. -/
theorem decode_eq_ok_iff (code id : String) :
    decode code = .ok id
      ↔ (∀ c ∈ code.toList, (ofCodeChar c).toNat ≤ 0x7f)
        ∧ Base64.decode ((code.toList.map ofCodeChar).filter Base64.isSign)
          = some id.toUTF8.toList := by
  have hascii : ((code.toList.map ofCodeChar).any fun c => 0x7f < c.toNat) = false
      ↔ ∀ c ∈ code.toList, (ofCodeChar c).toNat ≤ 0x7f := by simp
  rw [Base64.decode_filter, decode, ← hascii]
  cases (code.toList.map ofCodeChar).any fun c => 0x7f < c.toNat with
  | true => simp
  | false =>
    rw [if_neg Bool.false_ne_true, and_iff_right rfl]
    -- the last two steps are partial: whole groups, and octets that are UTF-8
    cases Base64.decode (code.toList.map ofCodeChar) with
    | none => simp
    | some octets =>
      rw [Option.some.injEq, ← fromUTF8?_eq_some_iff]
      dsimp only
      cases String.fromUTF8? ⟨octets.toArray⟩ with
      | none => simp
      | some read => simp

/-! ## Main statement -/

/-- **Record ids survive as document ids.**  The code of a record id is read back, holds only
letters and digits of ASCII, `+`, `-` and `_`, and belongs to no other record id.  The reader of
codes skips foreign characters, and takes a text for a record id only if its letters stand for
the UTF-8 of that id. -/
theorem code_lossless :
    (∀ id, decode (encode id) = .ok id)
      ∧ (∀ id, ∀ c ∈ (encode id).toList, isCodeChar c = true)
      ∧ (∀ id, ∀ c ∈ ['/', '=', '?', '#', '\\'], c ∉ (encode id).toList)
      ∧ Function.Injective encode
      ∧ ∀ code id, decode code = .ok id
        ↔ (∀ c ∈ code.toList, (ofCodeChar c).toNat ≤ 0x7f)
          ∧ Base64.decode ((code.toList.map ofCodeChar).filter Base64.isSign)
            = some id.toUTF8.toList := by
  refine ⟨decode_encode, fun id c hc => isCodeChar_of_mem_encode hc, fun id c hc hmem => ?_,
    encode_injective, decode_eq_ok_iff⟩
  have hcode := isCodeChar_of_mem_encode hmem
  -- none of these characters is one of a code
  simp only [List.mem_cons, List.not_mem_nil, or_false] at hc
  rcases hc with rfl | rfl | rfl | rfl | rfl
  all_goals cases hcode

end SheetRecall.Ident
