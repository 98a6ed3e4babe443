import SheetRecall.Proofs.Entries
import SheetRecall.Proofs.Value.Order
import SheetRecall.Proofs.Value.Scalars
import SheetRecall.Value.Same

/-!
# Values that Equal Themselves

A value equals itself unless it holds the double that is no number.  Maps are compared through
lookup, so the maps inside the value may not repeat a key.
-/

namespace SheetRecall

/-! ## Numbers -/

/-- A double other than the one that is no number equals itself. -/
theorem Number.compareFloats_self {x : Float} (h : x.isNaN = false) :
    Number.compareFloats x x = some .eq := by
  have hself : x.toModel.unpack.compare x.toModel.unpack = some .eq := by
    have hnan : x.toModel.unpack.isNaN = false := h
    cases hunpack : x.toModel.unpack with
    | notANumber =>
      rw [hunpack] at hnan
      exact absurd hnan (by decide)
    | infinity sign => cases sign <;> rfl
    | zero sign => rfl
    | finite sign mantissa exponent hpos =>
      have hparts : (Ord.compare exponent exponent).then (Ord.compare mantissa mantissa)
          = .eq := by simp
      -- of negative numbers the order is the other way round
      cases sign with
      | positive => exact congrArg some hparts
      | negative => exact congrArg (fun order => some order.swap) hparts
  rw [Number.compareFloats_eq, hself]

theorem Number.same_self {a : Number} (h : a.isNone = false) : a.same a = true := by
  cases a with
  | int n => simp [Number.same, Number.compare]
  | float x =>
    rw [Number.same, Number.compare, Number.compareFloats_self h]
    rfl

namespace Value

/-! ## Values without the double that is no number -/

/-- The value is not the double that is no number. -/
def IsNumber : Value → Prop
  | float x => x.isNaN = false
  | _ => True

/-- The double that is no number stands nowhere inside the value. -/
def NanFree (v : Value) : Prop := v.Scalars IsNumber

/-- A text equals nothing but itself. -/
theorem same_text_iff (w : Value) (text : String) :
    w.same (.text text) = true ↔ w = .text text := by
  cases w <;> simp [same, sameBy, number?]

theorem text_same_iff (w : Value) (text : String) :
    (Value.text text).same w = true ↔ w = .text text := by
  cases w with
  | text s =>
    simp only [same, sameBy, beq_iff_eq, Value.text.injEq]
    exact eq_comm
  | _ => simp [same, sameBy, number?]

theorem sameItems_self {items : List Value} (h : ∀ v ∈ items, v.same v = true) :
    sameItemsBy Number.same items items = true := by
  induction items with
  | nil => rfl
  | cons v vs ih =>
    have hv : sameBy Number.same v v = true := h v List.mem_cons_self
    have hvs := ih fun w hw => h w (List.mem_cons_of_mem v hw)
    rw [sameItemsBy, hv, hvs]
    rfl

/-- Fields whose values equal themselves are found with those values wherever they stand. -/
theorem sameFields_self {fields : List (String × Value)}
    (h : ∀ field ∈ fields, field.2.same field.2 = true) {whole : Fields}
    (hwhole : ∀ field ∈ fields, whole.get? field.1 = some field.2) :
    sameFieldsBy Number.same fields whole = true := by
  induction fields with
  | nil => rfl
  | cons field rest ih =>
    obtain ⟨key, v⟩ := field
    have hlookup : whole.lookup key = some v := hwhole (key, v) List.mem_cons_self
    have hv : sameBy Number.same v v = true := h (key, v) List.mem_cons_self
    have hrest := ih (fun f hf => h f (List.mem_cons_of_mem _ hf))
      fun f hf => hwhole f (List.mem_cons_of_mem _ hf)
    rw [sameFieldsBy, hlookup, hrest]
    simp [hv]

/-- **A value without the double that is no number equals itself.** -/
theorem same_self {v : Value} (hnan : v.NanFree) (hkeyed : v.WellKeyed) : v.same v = true := by
  -- only a double that is no number differs from itself, and only a repeated key hides a field
  induction v using memRec with
  | null => rfl
  | bool b => exact Number.same_self (a := .int (if b then 1 else 0)) rfl
  | int n => exact Number.same_self (a := .int n) rfl
  | float x => exact Number.same_self (a := .float x) hnan
  | text s => simp [same, sameBy]
  | list items ih =>
    have hnans := (scalarsItems_iff IsNumber items).mp hnan
    have hkeys := (wellKeyedItems_iff items).mp hkeyed
    exact sameItems_self fun w hw => ih w hw (hnans w hw) (hkeys w hw)
  | map fields ih =>
    have hnans := (scalarsFields_iff IsNumber fields).mp hnan
    have hkeys := (wellKeyedFields_iff fields).mp hkeyed.2
    have hfields : sameFieldsBy Number.same fields fields = true := sameFields_self
      (fun field hf => ih field hf (hnans field hf) (hkeys field hf))
      fun field hf => (Entries.get?_eq_some_iff_mem hkeyed.1).mpr hf
    simp only [same, sameBy, beq_self_eq_true, Bool.true_and]
    exact hfields

end Value

end SheetRecall
