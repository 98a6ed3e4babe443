import SheetRecall.Proofs.Value.Scalars
import SheetRecall.Value.Limits

/-!
# What Can Be Written

A value can be written if it nests no more deeply than is followed and holds no integer that is too
long.  Going through it finds out just that.

## Layers
- `Writable`, and what it is for scalars, lists and maps (`writable_list_iff`, `writable_map_iff`).
- `decides_checkWritable`: a value passes exactly if it can be written, and else one of two faults
  is found.
-/

namespace SheetRecall.Value

open SheetRecall.Decimal

/-! ## Values within limits -/

/-- The value is no integer with more digits than are written. -/
def IsShort : Value → Prop
  | int n => (natDigits n.natAbs).length ≤ maxIntegerDigits
  | _ => True

/-- The value can be written where so many lists and maps may be opened. -/
structure Writable (room : Nat) (v : Value) : Prop where
  depth : v.depth ≤ room
  short : v.Scalars IsShort

theorem writable_text (room : Nat) (s : String) : Writable room (text s) := ⟨Nat.zero_le _, trivial⟩

theorem Writable.mono {room more : Nat} {v : Value} (h : Writable room v) (hle : room ≤ more) :
    Writable more v := ⟨Nat.le_trans h.depth hle, h.short⟩

/-- An empty list takes no room; any other takes one place of it, and leaves the rest to its
items. -/
theorem writable_list_iff {room : Nat} {items : List Value} :
    Writable room (list items)
      ↔ items = [] ∨ room ≠ 0 ∧ ∀ v ∈ items, Writable (room - 1) v := by
  by_cases hitems : items = []
  · subst hitems
    exact iff_of_true ⟨Nat.zero_le _, trivial⟩ (Or.inl rfl)
  · -- a list with items is one deeper than the deepest of them
    have hdepth : (list items).depth = depthItems items + 1 := by
      rw [depth, if_neg (mt List.isEmpty_iff.mp hitems)]
    rw [or_iff_right hitems]
    constructor
    · rintro ⟨hroom, hshort⟩
      rw [hdepth] at hroom
      have hinner := (depthItems_le_iff items (room - 1)).mp (by omega)
      exact ⟨by omega, fun v hv => ⟨hinner v hv, (scalarsItems_iff _ items).mp hshort v hv⟩⟩
    · rintro ⟨hroom, hall⟩
      have hinner := (depthItems_le_iff items (room - 1)).mpr fun v hv => (hall v hv).depth
      exact ⟨by omega, (scalarsItems_iff _ items).mpr fun v hv => (hall v hv).short⟩

/-- A map takes room as a list does. -/
theorem writable_map_iff {room : Nat} {fields : List (String × Value)} :
    Writable room (map fields)
      ↔ fields = [] ∨ room ≠ 0 ∧ ∀ field ∈ fields, Writable (room - 1) field.2 := by
  by_cases hfields : fields = []
  · subst hfields
    exact iff_of_true ⟨Nat.zero_le _, trivial⟩ (Or.inl rfl)
  · -- a map with fields is one deeper than the deepest of them
    have hdepth : (map fields).depth = depthFields fields + 1 := by
      rw [depth, if_neg (mt List.isEmpty_iff.mp hfields)]
    rw [or_iff_right hfields]
    constructor
    · rintro ⟨hroom, hshort⟩
      rw [hdepth] at hroom
      have hinner := (depthFields_le_iff fields (room - 1)).mp (by omega)
      exact ⟨by omega, fun field hfield =>
        ⟨hinner field hfield, (scalarsFields_iff _ fields).mp hshort field hfield⟩⟩
    · rintro ⟨hroom, hall⟩
      have hinner := (depthFields_le_iff fields (room - 1)).mpr fun field hfield =>
        (hall field hfield).depth
      exact ⟨by omega, (scalarsFields_iff _ fields).mpr fun field hfield =>
        (hall field hfield).short⟩

/-- The values in a map that can be written can be written themselves. -/
theorem Writable.fields {room : Nat} {fields : List (String × Value)}
    (h : Writable room (map fields)) : ∀ field ∈ fields, Writable room field.2 := by
  intro field hfield
  obtain rfl | ⟨-, hall⟩ := writable_map_iff.mp h
  · exact absurd hfield List.not_mem_nil
  · exact (hall field hfield).mono (Nat.sub_le _ _)

/-- A value that takes no room repeats no key: it is a scalar, or holds nothing. -/
theorem Writable.wellKeyed {v : Value} (h : Writable 0 v) : v.WellKeyed := by
  cases v with
  | list items =>
    obtain rfl | ⟨hroom, -⟩ := writable_list_iff.mp h
    · trivial
    · exact absurd rfl hroom
  | map fields =>
    obtain rfl | ⟨hroom, -⟩ := writable_map_iff.mp h
    · exact ⟨List.nodup_nil, trivial⟩
    · exact absurd rfl hroom
  | _ => trivial

/-! ## Going through values -/

/-- The faults that a value is met with which cannot be written: it nests too deeply, or it holds an
integer that is too long. -/
def IsUnwritable (fault : Fault) : Prop := fault = .tooDeep ∨ fault = .unusable none

/-- Going through a value finds nothing exactly if it can be written, and else one of the two
faults. -/
structure Decides (check : Except Fault Unit) (writable : Prop) : Prop where
  ok_iff : check = .ok () ↔ writable
  error : ∀ fault, check = .error fault → IsUnwritable fault

theorem Decides.pass {writable : Prop} (h : writable) : Decides (.ok ()) writable :=
  ⟨iff_of_true rfl h, fun _ h => nomatch h⟩

/-- What cannot be written is met with a fault. -/
theorem Decides.exists_error {check : Except Fault Unit} {writable : Prop}
    (h : Decides check writable) (hnot : ¬writable) :
    ∃ fault, check = .error fault ∧ IsUnwritable fault := by
  cases hcheck : check with
  | error fault => exact ⟨fault, rfl, h.error fault hcheck⟩
  | ok found => exact absurd (h.ok_iff.mp hcheck) hnot

theorem Decides.fail {fault : Fault} {writable : Prop} (hfault : IsUnwritable fault)
    (h : ¬writable) : Decides (.error fault) writable :=
  ⟨iff_of_false (by simp) h, fun _ heq => Except.error.inj heq ▸ hfault⟩

/-- What goes through one value after another finds nothing exactly if all of them can be
written. -/
theorem Decides.andThen {check next : Except Fault Unit} {writable others : Prop}
    (h : Decides check writable) (hnext : Decides next others) :
    Decides (check >>= fun _ => next) (writable ∧ others) := by
  cases hcheck : check with
  | error fault =>
    rw [hcheck] at h
    exact .fail (h.error fault rfl) fun hboth => nomatch h.ok_iff.mpr hboth.1
  | ok found =>
    have hwritable := h.ok_iff.mp hcheck
    exact ⟨hnext.ok_iff.trans (iff_and_self.mpr fun _ => hwritable), hnext.error⟩

/-- What opens a list or a map finds it empty, has no room for it, or goes on inside of it. -/
theorem Decides.opening {empty : Bool} {nothing writable : Prop} {room : Nat}
    {inside : Except Fault Unit} (hempty : empty = true ↔ nothing) (h : Decides inside writable) :
    Decides (if empty then .ok () else if room = 0 then .error .tooDeep else inside)
      (nothing ∨ room ≠ 0 ∧ writable) := by
  by_cases hnothing : nothing
  · rw [if_pos (hempty.mpr hnothing)]
    exact .pass (Or.inl hnothing)
  · rw [if_neg (mt hempty.mp hnothing), or_iff_right hnothing]
    by_cases hroom : room = 0
    · rw [if_pos hroom]
      exact .fail (Or.inl rfl) fun hinside => hinside.1 hroom
    · rw [if_neg hroom, and_iff_right hroom]
      exact h

theorem decides_items {items : List Value} {room : Nat}
    (h : ∀ v ∈ items, Decides (v.checkWritable room) (Writable room v)) :
    Decides (checkWritableItems items room) (∀ v ∈ items, Writable room v) := by
  induction items with
  | nil => exact .pass (by simp)
  | cons v vs ih =>
    obtain ⟨hv, hvs⟩ := List.forall_mem_cons.mp h
    rw [List.forall_mem_cons]
    exact hv.andThen (ih hvs)

theorem decides_fields {fields : List (String × Value)} {room : Nat}
    (h : ∀ field ∈ fields, Decides (field.2.checkWritable room) (Writable room field.2)) :
    Decides (checkWritableFields fields room) (∀ field ∈ fields, Writable room field.2) := by
  induction fields with
  | nil => exact .pass (by simp)
  | cons field rest ih =>
    obtain ⟨hv, hrest⟩ := List.forall_mem_cons.mp h
    rw [List.forall_mem_cons]
    exact hv.andThen (ih hrest)

/-- **Going through a value tells whether it can be written.** -/
theorem decides_checkWritable (v : Value) (room : Nat) :
    Decides (v.checkWritable room) (Writable room v) := by
  -- the check goes down with the value, one level of room for each list or map that holds anything
  induction v using memRec generalizing room with
  | int n =>
    rw [checkWritable]
    by_cases hlong : maxIntegerDigits < (natDigits n.natAbs).length
    · rw [isLong, if_pos (decide_eq_true hlong)]
      exact .fail (Or.inr rfl) fun h => absurd h.short (Nat.not_le.mpr hlong)
    · rw [isLong, if_neg (by simpa using hlong)]
      exact .pass ⟨Nat.zero_le _, Nat.le_of_not_lt hlong⟩
  | list items ih =>
    rw [checkWritable, writable_list_iff]
    exact (decides_items fun w hw => ih w hw (room - 1)).opening List.isEmpty_iff
  | map fields ih =>
    rw [checkWritable, writable_map_iff]
    exact (decides_fields fun field hfield => ih field hfield (room - 1)).opening List.isEmpty_iff
  | null => exact .pass ⟨Nat.zero_le _, trivial⟩
  | bool b => exact .pass ⟨Nat.zero_le _, trivial⟩
  | float x => exact .pass ⟨Nat.zero_le _, trivial⟩
  | text s => exact .pass (writable_text room s)

theorem decides_checkWritableFields (fields : List (String × Value)) (room : Nat) :
    Decides (checkWritableFields fields room) (∀ field ∈ fields, Writable room field.2) :=
  decides_fields fun field _ => decides_checkWritable field.2 room

end SheetRecall.Value
