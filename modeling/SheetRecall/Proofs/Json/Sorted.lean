import Mathlib.Data.List.Basic
import Mathlib.Order.Nat
import SheetRecall.Json.Writer
import SheetRecall.Proofs.Value.Writable

/-!
# Sorted Values

Sorting the maps of a value by key changes the order of their fields and nothing else.  Two values
with the same sorted form hold the same under the same keys.

## Main statements
`sorted_sorted`, `wellKeyed_sorted`, `scalars_sorted_iff`, `depth_sorted`, and from the last two
`writable_styled_iff`: in every style a value can be written or not.
-/

namespace SheetRecall.Json

open SheetRecall.Value

/-! ## Fields -/

/-- The order of fields by key. -/
def keyLe (a b : String × Value) : Bool := decide (a.1 ≤ b.1)

theorem sortedFields_eq_map (fields : List (String × Value)) :
    sortedFields fields = fields.map fun field => (field.1, sorted field.2) := by
  induction fields with
  | nil => rfl
  | cons field rest ih => rw [sortedFields, ih, List.map_cons]

theorem sorted_map (fields : List (String × Value)) :
    sorted (.map fields) = .map ((sortedFields fields).mergeSort keyLe) := rfl

/-- Sorting by key keeps the fields. -/
theorem mem_sortedFields_mergeSort {fields : List (String × Value)} {field : String × Value} :
    field ∈ (sortedFields fields).mergeSort keyLe
      ↔ ∃ key v, (key, v) ∈ fields ∧ field = (key, sorted v) := by
  rw [List.mem_mergeSort, sortedFields_eq_map, List.mem_map]
  constructor
  · rintro ⟨⟨key, v⟩, hmem, rfl⟩
    exact ⟨key, v, hmem, rfl⟩
  · rintro ⟨key, v, hmem, rfl⟩
    exact ⟨(key, v), hmem, rfl⟩

theorem keys_mergeSort_perm (fields : List (String × Value)) :
    (((sortedFields fields).mergeSort keyLe).map (·.1)).Perm (fields.map (·.1)) := by
  have hkeys : (sortedFields fields).map (·.1) = fields.map (·.1) := by
    rw [sortedFields_eq_map, List.map_map]
    rfl
  rw [← hkeys]
  exact (List.mergeSort_perm _ keyLe).map _

/-- Fields that are sorted by key stay in place. -/
theorem mergeSort_mergeSort (fields : List (String × Value)) :
    (fields.mergeSort keyLe).mergeSort keyLe = fields.mergeSort keyLe := by
  -- sorted fields are in order, and fields in order are not moved
  apply List.mergeSort_of_pairwise
  apply List.pairwise_mergeSort
  · intro a b c hab hbc
    simp only [keyLe, decide_eq_true_eq] at hab hbc ⊢
    exact String.le_trans hab hbc
  · intro a b
    simp only [keyLe, Bool.or_eq_true, decide_eq_true_eq]
    exact String.le_total a.1 b.1

theorem sortedFields_eq_self {fields : List (String × Value)}
    (h : ∀ field ∈ fields, sorted field.2 = field.2) : sortedFields fields = fields := by
  rw [sortedFields_eq_map]
  refine (List.map_congr_left fun field hfield => ?_).trans (List.map_id fields)
  rw [h field hfield]
  rfl

theorem sortedItems_eq_map (items : List Value) : sortedItems items = items.map sorted := by
  induction items with
  | nil => rfl
  | cons v vs ih => rw [sortedItems, ih, List.map_cons]

/-! ## Values -/

/-- A sorted value stays as it is. -/
theorem sorted_sorted (v : Value) : sorted (sorted v) = sorted v := by
  induction v using memRec with
  | list items ih =>
    rw [sorted, sorted, sortedItems_eq_map, sortedItems_eq_map, List.map_map]
    exact congrArg Value.list (List.map_congr_left ih)
  | map fields ih =>
    -- the values are sorted already, and so are the fields
    rw [sorted_map, sorted_map, sortedFields_eq_self, mergeSort_mergeSort]
    intro field hfield
    obtain ⟨key, v, hmem, rfl⟩ := mem_sortedFields_mergeSort.mp hfield
    exact ih (key, v) hmem
  | _ => rfl

/-- A sorted value repeats no key if the value does not. -/
theorem wellKeyed_sorted {v : Value} (h : v.WellKeyed) : (sorted v).WellKeyed := by
  induction v using memRec with
  | list items ih =>
    have hitems := (wellKeyedItems_iff items).mp h
    refine (wellKeyedItems_iff _).mpr ?_
    rw [sortedItems_eq_map, List.forall_mem_map]
    exact fun w hw => ih w hw (hitems w hw)
  | map fields ih =>
    have hfields := (wellKeyedFields_iff fields).mp h.2
    -- sorting the fields moves their keys around and adds none
    refine ⟨(keys_mergeSort_perm fields).nodup_iff.mpr h.1, (wellKeyedFields_iff _).mpr ?_⟩
    intro field hfield
    obtain ⟨key, w, hmem, rfl⟩ := mem_sortedFields_mergeSort.mp hfield
    exact ih (key, w) hmem (hfields _ hmem)
  | _ => trivial

/-- The scalars inside a sorted value are those inside the value. -/
theorem scalars_sorted_iff {p : Value → Prop} {v : Value} :
    (sorted v).Scalars p ↔ v.Scalars p := by
  induction v using memRec with
  | list items ih =>
    rw [sorted, Scalars, Scalars, scalarsItems_iff, scalarsItems_iff, sortedItems_eq_map,
      List.forall_mem_map]
    exact forall₂_congr fun w hw => ih w hw
  | map fields ih =>
    rw [sorted_map, Scalars, Scalars, scalarsFields_iff, scalarsFields_iff]
    -- a field of the sorted map is a field of the map, with its own value sorted
    constructor
    · intro h field hfield
      have hmem := mem_sortedFields_mergeSort.mpr ⟨field.1, field.2, hfield, rfl⟩
      exact (ih field hfield).mp (h _ hmem)
    · intro h field hfield
      obtain ⟨key, w, hmem, rfl⟩ := mem_sortedFields_mergeSort.mp hfield
      exact (ih (key, w) hmem).mpr (h (key, w) hmem)
  | _ => exact Iff.rfl

/-- A sorted value nests as deeply as the value. -/
theorem depth_sorted (v : Value) : (sorted v).depth = v.depth := by
  induction v using memRec with
  | list items ih =>
    have hitems : depthItems (sortedItems items) = depthItems items := by
      refine eq_of_forall_ge_iff fun n => ?_
      rw [depthItems_le_iff, depthItems_le_iff, sortedItems_eq_map, List.forall_mem_map]
      exact forall₂_congr fun w hw => by rw [ih w hw]
    have hempty : (sortedItems items).isEmpty = items.isEmpty := by
      rw [sortedItems_eq_map, List.isEmpty_map]
    rw [sorted, depth, depth, hitems, hempty]
  | map fields ih =>
    -- both depths have the same bounds, as sorting keeps the fields
    have hfields : depthFields ((sortedFields fields).mergeSort keyLe) = depthFields fields := by
      refine eq_of_forall_ge_iff fun n => ?_
      rw [depthFields_le_iff, depthFields_le_iff]
      constructor
      · intro h field hfield
        rw [← ih field hfield]
        exact h (field.1, sorted field.2)
          (mem_sortedFields_mergeSort.mpr ⟨field.1, field.2, hfield, rfl⟩)
      · intro h field hfield
        obtain ⟨key, w, hmem, rfl⟩ := mem_sortedFields_mergeSort.mp hfield
        rw [ih (key, w) hmem]
        exact h (key, w) hmem
    have hempty : ((sortedFields fields).mergeSort keyLe).isEmpty = fields.isEmpty := by
      have hlength := (keys_mergeSort_perm fields).length_eq
      rw [List.length_map, List.length_map] at hlength
      rw [Bool.eq_iff_iff, List.isEmpty_iff_length_eq_zero, List.isEmpty_iff_length_eq_zero,
        hlength]
    rw [sorted_map, depth, depth, hfields, hempty]
  | _ => rfl

/-- Whether a value can be written does not depend on the style. -/
theorem writable_styled_iff (style : Style) {room : Nat} {v : Value} :
    Writable room (styled style v) ↔ Writable room v := by
  unfold styled
  split
  case isTrue =>
    constructor
    · intro h
      exact ⟨depth_sorted v ▸ h.depth, scalars_sorted_iff.mp h.short⟩
    · intro h
      exact ⟨(depth_sorted v).symm ▸ h.depth, scalars_sorted_iff.mpr h.short⟩
  case isFalse => exact Iff.rfl

end SheetRecall.Json
