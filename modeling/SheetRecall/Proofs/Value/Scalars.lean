import SheetRecall.Value.Basic

/-!
# All through Values

What holds of every scalar inside a value, how deeply its lists and maps nest, and both for the
items of a list and the fields of a map taken one by one.

## Main statement
`Value.memRec`: what passes from the items of a list and from the fields of a map to the whole
holds of every value.
-/

namespace SheetRecall.Value

/-! ## Induction -/

section Induction

variable {motive : Value → Prop} (null : motive .null) (bool : ∀ b, motive (.bool b))
  (int : ∀ n, motive (.int n)) (float : ∀ x, motive (.float x)) (text : ∀ s, motive (.text s))
  (list : ∀ items, (∀ v ∈ items, motive v) → motive (.list items))
  (map : ∀ fields, (∀ field ∈ fields, motive field.2) → motive (.map fields))

include null bool int float text list map

/-- Induction over a value through the items and fields that it holds. -/
@[elab_as_elim]
theorem memRec (v : Value) : motive v := by
  have hitems : ∀ (w : Value) (ws : List Value), motive w → (∀ u ∈ ws, motive u) →
      ∀ u ∈ w :: ws, motive u := fun _ _ hw hws => List.forall_mem_cons.mpr ⟨hw, hws⟩
  have hfields : ∀ (f : String × Value) (rest : List (String × Value)), motive f.2 →
      (∀ g ∈ rest, motive g.2) → ∀ g ∈ f :: rest, motive g.2 := fun _ _ hf hrest =>
    List.forall_mem_cons.mpr ⟨hf, hrest⟩
  exact @Value.rec motive (fun items => ∀ v ∈ items, motive v)
    (fun fields => ∀ field ∈ fields, motive field.2) (fun field => motive field.2)
    null bool int float text list map (by simp) hitems (by simp) hfields (fun _ _ hv => hv) v

end Induction

/-! ## Scalars -/

mutual

/-- Every scalar inside the value has a property. -/
def Scalars (p : Value → Prop) : Value → Prop
  | list items => ScalarsItems p items
  | map fields => ScalarsFields p fields
  | v => p v
termination_by structural v => v

def ScalarsItems (p : Value → Prop) : List Value → Prop
  | [] => True
  | v :: vs => Scalars p v ∧ ScalarsItems p vs
termination_by structural vs => vs

def ScalarsFields (p : Value → Prop) : List (String × Value) → Prop
  | [] => True
  | (_, v) :: rest => Scalars p v ∧ ScalarsFields p rest
termination_by structural fields => fields

end

theorem scalarsItems_iff (p : Value → Prop) (items : List Value) :
    ScalarsItems p items ↔ ∀ v ∈ items, Scalars p v := by
  induction items with
  | nil => simp [ScalarsItems]
  | cons v vs ih => rw [ScalarsItems, ih, List.forall_mem_cons]

theorem scalarsFields_iff (p : Value → Prop) (fields : List (String × Value)) :
    ScalarsFields p fields ↔ ∀ field ∈ fields, Scalars p field.2 := by
  induction fields with
  | nil => simp [ScalarsFields]
  | cons field rest ih => rw [ScalarsFields, ih, List.forall_mem_cons]

/-- A weaker property holds of every scalar, too. -/
theorem Scalars.imp {p q : Value → Prop} (himp : ∀ v, p v → q v) {v : Value} (h : v.Scalars p) :
    v.Scalars q := by
  induction v using memRec with
  | list items ih =>
    have hitems := (scalarsItems_iff p items).mp h
    exact (scalarsItems_iff q items).mpr fun w hw => ih w hw (hitems w hw)
  | map fields ih =>
    have hfields := (scalarsFields_iff p fields).mp h
    exact (scalarsFields_iff q fields).mpr fun field hf => ih field hf (hfields field hf)
  | _ => exact himp _ h

/-- The items repeat no key in a map exactly when none of them does. -/
theorem wellKeyedItems_iff (items : List Value) :
    WellKeyedItems items ↔ ∀ v ∈ items, WellKeyed v := by
  induction items with
  | nil => simp [WellKeyedItems]
  | cons v vs ih => rw [WellKeyedItems, ih, List.forall_mem_cons]

theorem wellKeyedFields_iff (fields : List (String × Value)) :
    WellKeyedFields fields ↔ ∀ field ∈ fields, WellKeyed field.2 := by
  induction fields with
  | nil => simp [WellKeyedFields]
  | cons field rest ih => rw [WellKeyedFields, ih, List.forall_mem_cons]

/-! ## Depth -/

mutual

/-- In how many lists and maps the innermost value stands; those with nothing in them do not
count. -/
def depth : Value → Nat
  | list items => if items.isEmpty then 0 else depthItems items + 1
  | map fields => if fields.isEmpty then 0 else depthFields fields + 1
  | _ => 0
termination_by structural v => v

def depthItems : List Value → Nat
  | [] => 0
  | v :: vs => max (depth v) (depthItems vs)
termination_by structural vs => vs

def depthFields : List (String × Value) → Nat
  | [] => 0
  | (_, v) :: rest => max (depth v) (depthFields rest)
termination_by structural fields => fields

end

theorem depthItems_le_iff (items : List Value) (n : Nat) :
    depthItems items ≤ n ↔ ∀ v ∈ items, depth v ≤ n := by
  induction items with
  | nil => simp [depthItems]
  | cons v vs ih => rw [depthItems, Nat.max_le, ih, List.forall_mem_cons]

theorem depthFields_le_iff (fields : List (String × Value)) (n : Nat) :
    depthFields fields ≤ n ↔ ∀ field ∈ fields, depth field.2 ≤ n := by
  induction fields with
  | nil => simp [depthFields]
  | cons field rest ih => rw [depthFields, Nat.max_le, ih, List.forall_mem_cons]

theorem depth_map_le_succ {fields : List (String × Value)} {n : Nat}
    (h : ∀ field ∈ fields, depth field.2 ≤ n) : depth (map fields) ≤ n + 1 := by
  rw [depth]
  split
  case isTrue => exact Nat.zero_le _
  case isFalse => exact Nat.succ_le_succ ((depthFields_le_iff fields n).mpr h)

end SheetRecall.Value
