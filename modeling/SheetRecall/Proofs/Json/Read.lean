import SheetRecall.Json.Reader
import SheetRecall.Proofs.Decimal.Digits
import SheetRecall.Proofs.Entries
import SheetRecall.Proofs.Results
import SheetRecall.Proofs.Value.Writable

/-!
# All through What Is Read

A property of values holds of everything that is read from JSON if scalars have it and lists and
maps have it once what they hold has it.  The property may speak of the room that the reader has
left for nested values: every list and map takes one place of it.

## Layers
- `ValueRead`, `ItemsRead`, `FieldsRead`: the ways in which each of the three readers comes to an
  answer.
- `Gives.of_valueRead`, `Gives.of_itemsRead`, `Gives.of_fieldsRead`: what each reader gives has a
  property if what the readers with less fuel give has it.
- `Passes.of_read`: the induction over the fuel.

## Main statements
- `wellKeyed_of_read`: what is read repeats no key in a map.  A repeated key of the text keeps its
  first place and takes its last value.
- `writable_of_read`: what is read nests no deeper than the reader follows, and holds no integer
  that is too long to be written.
-/

namespace SheetRecall.Json

open SheetRecall.Value SheetRecall.Decimal

/-! ## Properties that pass -/

/-- A value that holds no other value. -/
def IsScalar : Value → Prop
  | .list _ | .map _ => False
  | _ => True

/-- The property passes from scalars to lists and maps, each of which takes a place of the room
unless it is empty. -/
structure Passes (property : Nat → Value → Prop) : Prop where
  scalar : ∀ {room v}, IsScalar v → v.IsShort → property room v
  list : ∀ {room items}, (items ≠ [] → room ≠ 0) → (∀ v ∈ items, property (room - 1) v) →
    property room (.list items)
  map : ∀ {room fields}, (Entries.names fields).Nodup → (fields ≠ [] → room ≠ 0) →
    (∀ field ∈ fields, property (room - 1) field.2) → property room (.map fields)

/-- What the readers with some fuel give has the property. -/
structure Gives (property : Nat → Value → Prop) (m : Manner) (fuel : Nat) : Prop where
  value : ∀ {room cs v rest}, readValue m fuel room cs = .ok (v, rest) → property room v
  items : ∀ {room cs items rest}, readItems m fuel room cs = .ok (items, rest) →
    ∀ v ∈ items, property room v
  fields : ∀ {room cs fields rest}, readFields m fuel room cs = .ok (fields, rest) →
    ∀ field ∈ fields, property room field.2

/-! ## Scalars -/

/-- A number is a scalar, and an integer among them has no more digits than are read. -/
theorem scalar_of_readNumber {m : Manner} {neg : Bool} {cs rest : List Char} {v : Value}
    (h : readNumber m neg cs = .ok (v, rest)) : IsScalar v ∧ v.IsShort := by
  have hdigits : ∀ d ∈ (takePlain cs).1, d < 10 := fun d => lt_of_mem_takePlain
  unfold readNumber at h
  -- only a digit run that is not empty makes a number, and only if it is short enough
  split at h
  case h_1 => cases h
  case h_2 whole behind _ hplain =>
  split at h
  case isTrue => cases h
  case isFalse =>
  -- with a fraction or an exponent it is a double, else the digits are counted
  split at h
  case h_1 =>
    cases h
    exact ⟨trivial, trivial⟩
  case h_2 =>
  split at h
  case h_1 =>
    cases h
    exact ⟨trivial, trivial⟩
  case h_2 =>
  split at h
  case isTrue => cases h
  case isFalse hshort =>
    rw [hplain] at hdigits
    have hlength := length_natDigits_le hdigits (Nat.le_of_not_lt hshort)
    cases h
    refine ⟨trivial, ?_⟩
    -- the sign adds no digit
    have habs : (if neg then -Int.ofNat (ofDigits whole) else Int.ofNat (ofDigits whole)).natAbs
        = ofDigits whole := by
      cases neg with
      | false => rfl
      | true => exact Int.natAbs_neg _
    rwa [IsShort, habs]

theorem scalar_of_readWordOrNumber {m : Manner} {cs rest : List Char} {v : Value}
    (h : readWordOrNumber m cs = .ok (v, rest)) : IsScalar v ∧ v.IsShort := by
  unfold readWordOrNumber at h
  split at h
  case h_7 => exact scalar_of_readNumber h
  case h_8 => exact scalar_of_readNumber h
  all_goals
    rw [← (Prod.mk.inj (Except.ok.inj h)).1]
    exact ⟨trivial, trivial⟩

/-! ## The ways to an answer -/

section Ways

variable {m : Manner} {fuel room : Nat} {cs rest : List Char}

/-- How a value is read; what is inside of it is read with the fuel and the room that are left. -/
inductive ValueRead (m : Manner) (fuel room : Nat) : Value → Prop
  | text (s : String) : ValueRead m fuel room (.text s)
  | wordOrNumber {cs rest : List Char} {v : Value} (h : readWordOrNumber m cs = .ok (v, rest)) :
    ValueRead m fuel room v
  | noItems : ValueRead m fuel room (.list [])
  | items {cs rest : List Char} {items : List Value} (hroom : room ≠ 0)
    (h : readItems m fuel (room - 1) cs = .ok (items, rest)) : ValueRead m fuel room (.list items)
  | noFields : ValueRead m fuel room (.map [])
  | fields {cs rest : List Char} {fields : List (String × Value)} (hroom : room ≠ 0)
    (h : readFields m fuel (room - 1) cs = .ok (fields, rest)) :
    ValueRead m fuel room (.map (Entries.ofPairs fields))

theorem valueRead_of_readValue {v : Value} (h : readValue m (fuel + 1) room cs = .ok (v, rest)) :
    ValueRead m fuel room v := by
  unfold readValue at h
  -- the first character tells a text, a list and a map from the others
  split at h
  case h_1 =>
    obtain ⟨⟨s, left⟩, -, h⟩ := except_map_eq_ok_iff.mp h
    cases h
    exact .text s
  -- an empty list nests nothing; another one needs room for its items
  case h_2 =>
    split at h
    case h_1 =>
      cases h
      exact .noItems
    case h_2 =>
      split at h
      case isTrue => cases h
      case isFalse hroom =>
        obtain ⟨⟨items, left⟩, hitems, h⟩ := except_bind_eq_ok_iff.mp h
        cases h
        exact .items hroom hitems
  -- and a map the same, for its fields
  case h_3 =>
    split at h
    case h_1 =>
      cases h
      exact .noFields
    case h_2 =>
      split at h
      case isTrue => cases h
      case isFalse hroom =>
        obtain ⟨⟨fields, left⟩, hfields, h⟩ := except_bind_eq_ok_iff.mp h
        cases h
        exact .fields hroom hfields
  case h_4 => exact .wordOrNumber h

/-- How items are read: the first is a value, the others are items again. -/
inductive ItemsRead (m : Manner) (fuel room : Nat) : List Value → Prop
  | last {cs rest : List Char} {v : Value} (hv : readValue m fuel room cs = .ok (v, rest)) :
    ItemsRead m fuel room [v]
  | more {cs behind others rest : List Char} {v : Value} {vs : List Value}
    (hv : readValue m fuel room cs = .ok (v, behind))
    (hvs : readItems m fuel room others = .ok (vs, rest)) : ItemsRead m fuel room (v :: vs)

theorem itemsRead_of_readItems {items : List Value}
    (h : readItems m (fuel + 1) room cs = .ok (items, rest)) : ItemsRead m fuel room items := by
  unfold readItems at h
  obtain ⟨⟨v, behind⟩, hv, h⟩ := except_bind_eq_ok_iff.mp h
  simp only at h
  -- a bracket or a comma stands behind the value
  split at h
  case h_1 =>
    cases h
    exact .last hv
  case h_2 =>
    obtain ⟨⟨vs, left⟩, hvs, h⟩ := except_bind_eq_ok_iff.mp h
    cases h
    exact .more hv hvs
  case h_3 => cases h

/-- How fields are read: the first is a key with a value, the others are fields again. -/
inductive FieldsRead (m : Manner) (fuel room : Nat) : List (String × Value) → Prop
  | last {cs rest : List Char} (key : String) {v : Value}
    (hv : readValue m fuel room cs = .ok (v, rest)) : FieldsRead m fuel room [(key, v)]
  | more {cs behind others rest : List Char} (key : String) {v : Value}
    {fields : List (String × Value)} (hv : readValue m fuel room cs = .ok (v, behind))
    (hfields : readFields m fuel room others = .ok (fields, rest)) :
    FieldsRead m fuel room ((key, v) :: fields)

theorem fieldsRead_of_readFields {fields : List (String × Value)}
    (h : readFields m (fuel + 1) room cs = .ok (fields, rest)) : FieldsRead m fuel room fields := by
  unfold readFields at h
  split at h
  case h_2 => cases h
  case h_1 =>
    obtain ⟨⟨key, behind⟩, -, h⟩ := except_bind_eq_ok_iff.mp h
    simp only at h
    -- a colon stands behind the key
    split at h
    case h_2 => cases h
    case h_1 =>
      obtain ⟨⟨v, afterwards⟩, hv, h⟩ := except_bind_eq_ok_iff.mp h
      simp only at h
      -- behind the value the map ends or another field begins
      split at h
      case h_1 =>
        cases h
        exact .last key hv
      case h_2 =>
        obtain ⟨⟨others, left⟩, hothers, h⟩ := except_bind_eq_ok_iff.mp h
        cases h
        exact .more key hv hothers
      case h_3 => cases h

end Ways

/-! ## Induction -/

section Readers

variable {property : Nat → Value → Prop} {m : Manner} {fuel room : Nat}

theorem Gives.of_valueRead (hgives : Gives property m fuel) (hpasses : Passes property) {v : Value}
    (h : ValueRead m fuel room v) : property room v := by
  cases h with
  | text s => exact hpasses.scalar trivial trivial
  | wordOrNumber hread =>
    obtain ⟨hscalar, hshort⟩ := scalar_of_readWordOrNumber hread
    exact hpasses.scalar hscalar hshort
  | noItems => exact hpasses.list (fun hne => absurd rfl hne) (by simp)
  | items hroom hitems => exact hpasses.list (fun _ => hroom) (hgives.items hitems)
  | noFields => exact hpasses.map List.nodup_nil (fun hne => absurd rfl hne) (by simp)
  | fields hroom hfields =>
    -- the fields are put one by one, so a key that comes again is replaced
    refine hpasses.map (Entries.nodup_names_ofPairs _) (fun _ => hroom) fun field hfield => ?_
    exact hgives.fields hfields field (Entries.mem_of_mem_ofPairs hfield)

theorem Gives.of_itemsRead (hgives : Gives property m fuel) {items : List Value}
    (h : ItemsRead m fuel room items) : ∀ v ∈ items, property room v := by
  cases h with
  | last hv => exact List.forall_mem_singleton.mpr (hgives.value hv)
  | more hv hvs => exact List.forall_mem_cons.mpr ⟨hgives.value hv, hgives.items hvs⟩

theorem Gives.of_fieldsRead (hgives : Gives property m fuel) {fields : List (String × Value)}
    (h : FieldsRead m fuel room fields) : ∀ field ∈ fields, property room field.2 := by
  cases h with
  | last key hv => exact List.forall_mem_singleton.mpr (hgives.value hv)
  | more key hv hfields => exact List.forall_mem_cons.mpr ⟨hgives.value hv, hgives.fields hfields⟩

/-- **Whatever the fuel is, the readers give what has the property.** -/
theorem Passes.gives (hpasses : Passes property) (m : Manner) (fuel : Nat) :
    Gives property m fuel := by
  induction fuel with
  | zero =>
    refine ⟨fun hread => ?_, fun hread => ?_, fun hread => ?_⟩
    · exact absurd hread (by simp [readValue])
    · exact absurd hread (by simp [readItems])
    · exact absurd hread (by simp [readFields])
  | succ fuel ih =>
    refine ⟨fun hread => ?value, fun hread => ?items, fun hread => ?fields⟩
    case value => exact ih.of_valueRead hpasses (valueRead_of_readValue hread)
    case items => exact ih.of_itemsRead (itemsRead_of_readItems hread)
    case fields => exact ih.of_fieldsRead (fieldsRead_of_readFields hread)

end Readers

/-- **What is read has every property that passes from scalars to lists and maps.** -/
theorem Passes.of_read {property : Nat → Value → Prop} (hpasses : Passes property) {m : Manner}
    {s : String} {v : Value} (h : read m s = .ok v) : property m.maxDepth v := by
  obtain ⟨⟨w, rest⟩, hw, h⟩ := except_bind_eq_ok_iff.mp h
  simp only at h
  split at h
  case h_1 =>
    cases h
    exact (hpasses.gives m _).value hw
  case h_2 => cases h

/-! ## Keys and limits -/

/-- **A value that is read repeats no key in a map.** -/
theorem wellKeyed_of_read {m : Manner} {s : String} {v : Value} (h : read m s = .ok v) :
    v.WellKeyed := by
  have hpasses : Passes fun _ v => v.WellKeyed := by
    refine ⟨?_, ?_, ?_⟩
    · intro _ v hscalar _
      cases v with
      | list items => exact hscalar.elim
      | map fields => exact hscalar.elim
      | _ => trivial
    · intro _ items _ hitems
      exact (wellKeyedItems_iff items).mpr hitems
    · intro _ fields hnames _ hfields
      exact ⟨hnames, (wellKeyedFields_iff fields).mpr hfields⟩
  exact hpasses.of_read h

/-- **What is read can be written**: it nests no deeper than the reader follows, and no integer in
it has more digits than are read. -/
theorem writable_of_read {m : Manner} {s : String} {v : Value} (h : read m s = .ok v) :
    v.Writable m.maxDepth := by
  have hpasses : Passes Writable := by
    refine ⟨?_, ?_, ?_⟩
    · intro room v hscalar hshort
      cases v with
      | list items => exact hscalar.elim
      | map fields => exact hscalar.elim
      | _ => exact ⟨Nat.zero_le room, hshort⟩
    · intro room items hroom hitems
      exact writable_list_iff.mpr (or_iff_not_imp_left.mpr fun hne => ⟨hroom hne, hitems⟩)
    · intro room fields _ hroom hfields
      exact writable_map_iff.mpr (or_iff_not_imp_left.mpr fun hne => ⟨hroom hne, hfields⟩)
  exact hpasses.of_read h

end SheetRecall.Json
