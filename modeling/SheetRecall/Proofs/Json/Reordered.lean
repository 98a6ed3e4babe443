import SheetRecall.Proofs.Json.RoundTrip

/-!
# Values Survive Their JSON

A value that is written as JSON and read again is the value that it was.  A style that sorts keys
changes the order of fields, at every level, and nothing else: no field is lost, none is added, and
a number stays of its kind.  The reader follows nested values only so deep; what is nested deeper
is refused, and never read as another value.

## Main statements
- `reordered_sorted`: a sorted value is the value with its fields in another order.
- `written_value_kept`: what is read is what was written, up to the order of fields.
- `deep_value_refused`: a value that nests too deeply for the reader of payloads.
-/

namespace SheetRecall.Json

open SheetRecall.Value SheetRecall.Decimal

/-! ## Order of fields -/

/-- Two values that differ in the order of fields only, at whatever level. -/
inductive Reordered : Value → Value → Prop where
  /-- Nothing differs. -/
  | refl (v : Value) : Reordered v v
  /-- Lists agree item by item. -/
  | list {items others : List Value} (hlength : items.length = others.length)
      (hitems : ∀ (i : Nat) v w, items[i]? = some v → others[i]? = some w → Reordered v w) :
      Reordered (.list items) (.list others)
  /-- Maps have the same keys, in any order, and agree under each of them. -/
  | map {fields others : List (String × Value)}
      (hkeys : (fields.map (·.1)).Perm (others.map (·.1)))
      (hfields : ∀ key v w, (key, v) ∈ fields → (key, w) ∈ others → Reordered v w) :
      Reordered (.map fields) (.map others)

/-- **A sorted value is the value with its fields in another order.** -/
theorem reordered_sorted {v : Value} (hkeyed : v.WellKeyed) : Reordered (sorted v) v := by
  induction v using memRec with
  | list items ih =>
    have hkeys := (wellKeyedItems_iff items).mp hkeyed
    rw [sorted, sortedItems_eq_map]
    apply Reordered.list
    · rw [List.length_map]
    · -- the items keep their places, each of them sorted
      intro i v w hv hw
      rw [List.getElem?_map, hw, Option.map_some, Option.some.injEq] at hv
      subst hv
      have hmem := List.mem_of_getElem? hw
      exact ih w hmem (hkeys w hmem)
  | map fields ih =>
    have hkeys := (wellKeyedFields_iff fields).mp hkeyed.2
    rw [sorted_map]
    apply Reordered.map
    · exact keys_mergeSort_perm fields
    · intro key v w hv hw
      -- the sorted field comes from a field with its key, and there is only one
      obtain ⟨key', u, hu, heq⟩ := mem_sortedFields_mergeSort.mp hv
      obtain ⟨rfl, rfl⟩ := Prod.mk.inj heq
      have hunique : w = u := by
        have hget := (Entries.get?_eq_some_iff_mem hkeyed.1).mpr hw
        rw [(Entries.get?_eq_some_iff_mem hkeyed.1).mpr hu] at hget
        exact (Option.some.inj hget).symm
      subst hunique
      exact ih (key, w) hw (hkeys (key, w) hw)
  | _ => exact Reordered.refl _

/-- The value that JSON in a style stands for has the fields in some order. -/
theorem reordered_styled (style : Style) {v : Value} (hkeyed : v.WellKeyed) :
    Reordered (styled style v) v := by
  unfold styled
  split
  case isTrue => exact reordered_sorted hkeyed
  case isFalse => exact Reordered.refl v

/-! ## Values that nest deeply -/

/-- Nothing, in so many lists one inside the other. -/
def nested : Nat → Value
  | 0 => .null
  | n + 1 => .list [nested n]

theorem depth_nested (n : Nat) : (nested n).depth = n := by
  induction n with
  | zero => rfl
  | succ n ih => simp [nested, depth, depthItems, ih]

theorem scalars_nested {p : Value → Prop} (h : p .null) (n : Nat) : (nested n).Scalars p := by
  induction n with
  | zero => exact h
  | succ n ih => exact ⟨ih, trivial⟩

theorem wellKeyed_nested (n : Nat) : (nested n).WellKeyed := by
  induction n with
  | zero => trivial
  | succ n ih => exact ⟨ih, trivial⟩

/-- Lists that nest more deeply than payloads are read are refused, whatever the style is. -/
theorem read_write_nested {n : Nat} (h : Manner.lenient.maxDepth < n) (style : Style) :
    read .lenient (write style (nested n)) = .error .tooDeep := by
  rw [read_write (scalars_nested trivial n) (wellKeyed_nested n), within, if_neg]
  rw [depth_nested]
  exact Nat.not_le.mpr h

/-- A list in 980 others is not read back. -/
theorem deep_value_refused :
    (nested 981).Scalars (Readable .lenient) ∧ (nested 981).WellKeyed
      ∧ ∀ style, read .lenient (write style (nested 981)) = .error .tooDeep := by
  have hdeep : Manner.lenient.maxDepth < 981 := by decide
  exact ⟨scalars_nested trivial 981, wellKeyed_nested 981, read_write_nested hdeep⟩

/-! ## Main statement -/

/-- **A value survives its JSON.**  If its integers are not too long, its doubles are numbers whose
digits are read back, and its maps repeat no key, then it is read as it was written in each style,
with its fields in order unless the style sorts them.  The exception is a value that nests more
deeply than the reader follows, and that is refused. -/
theorem written_value_kept {m : Manner} {v : Value} (hread : v.Scalars (Readable m))
    (hkeyed : v.WellKeyed) (style : Style) :
    (v.depth ≤ m.maxDepth →
        ∃ again, read m (write style v) = .ok again ∧ Reordered again v
          ∧ (style.sortKeys = false → again = v))
      ∧ (m.maxDepth < v.depth → read m (write style v) = .error .tooDeep) := by
  rw [read_write hread hkeyed style, within]
  constructor
  · intro hdepth
    rw [if_pos hdepth]
    refine ⟨styled style v, rfl, reordered_styled style hkeyed, fun hsort => ?_⟩
    rw [styled, hsort]
    rfl
  · intro hdeep
    exact if_neg (Nat.not_le.mpr hdeep)

/-- A row with numbers of either kind and a text beyond ASCII is kept by the style that escapes
and sorts. -/
theorem written_row_kept :
    let row : Value := .map [("Kerne", .list [.int (-7), .float 0.5, .bool true]),
      ("Ort", .map [("b", .text "\"é\" 😀\n"), ("a", .null)])]
    row.Scalars (Readable .lenient) ∧ row.WellKeyed ∧ row.depth ≤ Manner.lenient.maxDepth
      ∧ ∃ again, read .lenient (write ⟨true, true⟩ row) = .ok again ∧ Reordered again row := by
  intro row
  -- the scalars of the row are an integer, a double, a truth value, texts and null
  have hint : Readable .lenient (.int (-7)) := by
    unfold Readable
    decide
  have hfloat : Readable .lenient (.float 0.5) := by
    refine ⟨by decide, fun _ => ?_⟩
    unfold FloatReadsBack
    rfl
  have hread : row.Scalars (Readable .lenient) :=
    ⟨⟨hint, hfloat, trivial, trivial⟩, ⟨trivial, trivial, trivial⟩, trivial⟩
  have hkeyed : row.WellKeyed :=
    ⟨by decide, ⟨trivial, trivial, trivial, trivial⟩, ⟨by decide, trivial, trivial, trivial⟩,
      trivial⟩
  have hdepth : row.depth ≤ Manner.lenient.maxDepth := by decide
  obtain ⟨again, hagain, hsame, -⟩ := (written_value_kept hread hkeyed ⟨true, true⟩).1 hdepth
  exact ⟨hread, hkeyed, hdepth, again, hagain, hsame⟩

end SheetRecall.Json
