import SheetRecall.Legacy.Row
import SheetRecall.Proofs.Entries
import SheetRecall.Proofs.Legacy.Sniff
import SheetRecall.Proofs.Value.Writable

/-!
# Rows That Are Read from Text

The values and the provenance of a row that is read from text are put together name by name, from
texts whose value is never a list or a map.  So neither of them repeats a name, and both can be
written, since no integer is read that is too long for that.

## Main statement
`flat_of_readRow`.  Both layouts add to a row step by step, and each step keeps the two maps as they
should be (`Row.Flat.addLine` for a line, `Flat.put` for a column).
-/

namespace SheetRecall.Legacy

open SheetRecall.Value SheetRecall.Text SheetRecall.Decimal

/-! ## Values side by side -/

/-- The value of a cell's text holds no other value. -/
theorem writable_sniff (text : String) : Writable 0 (sniff text) := by
  have hsniffed := sniffed_sniff text
  generalize sniff text = v at hsniffed
  cases hsniffed with
  | int hfree hread => exact ⟨Nat.le_refl 0, length_le_of_readInt hfree hread⟩
  | _ => exact ⟨Nat.le_refl 0, trivial⟩

/-- No name stands twice, and no value holds another one. -/
structure Flat (fields : Fields) : Prop where
  names : fields.names.Nodup
  values : ∀ field ∈ fields, Writable 0 field.2

theorem flat_nil : Flat [] := ⟨List.nodup_nil, fun _ h => absurd h List.not_mem_nil⟩

theorem Flat.put {fields : Fields} (h : Flat fields) (name : String) {v : Value}
    (hv : Writable 0 v) : Flat (fields.put name v) := by
  have hnames := Entries.nodup_names_alter h.names name fun _ => v
  refine ⟨hnames, ?_⟩
  rintro ⟨key, w⟩ hmem
  have hget := (Entries.get?_eq_some_iff_mem hnames).mpr hmem
  rw [← Entries.put, Entries.get?_put] at hget
  split at hget
  case isTrue => exact Option.some.inj hget ▸ hv
  case isFalse => exact h.values (key, w) (Entries.mem_of_get?_eq_some hget)

theorem Flat.wellKeyed {fields : Fields} (h : Flat fields) : (Value.map fields).WellKeyed :=
  ⟨h.names, (wellKeyedFields_iff fields).mpr fun field hfield => (h.values field hfield).wellKeyed⟩

/-- Values side by side can be written as a map wherever one map can be opened. -/
theorem Flat.writable {fields : Fields} (h : Flat fields) {room : Nat} (hroom : 0 < room) :
    Writable room (.map fields) :=
  writable_map_iff.mpr (Or.inr ⟨hroom.ne', fun field hfield =>
    (h.values field hfield).mono (Nat.zero_le _)⟩)

/-! ## Sentences -/

theorem flat_dataOf (pairs : List (List Char × List Char)) : Flat (dataOf pairs) := by
  unfold dataOf
  refine List.foldlRecOn (motive := Flat) pairs _ flat_nil fun data hdata pair _ => ?_
  dsimp only
  split
  case isTrue => exact hdata
  case isFalse => exact hdata.put _ (writable_sniff _)

/-- The provenance of a row names the worksheet and the row. -/
theorem flat_sourceOf (worksheet rowNumber : List Char) : Flat (sourceOf worksheet rowNumber) := by
  have hne : worksheetNameKey ≠ rowNumberKey := by decide
  refine ⟨by simp [sourceOf, Entries.names, hne], ?_⟩
  simp only [sourceOf, List.forall_mem_cons, List.not_mem_nil, false_implies, implies_true,
    and_true]
  exact ⟨writable_text 0 _, writable_text 0 _⟩

/-! ## Rows -/

/-- The values and the provenance of a row stand side by side. -/
structure Row.Flat (row : Row) : Prop where
  data : Legacy.Flat row.data
  source : Legacy.Flat row.source

/-- What a line adds stands beside what was there. -/
theorem Row.Flat.addLine {row : Row} (h : row.Flat) (line : List Char) :
    (addLine row line).Flat := by
  unfold Legacy.addLine
  split
  case h_1 worksheet number _ =>
    refine ⟨h.data, ?_⟩
    -- the line of the worksheet sets both names of the provenance one after the other
    refine List.foldlRecOn (motive := Legacy.Flat) _ _ h.source
      fun source hsource field hfield => ?_
    exact hsource.put field.1 ((flat_sourceOf worksheet number).values field hfield)
  case h_2 =>
    split
    case h_1 => exact h
    -- a column is put under its key, and sniffing gives a value that can be written
    case h_2 key value _ =>
      dsimp only
      split
      case isTrue => exact h
      case isFalse => exact ⟨h.data.put _ (writable_sniff _), h.source⟩

theorem flat_of_readSentence {text : String} {row : Row} (h : readSentence? text = some row) :
    row.Flat := by
  obtain ⟨⟨worksheet, number, body⟩, -, hrow⟩ := Option.bind_eq_some_iff.mp h
  rw [← Option.some.inj hrow]
  exact ⟨flat_dataOf _, flat_sourceOf _ _⟩

theorem flat_of_readLines {text : String} {row : Row} (h : readLines? text = some row) :
    row.Flat := by
  have hflat : Row.Flat (((lines text.toList).map trimChars).foldl addLine ⟨[], []⟩) :=
    List.foldlRecOn (motive := Row.Flat) _ _ ⟨flat_nil, flat_nil⟩
      fun _ hrow line _ => hrow.addLine line
  unfold readLines? at h
  generalize ((lines text.toList).map trimChars).foldl addLine ⟨[], []⟩ = read at h hflat
  dsimp only at h
  split at h
  case isTrue => cases h
  case isFalse => exact Option.some.inj h ▸ hflat

/-- **The values and the provenance of a row that is read from text stand side by side**, each under
its own name, whichever layout the text has. -/
theorem flat_of_readRow {text : String} {row : Row} (h : readRow? text = some row) :
    row.Flat := by
  unfold readRow? at h
  split at h
  case isTrue => exact flat_of_readSentence h
  case isFalse =>
    split at h
    case isTrue => exact flat_of_readLines h
    case isFalse => cases h

end SheetRecall.Legacy
