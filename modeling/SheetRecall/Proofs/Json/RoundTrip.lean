import SheetRecall.Proofs.Entries
import SheetRecall.Proofs.Json.Number
import SheetRecall.Proofs.Json.Sorted
import SheetRecall.Proofs.Json.Text

/-!
# JSON Is Read Back

What is written as JSON is read back as the value that was written, with its maps sorted if the
style sorts them.  The one thing that stands in the way is the depth to which the reader follows
nested values: beyond it the text is refused as too deep, never read as something else.

## What is asked of the value
- No map in it repeats a key.
- Its scalars can be read (`Readable`): an integer has no more digits than are read, a double is
  a number, and the digits of a finite one are read as that double.

## Main statements
`read_write`.  Each level is read in front of what may follow it (`EndsValue`), with room for as
many lists and maps as it nests (`readValue_writeValue`).
-/

namespace SheetRecall.Json

open SheetRecall.Text SheetRecall.Decimal SheetRecall.Value

/-! ## Readable scalars -/

/-- A scalar that is read back from its JSON. -/
def Readable (m : Manner) : Value → Prop
  | .int n => (natDigits n.natAbs).length ≤ maxIntegerDigits
  | .float x => x.isNaN = false ∧ (isFinite x = true → FloatReadsBack m x)
  | _ => True

/-- A scalar that is read back can be written: no integer in it is too long. -/
theorem isShort_of_readable {m : Manner} {v : Value} (h : Readable m v) : v.IsShort := by
  cases v with
  | int n => exact h
  | _ => trivial

/-- A value that stands in no text and no bracket of its own. -/
def IsWord : Value → Prop
  | .text _ | .list _ | .map _ => False
  | _ => True

/-- A scalar other than a text is read back from its letters or digits. -/
theorem readWordOrNumber_writeValue {m : Manner} {v : Value} (hword : IsWord v)
    (hread : Readable m v) (asciiOnly : Bool) {rest : List Char} (hrest : EndsValue rest) :
    readWordOrNumber m (writeValue asciiOnly v ++ rest) = .ok (v, rest) := by
  cases v with
  | null => rfl
  | bool b => cases b <;> rfl
  | int n => exact readWordOrNumber_intChars m hread hrest
  | float x => exact readWordOrNumber_floatChars m hread.1 hread.2 hrest
  | text s => exact absurd hword id
  | list items => exact absurd hword id
  | map fields => exact absurd hword id

/-! ## First characters -/

/-- The characters that a word or a number can begin with. -/
def opensWord (c : Char) : Bool := c.isDigit || ['n', 't', 'f', 'N', 'I', '-'].contains c

/-- A word or a number begins with one of its characters. -/
theorem exists_opensWord_of_readWordOrNumber {m : Manner} {cs : List Char}
    {read : Value × List Char} (h : readWordOrNumber m cs = .ok read) :
    ∃ c more, cs = c :: more ∧ opensWord c = true := by
  unfold readWordOrNumber at h
  split at h
  case h_8 =>
    obtain ⟨c, more, rfl, hc⟩ := exists_digit_of_readNumber h
    exact ⟨c, more, rfl, by simp [opensWord, hc]⟩
  all_goals exact ⟨_, _, rfl, rfl⟩

/-- A character that begins a word or a number differs from one that does not. -/
theorem ne_of_opensWord {c d : Char} (hc : opensWord c = true) (hd : opensWord d = false) :
    c ≠ d := by
  rintro rfl
  exact absurd (hc.symm.trans hd) (by decide)

theorem isJsonBlank_of_opensWord {c : Char} (hc : opensWord c = true) : isJsonBlank c = false := by
  simp [isJsonBlank, ne_of_opensWord hc (d := ' ') rfl, ne_of_opensWord hc (d := '\t') rfl,
    ne_of_opensWord hc (d := '\n') rfl, ne_of_opensWord hc (d := '\r') rfl]

/-- The text is at no blank and at no closing bracket: blanks are skipped up to it. -/
def AtValue (cs : List Char) : Prop :=
  ∃ c more, cs = c :: more ∧ isJsonBlank c = false ∧ c ≠ ']' ∧ c ≠ '}'

/-- No blank is skipped in front of a value. -/
theorem AtValue.skipBlanks_eq {cs : List Char} (h : AtValue cs) : skipBlanks cs = cs := by
  obtain ⟨c, more, rfl, hblank, -⟩ := h
  rw [skipBlanks, List.dropWhile_cons_of_neg (by simp [hblank])]

theorem AtValue.append {cs : List Char} (h : AtValue cs) (rest : List Char) :
    AtValue (cs ++ rest) := by
  obtain ⟨c, more, rfl, hc⟩ := h
  exact ⟨c, more ++ rest, rfl, hc⟩

/-- A written value begins with a character that is no blank and closes nothing. -/
theorem atValue_writeValue {m : Manner} {v : Value} (hread : v.Scalars (Readable m))
    (asciiOnly : Bool) : AtValue (writeValue asciiOnly v) := by
  have hword : IsWord v → Readable m v → AtValue (writeValue asciiOnly v) := by
    intro hword hread
    have hends : EndsValue [] := rfl
    have hback := readWordOrNumber_writeValue hword hread asciiOnly hends
    rw [List.append_nil] at hback
    obtain ⟨c, more, hcs, hc⟩ := exists_opensWord_of_readWordOrNumber hback
    exact ⟨c, more, hcs, isJsonBlank_of_opensWord hc, ne_of_opensWord hc rfl,
      ne_of_opensWord hc rfl⟩
  -- a text, a list and a map open with a mark of their own, and the rest are words and numbers
  cases v with
  | text s => exact ⟨'"', _, rfl, by decide⟩
  | list items => exact ⟨'[', _, rfl, by decide⟩
  | map fields => exact ⟨'{', _, rfl, by decide⟩
  | _ => exact hword trivial hread

/-- A word or a number is read as a value. -/
theorem readValue_of_readWordOrNumber {m : Manner} {cs : List Char} {read : Value × List Char}
    (h : readWordOrNumber m cs = .ok read) (fuel room : Nat) :
    readValue m (fuel + 1) room cs = .ok read := by
  obtain ⟨c, more, rfl, hc⟩ := exists_opensWord_of_readWordOrNumber h
  rw [readValue]
  · exact h
  all_goals
    intro tail heq
    exact ne_of_opensWord hc rfl (List.cons.inj heq).1

/-! ## Lists and maps -/

/-- What is read if it nests no deeper than there is room. -/
def within {α : Type} (depth room : Nat) (read : α) : Except ReadFault α :=
  if depth ≤ room then .ok read else .error .tooDeep

/-- Of two parts of which the first one fits, the second decides. -/
theorem within_max_of_le {α : Type} {first room : Nat} (h : first ≤ room) (second : Nat)
    (read : α) : within (max first second) room read = within second room read := by
  have hiff : max first second ≤ room ↔ second ≤ room := by
    rw [Nat.max_le]
    exact and_iff_right h
  simp only [within, hiff]

theorem within_max_of_not_le {α : Type} {first room : Nat} (h : ¬ first ≤ room) (second : Nat)
    (read : α) : within (max first second) room read = .error .tooDeep := by
  refine if_neg fun hmax => h ?_
  exact (Nat.max_le.mp hmax).1

/-- The value is read back wherever something ends it, with enough fuel for its characters. -/
def ReadsBack (m : Manner) (asciiOnly : Bool) (v : Value) : Prop :=
  AtValue (writeValue asciiOnly v) ∧
    ∀ fuel room rest, (writeValue asciiOnly v).length ≤ fuel → EndsValue rest →
      readValue m fuel room (writeValue asciiOnly v ++ rest) = within v.depth room (v, rest)

private theorem writeItems_cons (asciiOnly : Bool) (v w : Value) (vs : List Value) :
    writeItems asciiOnly (v :: w :: vs)
      = writeValue asciiOnly v ++ (',' :: ' ' :: writeItems asciiOnly (w :: vs)) := by
  rw [writeItems, List.append_assoc]
  · rfl
  · simp

private theorem atValue_writeItems {asciiOnly : Bool} {v : Value} {vs : List Value}
    (h : AtValue (writeValue asciiOnly v)) : AtValue (writeItems asciiOnly (v :: vs)) := by
  cases vs with
  | nil => exact h
  | cons w ws =>
    rw [writeItems_cons]
    exact h.append _

/-- Written items are read back up to the closing bracket. -/
theorem readItems_writeItems {m : Manner} {asciiOnly : Bool} {items : List Value} (hne : items ≠ [])
    (hback : ∀ v ∈ items, ReadsBack m asciiOnly v) {fuel : Nat} (room : Nat) (rest : List Char)
    (hfuel : (writeItems asciiOnly items).length < fuel) :
    readItems m fuel room (writeItems asciiOnly items ++ ']' :: rest)
      = within (depthItems items) room (items, rest) := by
  -- an item is read before what is behind it, so the induction is on the items, for any fuel
  induction items generalizing fuel with
  | nil => exact absurd rfl hne
  | cons v vs ih =>
    obtain ⟨fuel, rfl⟩ : ∃ less, fuel = less + 1 := ⟨fuel - 1, by omega⟩
    obtain ⟨-, hv⟩ := hback v List.mem_cons_self
    cases vs with
    | nil =>
      have hread := hv fuel room (']' :: rest) (Nat.le_of_lt_succ hfuel) rfl
      have hdepth : depthItems [v] = v.depth := Nat.max_zero _
      rw [writeItems, readItems, hread, hdepth, within, within]
      split <;> rfl
    | cons w ws =>
      rw [writeItems_cons] at hfuel ⊢
      simp only [List.length_append, List.length_cons] at hfuel
      have hread := hv fuel room (',' :: ' ' :: (writeItems asciiOnly (w :: ws) ++ ']' :: rest))
        (by omega) rfl
      have hlater := ih (by simp) (fun u hu => hback u (List.mem_cons_of_mem v hu))
        (by omega : (writeItems asciiOnly (w :: ws)).length < fuel)
      -- each comma is followed by a blank, which the reader skips
      have hskip : skipBlanks (' ' :: (writeItems asciiOnly (w :: ws) ++ ']' :: rest))
          = writeItems asciiOnly (w :: ws) ++ ']' :: rest := by
        have hw := (hback w (List.mem_cons_of_mem v List.mem_cons_self)).1
        rw [skipBlanks, List.dropWhile_cons_of_pos (by decide)]
        exact ((atValue_writeItems hw).append _).skipBlanks_eq
      have hcomma : ∀ cs, skipBlanks (',' :: cs) = ',' :: cs := fun _ => rfl
      rw [List.append_assoc, List.cons_append, List.cons_append, readItems, hread]
      -- the first item decides whether the others are read at all
      by_cases hroom : v.depth ≤ room
      · rw [depthItems, within_max_of_le hroom, within, if_pos hroom]
        simp only [bind, Except.bind, hcomma, hskip, hlater, within]
        by_cases hothers : depthItems (w :: ws) ≤ room
        · rw [if_pos hothers, if_pos hothers]
        · rw [if_neg hothers, if_neg hothers]
      · rw [depthItems, within_max_of_not_le hroom, within, if_neg hroom]
        rfl

/-- Helper: a written field up to its value. -/
private def fieldOpening (asciiOnly : Bool) (key : String) : List Char :=
  '"' :: (key.toList.flatMap (escapeChar asciiOnly) ++ ['"', ':', ' '])

private theorem writeFields_singleton (asciiOnly : Bool) (key : String) (v : Value) :
    writeFields asciiOnly [(key, v)] = fieldOpening asciiOnly key ++ writeValue asciiOnly v := by
  rw [writeFields, writeText, fieldOpening]
  simp

private theorem writeFields_cons (asciiOnly : Bool) (key : String) (v : Value)
    (next : String × Value) (rest : List (String × Value)) :
    writeFields asciiOnly ((key, v) :: next :: rest)
      = fieldOpening asciiOnly key
        ++ (writeValue asciiOnly v ++ (',' :: ' ' :: writeFields asciiOnly (next :: rest))) := by
  rw [writeFields, writeText, fieldOpening]
  · simp
  · simp

private theorem writeFields_head (asciiOnly : Bool) (field : String × Value)
    (rest : List (String × Value)) :
    ∃ more, writeFields asciiOnly (field :: rest) = '"' :: more := by
  cases rest with
  | nil => exact ⟨_, by rw [writeFields_singleton]; rfl⟩
  | cons next rest => exact ⟨_, by rw [writeFields_cons]; rfl⟩

/-- Helper: the reader of fields reads the key and goes on with the value. -/
private theorem readFields_fieldOpening (m : Manner) (asciiOnly : Bool) (fuel room : Nat)
    (key : String) {cs : List Char} (hat : AtValue cs) :
    readFields m (fuel + 1) room (fieldOpening asciiOnly key ++ cs)
      = (do
        let (v, rest) ← readValue m fuel room cs
        match skipBlanks rest with
        | '}' :: left => .ok ([(key, v)], left)
        | ',' :: rest =>
          let (fields, left) ← readFields m fuel room (skipBlanks rest)
          .ok ((key, v) :: fields, left)
        | rest => .error (.malformed rest.length)) := by
  have hvalue : skipBlanks (' ' :: cs) = cs := by
    rw [skipBlanks, List.dropWhile_cons_of_pos (by decide)]
    exact hat.skipBlanks_eq
  have hopening : fieldOpening asciiOnly key ++ cs
      = '"' :: (key.toList.flatMap (escapeChar asciiOnly) ++ '"' :: (':' :: ' ' :: cs)) := by
    simp [fieldOpening]
  rw [hopening, readFields, readText_writeText]
  -- the key and the colon are read; the blank in front of the value is left
  change (do
    let (v, rest) ← readValue m fuel room (skipBlanks (' ' :: cs))
    match skipBlanks rest with
    | '}' :: left => .ok ([(key, v)], left)
    | ',' :: rest =>
      let (fields, left) ← readFields m fuel room (skipBlanks rest)
      .ok ((key, v) :: fields, left)
    | rest => .error (.malformed rest.length)) = _
  rw [hvalue]

/-- Written fields are read back up to the closing brace. -/
theorem readFields_writeFields {m : Manner} {asciiOnly : Bool} {fields : List (String × Value)}
    (hne : fields ≠ []) (hback : ∀ field ∈ fields, ReadsBack m asciiOnly field.2) {fuel : Nat}
    (room : Nat) (rest : List Char) (hfuel : (writeFields asciiOnly fields).length < fuel) :
    readFields m fuel room (writeFields asciiOnly fields ++ '}' :: rest)
      = within (depthFields fields) room (fields, rest) := by
  -- as for items, with a key in front of each value
  induction fields generalizing fuel with
  | nil => exact absurd rfl hne
  | cons field others ih =>
    obtain ⟨fuel, rfl⟩ : ∃ less, fuel = less + 1 := ⟨fuel - 1, by omega⟩
    obtain ⟨key, v⟩ := field
    obtain ⟨hat, hv⟩ : ReadsBack m asciiOnly v := hback (key, v) List.mem_cons_self
    cases others with
    | nil =>
      rw [writeFields_singleton] at hfuel ⊢
      simp only [List.length_append] at hfuel
      have hread := hv fuel room ('}' :: rest) (by omega) rfl
      have hdepth : depthFields [(key, v)] = v.depth := Nat.max_zero _
      rw [List.append_assoc, readFields_fieldOpening m asciiOnly fuel room key (hat.append _),
        hread, hdepth, within, within]
      split <;> rfl
    | cons next more =>
      rw [writeFields_cons] at hfuel ⊢
      simp only [List.length_append, List.length_cons] at hfuel
      have hread := hv fuel room
        (',' :: ' ' :: (writeFields asciiOnly (next :: more) ++ '}' :: rest)) (by omega) rfl
      have hlater := ih (by simp) (fun f hf => hback f (List.mem_cons_of_mem _ hf))
        (by omega : (writeFields asciiOnly (next :: more)).length < fuel)
      have hskip : skipBlanks (' ' :: (writeFields asciiOnly (next :: more) ++ '}' :: rest))
          = writeFields asciiOnly (next :: more) ++ '}' :: rest := by
        obtain ⟨tail, htail⟩ := writeFields_head asciiOnly next more
        rw [htail]
        rfl
      have hcomma : ∀ cs, skipBlanks (',' :: cs) = ',' :: cs := fun _ => rfl
      rw [List.append_assoc, List.append_assoc, List.cons_append, List.cons_append,
        readFields_fieldOpening m asciiOnly fuel room key (hat.append _), hread]
      -- the first field decides whether the others are read at all
      by_cases hroom : v.depth ≤ room
      · rw [depthFields, within_max_of_le hroom, within, if_pos hroom]
        simp only [bind, Except.bind, hcomma, hskip, hlater, within]
        by_cases hothers : depthFields (next :: more) ≤ room
        · rw [if_pos hothers, if_pos hothers]
        · rw [if_neg hothers, if_neg hothers]
      · rw [depthFields, within_max_of_not_le hroom, within, if_neg hroom]
        rfl

/-! ## Values -/

/-- A list that holds something is read item by item, if there is room. -/
theorem readValue_list (m : Manner) (fuel room : Nat) {cs : List Char} (hat : AtValue cs) :
    readValue m (fuel + 1) room ('[' :: cs)
      = if room = 0 then .error .tooDeep
        else (readItems m fuel (room - 1) cs).map fun (items, left) => (.list items, left) := by
  have hskip := hat.skipBlanks_eq
  obtain ⟨c, more, rfl, -, hclose, -⟩ := hat
  rw [readValue]
  simp only [hskip]
  split
  case h_1 left heq => exact absurd (List.cons.inj heq).1 hclose
  case h_2 =>
    by_cases hroom : room = 0
    · rw [if_pos hroom, if_pos hroom]
      rfl
    · rw [if_neg hroom, if_neg hroom]
      cases readItems m fuel (room - 1) (c :: more) <;> rfl

theorem readValue_map (m : Manner) (fuel room : Nat) (cs : List Char) :
    readValue m (fuel + 1) room ('{' :: '"' :: cs)
      = if room = 0 then .error .tooDeep
        else (readFields m fuel (room - 1) ('"' :: cs)).map
          fun (fields, left) => (.map (Entries.ofPairs fields), left) := by
  have hskip : skipBlanks ('"' :: cs) = '"' :: cs := rfl
  rw [readValue]
  simp only [hskip]
  split
  case h_1 left heq => exact absurd (List.cons.inj heq).1 (by decide)
  case h_2 =>
    by_cases hroom : room = 0
    · rw [if_pos hroom, if_pos hroom]
      rfl
    · rw [if_neg hroom, if_neg hroom]
      cases readFields m fuel (room - 1) ('"' :: cs) <;> rfl

private theorem within_succ {α β : Type} (depth room : Nat) (read : α) (f : α → β) :
    (if room = 0 then .error .tooDeep else (within depth (room - 1) read).map f)
      = within (depth + 1) room (f read) := by
  cases room with
  | zero => rfl
  | succ room =>
    rw [if_neg (Nat.succ_ne_zero room), Nat.add_sub_cancel, within, within]
    by_cases hroom : depth ≤ room
    · rw [if_pos hroom, if_pos (Nat.succ_le_succ hroom)]
      rfl
    · rw [if_neg hroom, if_neg (fun h => hroom (Nat.le_of_succ_le_succ h))]
      rfl

theorem readsBack_list {m : Manner} {asciiOnly : Bool} {items : List Value}
    (hback : ∀ v ∈ items, ReadsBack m asciiOnly v) : ReadsBack m asciiOnly (.list items) := by
  refine ⟨⟨'[', _, rfl, by decide⟩, fun fuel room rest hfuel _ => ?_⟩
  have hlist : writeValue asciiOnly (.list items) ++ rest
      = '[' :: (writeItems asciiOnly items ++ ']' :: rest) := by
    simp [writeValue]
  -- every step of the reader takes a character at least, so the length of the text is fuel enough
  have hlength : (writeItems asciiOnly items).length + 2 ≤ fuel := by
    simp only [writeValue, List.length_cons, List.length_append] at hfuel
    exact hfuel
  obtain ⟨fuel, rfl⟩ : ∃ less, fuel = less + 1 := ⟨fuel - 1, by omega⟩
  rw [hlist]
  cases items with
  | nil => rfl
  -- the brackets take one level of the room, and the items have the rest
  | cons v vs =>
    have hat : AtValue (writeItems asciiOnly (v :: vs)) :=
      atValue_writeItems (hback v List.mem_cons_self).1
    rw [readValue_list m fuel room (hat.append (']' :: rest)),
      readItems_writeItems (by simp) hback _ _ (by omega), within_succ]
    rfl

/-- A map is read back if the values of its fields are and it repeats no key. -/
theorem readsBack_map {m : Manner} {asciiOnly : Bool} {fields : List (String × Value)}
    (hkeys : (fields.map (·.1)).Nodup) (hback : ∀ field ∈ fields, ReadsBack m asciiOnly field.2) :
    ReadsBack m asciiOnly (.map fields) := by
  refine ⟨⟨'{', _, rfl, by decide⟩, fun fuel room rest hfuel _ => ?_⟩
  have hmap : writeValue asciiOnly (.map fields) ++ rest
      = '{' :: (writeFields asciiOnly fields ++ '}' :: rest) := by
    simp [writeValue]
  have hlength : (writeFields asciiOnly fields).length + 2 ≤ fuel := by
    simp only [writeValue, List.length_cons, List.length_append] at hfuel
    exact hfuel
  obtain ⟨fuel, rfl⟩ : ∃ less, fuel = less + 1 := ⟨fuel - 1, by omega⟩
  rw [hmap]
  cases fields with
  | nil => rfl
  | cons field others =>
    have hfields := readFields_writeFields (by simp) hback (room - 1) rest (by omega : _ < fuel)
    obtain ⟨tail, htail⟩ := writeFields_head asciiOnly field others
    -- the key that opens the fields tells a map with fields from an empty one
    rw [htail, List.cons_append] at hfields ⊢
    have hbuilt : Entries.ofPairs (field :: others) = field :: others :=
      Entries.ofPairs_eq_self hkeys
    rw [readValue_map, hfields, within_succ]
    simp only [hbuilt]
    rfl

/-- **A value is read back wherever something ends it**, if its scalars can be read and its maps
repeat no key. -/
theorem readValue_writeValue {m : Manner} {v : Value} (hread : v.Scalars (Readable m))
    (hkeyed : v.WellKeyed) (asciiOnly : Bool) : ReadsBack m asciiOnly v := by
  -- words and numbers are read whole, and nest nothing
  have hword : ∀ {v : Value}, v.Scalars (Readable m) → IsWord v → Readable m v → v.depth = 0 →
      ReadsBack m asciiOnly v := by
    intro v hscalars hword hread hdepth
    have hat := atValue_writeValue hscalars asciiOnly
    refine ⟨hat, fun fuel room rest hfuel hrest => ?_⟩
    obtain ⟨c, more, hcs, -⟩ := hat
    rw [hcs, List.length_cons] at hfuel
    obtain ⟨fuel, rfl⟩ : ∃ less, fuel = less + 1 := ⟨fuel - 1, by omega⟩
    have hback := readWordOrNumber_writeValue hword hread asciiOnly hrest
    rw [readValue_of_readWordOrNumber hback, hdepth, within, if_pos (Nat.zero_le _)]
  induction v using memRec with
  | text s =>
    refine ⟨⟨'"', _, rfl, by decide⟩, fun fuel room rest hfuel _ => ?_⟩
    have htext : writeValue asciiOnly (.text s) ++ rest
        = '"' :: (s.toList.flatMap (escapeChar asciiOnly) ++ '"' :: rest) := by
      simp [writeValue, writeText]
    have hpos : 0 < fuel := Nat.lt_of_lt_of_le (Nat.succ_pos _) hfuel
    obtain ⟨fuel, rfl⟩ : ∃ less, fuel = less + 1 := ⟨fuel - 1, by omega⟩
    rw [htext, readValue, readText_writeText]
    rfl
  | list items ih =>
    have hitems := (scalarsItems_iff _ items).mp hread
    have hkeys := (wellKeyedItems_iff items).mp hkeyed
    exact readsBack_list fun v hv => ih v hv (hitems v hv) (hkeys v hv)
  | map fields ih =>
    have hfields := (scalarsFields_iff _ fields).mp hread
    have hkeys := (wellKeyedFields_iff fields).mp hkeyed.2
    exact readsBack_map hkeyed.1 fun f hf => ih f hf (hfields f hf) (hkeys f hf)
  | null => exact hword hread trivial hread rfl
  | bool b => exact hword hread trivial hread rfl
  | int n => exact hword hread trivial hread rfl
  | float x => exact hword hread trivial hread rfl

/-! ## Whole texts -/

/-- **What is written as JSON is read back**, with its maps sorted if the style sorts them, or
refused because it nests too deeply. -/
theorem read_write {m : Manner} {v : Value} (hread : v.Scalars (Readable m))
    (hkeyed : v.WellKeyed) (style : Style) :
    read m (write style v) = within v.depth m.maxDepth (styled style v) := by
  -- sorting the keys changes neither the scalars nor how deeply they nest
  have hstyled : (styled style v).Scalars (Readable m) ∧ (styled style v).WellKeyed
      ∧ (styled style v).depth = v.depth := by
    unfold styled
    split
    case isTrue => exact ⟨scalars_sorted_iff.mpr hread, wellKeyed_sorted hkeyed, depth_sorted v⟩
    case isFalse => exact ⟨hread, hkeyed, rfl⟩
  obtain ⟨hat, hback⟩ := readValue_writeValue hstyled.1 hstyled.2.1 style.asciiOnly
  have hwrite : (write style v).toList = writeValue style.asciiOnly (styled style v) := by
    rw [write, String.toList_ofList]
  have hends : EndsValue [] := rfl
  have hwhole := hback (2 * (writeValue style.asciiOnly (styled style v)).length + 2) m.maxDepth []
    (by omega) hends
  rw [List.append_nil] at hwhole
  rw [read, hwrite, hat.skipBlanks_eq]
  simp only [hwhole, hstyled.2.2, within]
  split <;> rfl

end SheetRecall.Json
