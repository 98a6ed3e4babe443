import SheetRecall.Proofs.Document.Decode

/-!
# Records under Edits

A record is edited in two ways: a field is set to a value that passes the field's check, or a value
is added to a tag, which is not checked.  Whatever is done, and whatever is refused on the way, the
record stays one that could be made from its own fields, under the id that it has.  Tags only grow
at their end when values are added, so the first value of a tag stays first, and with it the
partition that the record is stored in.

## Layers
- `set_eq_ok_iff`: all that an accepted field does to a record (`FieldSet`).
- `addTag_spec`: all that a value added to a tag does.
- `ofFields_toFields`: every record is made of its fields.
- `tag?_edited`, `fileId_eq`: what a tag shows first is shown for good, and names the file.
- `edits_keep`: all of it for a record after any edits.
-/

namespace SheetRecall.Record

open Schema

/-! ## Edits -/

/-- An edit of a record. -/
inductive Edit where
  /-- Adds a value to a tag. -/
  | addTag (key : String) (value : Option String)
  /-- Sets a field by name. -/
  | set (field : String) (value : Value)

/-- Makes the edit: its answer, and the record after it. -/
def Edit.make (r : Record) : Edit → Except Fault Unit × Record
  | addTag key value => (.ok (), r.addTag key value)
  | set field value =>
    match r.set field value with
    | .ok s => (.ok (), s)
    | .error fault => (.error fault, r)

/-- The record after some edits; what is refused is passed over. -/
def edited (r : Record) (edits : List Edit) : Record :=
  edits.foldl (fun r edit => (edit.make r).2) r

/-! ## Setting a field -/

/-- A field is set exactly if its value passes. -/
private theorem map_orFault_eq_ok_iff {α : Type} {checked : Checked α} {f : α → Record}
    {s : Record} {step : Step} :
    (under step checked).orFault.map f = .ok s ↔ ∃ a, checked = .ok a ∧ f a = s := by
  cases checked <;> simp [under, Checked.orFault, Except.mapError, Except.map]

/-- The second record is the first one with a field set to what the check of the field makes of
the value.  What is set under a name that belongs to nobody is not kept. -/
inductive FieldSet (r : Record) (value : Value) : String → Record → Prop where
  | vector {vector : List Float} (h : checkVector value = .ok vector) :
      FieldSet r value "vector" { r with vector }
  | tags {tags : Tags} (h : checkTags value = .ok tags) : FieldSet r value "tags" { r with tags }
  | payload {payload : Fields} (h : checkPayload value = .ok payload) :
      FieldSet r value "payload" { r with payload }
  | nobody {field : String} (h : isPrivate field = true) : FieldSet r value field r

/-- **A field is accepted exactly if its value passes the check of the field.** -/
theorem set_eq_ok_iff {r s : Record} {field : String} {value : Value} :
    r.set field value = .ok s ↔ FieldSet r value field s := by
  constructor
  · -- one way through the assignment for each field that can be set
    intro h
    unfold set at h
    repeat' split at h
    · cases h
    case _ hfield =>
      obtain ⟨vector, hvector, rfl⟩ := map_orFault_eq_ok_iff.mp h
      exact hfield ▸ .vector hvector
    case _ hfield =>
      obtain ⟨tags, htags, rfl⟩ := map_orFault_eq_ok_iff.mp h
      exact hfield ▸ .tags htags
    case _ hfield =>
      obtain ⟨payload, hpayload, rfl⟩ := map_orFault_eq_ok_iff.mp h
      exact hfield ▸ .payload hpayload
    case _ hprivate =>
      obtain rfl := Except.ok.inj h
      exact .nobody hprivate
    · cases h
    · cases h
  · intro h
    cases h with
    | vector h => exact map_orFault_eq_ok_iff.mpr ⟨_, h, rfl⟩
    | tags h => exact map_orFault_eq_ok_iff.mpr ⟨_, h, rfl⟩
    | payload h => exact map_orFault_eq_ok_iff.mpr ⟨_, h, rfl⟩
    | nobody h =>
      -- none of the names of fields begins with a low line
      have hne : ∀ name, isPrivate name = false → field ≠ name := by
        rintro name hname rfl
        exact absurd (h.symm.trans hname) (by decide)
      rw [set, if_neg (hne _ (by decide +kernel)), if_neg (hne _ (by decide +kernel)),
        if_neg (hne _ (by decide +kernel)), if_neg (hne _ (by decide +kernel)), if_pos h]

/-! ## Adding to a tag -/

/-- The second record is the first one with a value at the end of a tag's list, unless the value
was in the list; a tag that was not there counts as one without values. -/
structure AddedTo (r s : Record) (key : String) (value : Option String) : Prop where
  id : s.id = r.id
  vector : s.vector = r.vector
  payload : s.payload = r.payload
  others : ∀ other, other ≠ key → s.tags.get? other = r.tags.get? other
  values : ∃ values, values = (r.tags.get? key).getD []
    ∧ s.tags.get? key = some (if value ∈ values then values else values ++ [value])
  names : s.tags.names = if key ∈ r.tags.names then r.tags.names else r.tags.names ++ [key]

theorem addValue_eq (value : Option String) (values : Option (List (Option String))) :
    addValue value values
      = if value ∈ values.getD [] then values.getD [] else values.getD [] ++ [value] := by
  cases values with
  | none => rfl
  | some values => simp [addValue]

/-- **A value that is added changes the list of its tag and nothing else.** -/
theorem addTag_spec (r : Record) (key : String) (value : Option String) :
    AddedTo r (r.addTag key value) key value := by
  refine ⟨rfl, rfl, rfl, fun other hother => ?_, ⟨_, rfl, ?_⟩, Entries.names_alter _ _ _⟩
  · rw [addTag, Entries.get?_alter, if_neg hother.symm]
  · rw [addTag, Entries.get?_alter, if_pos rfl, addValue_eq]

/-! ## Records and their fields -/

theorem checkPayload_map (payload : Fields) : checkPayload (.map payload) = .ok payload := by
  have hchecked : checkMap checkAny (.map (payload.map fun field => field)) = .ok payload :=
    checkMap_eq_ok (fun _ => rfl) payload
  rwa [List.map_id'] at hchecked

/-- **Every record is the one that its fields make.** -/
theorem ofFields_toFields (r : Record) : ofFields r.toFields = .ok r := by
  have hid : required r.toFields "id" checkText = .ok r.id := rfl
  have hvector : orDefault r.toFields "vector" checkVector [] = .ok r.vector := by
    change under _ (checkVector (.list (r.vector.map .float))) = _
    rw [checkVector_floats, under_ok]
  have htags : orDefault r.toFields "tags" checkTags [] = .ok r.tags := by
    change under _ (checkTags (tagsValue r.tags)) = _
    rw [checkTags_tagsValue, under_ok]
  have hpayload : orDefault r.toFields "payload" checkPayload [] = .ok r.payload := by
    change under _ (checkPayload (.map r.payload)) = _
    rw [checkPayload_map, under_ok]
  rw [ofFields, hid, hvector, htags, hpayload]
  rfl

/-- No map in the record repeats a key. -/
structure KeysDiffer (r : Record) : Prop where
  tags : r.tags.names.Nodup
  payload : (Value.map r.payload).WellKeyed

private theorem both_eq_ok {α β : Type} {a : Checked α} {b : Checked β} {pair : α × β}
    (h : both a b = .ok pair) : a = .ok pair.1 ∧ b = .ok pair.2 := by
  cases a with
  | error issues => cases b <;> cases h
  | ok x =>
    cases b with
    | error issues => cases h
    | ok y =>
      cases h
      exact ⟨rfl, rfl⟩

/-- What passes as fields has their names. -/
theorem names_of_checkFields {α : Type} {check : Value → Checked α}
    {fields : List (String × Value)} {checked : List (String × α)}
    (h : checkFields check fields = .ok checked) : checked.map (·.1) = fields.map (·.1) := by
  induction fields generalizing checked with
  | nil =>
    obtain rfl := Except.ok.inj h
    rfl
  -- each field keeps its key, whatever its value is turned into
  | cons field rest ih =>
    obtain ⟨key, v⟩ := field
    rw [checkFields] at h
    cases hboth : both (under (.field key) (check v)) (checkFields check rest) with
    | error issues =>
      rw [hboth] at h
      cases h
    | ok pair =>
      rw [hboth] at h
      obtain rfl := Except.ok.inj h
      rw [List.map_cons, List.map_cons, ih (both_eq_ok hboth).2]

theorem names_of_checkMap {α : Type} {check : Value → Checked α} {value : Value}
    {checked : List (String × α)} (h : checkMap check value = .ok checked) :
    ∃ fields, value = .map fields ∧ checked.map (·.1) = fields.map (·.1) := by
  unfold checkMap at h
  split at h
  case h_1 fields => exact ⟨fields, rfl, names_of_checkFields h⟩
  case h_2 => cases h

/-- A payload that passes is the map that was given. -/
theorem eq_of_checkPayload {value : Value} {payload : Fields}
    (h : checkPayload value = .ok payload) : value = .map payload := by
  obtain ⟨fields, rfl, -⟩ := names_of_checkMap h
  rw [checkPayload_map] at h
  rw [Except.ok.inj h]

/-- An edit repeats no key in a map. -/
def Edit.KeysDiffer : Edit → Prop
  | addTag _ _ => True
  | set _ value => value.WellKeyed

theorem KeysDiffer.make {r : Record} (h : r.KeysDiffer) {edit : Edit} (hedit : edit.KeysDiffer) :
    (edit.make r).2.KeysDiffer := by
  cases edit with
  | addTag key value => exact ⟨Entries.nodup_names_alter h.tags _ _, h.payload⟩
  -- only tags and payload have keys, and what is assigned to them was checked
  | set field value =>
    rw [Edit.make]
    split
    case h_2 => exact h
    case h_1 s hset =>
      cases set_eq_ok_iff.mp hset with
      | vector => exact ⟨h.tags, h.payload⟩
      | tags htags =>
        obtain ⟨fields, rfl, hnames⟩ := names_of_checkMap htags
        refine ⟨?_, h.payload⟩
        rw [Entries.names, hnames]
        exact hedit.1
      | payload hpayload =>
        obtain rfl := eq_of_checkPayload hpayload
        exact ⟨h.tags, hedit⟩
      | nobody => exact h

/-! ## The first value of a tag -/

/-- **What a tag shows first it shows whatever is added**, to it or to another tag. -/
theorem tag?_addTag {r : Record} {tag first : String} (h : r.tag? tag = some first) (key : String)
    (value : Option String) : (r.addTag key value).tag? tag = some first := by
  have hshown : ((r.tags.get? tag).getD []).findSome? (fun value => value) = some first := h
  change (((r.addTag key value).tags.get? tag).getD []).findSome? (fun value => value) = some first
  by_cases htag : key = tag
  · subst htag
    obtain ⟨values, rfl, hvalues⟩ := (addTag_spec r key value).values
    rw [hvalues, Option.getD_some]
    -- the value was there, or it comes behind the one that is shown
    split
    case isTrue => exact hshown
    case isFalse => rw [List.findSome?_append, hshown, Option.some_or]
  · rw [(addTag_spec r key value).others tag (Ne.symm htag)]
    exact hshown

/-- A record with a file is grouped by it. -/
theorem fileId_eq {r : Record} {file : String} (h : r.tag? fileIdTag = some file)
    (hne : file ≠ "") : r.fileId = file := by
  have hempty : ¬file.isEmpty = true := by simpa using hne
  simp only [fileId, h, if_neg hempty]

/-- The edit adds to a tag. -/
def Edit.AddsTag : Edit → Prop
  | addTag _ _ => True
  | set _ _ => False

theorem tag?_edited {r : Record} {tag first : String} (h : r.tag? tag = some first)
    {edits : List Edit} (hedits : ∀ edit ∈ edits, edit.AddsTag) :
    (r.edited edits).tag? tag = some first := by
  induction edits generalizing r with
  | nil => exact h
  | cons edit rest ih =>
    have hrest : ∀ later ∈ rest, later.AddsTag := fun later hlater =>
      hedits later (List.mem_cons_of_mem edit hlater)
    have hedit := hedits edit List.mem_cons_self
    cases edit with
    | addTag key value => exact ih (tag?_addTag h key value) hrest
    | set field value => exact hedit.elim

/-! ## Every list of edits -/

/-- One edit keeps the id. -/
theorem id_make (r : Record) (edit : Edit) : (edit.make r).2.id = r.id := by
  cases edit with
  | addTag key value => rfl
  | set field value =>
    rw [Edit.make]
    split
    case h_1 s hset => cases set_eq_ok_iff.mp hset <;> rfl
    case h_2 => rfl

theorem id_edited (r : Record) (edits : List Edit) : (r.edited edits).id = r.id := by
  induction edits generalizing r with
  | nil => rfl
  | cons edit rest ih => exact (ih _).trans (id_make r edit)

theorem KeysDiffer.edited {r : Record} (h : r.KeysDiffer) {edits : List Edit}
    (hedits : ∀ edit ∈ edits, edit.KeysDiffer) : (r.edited edits).KeysDiffer := by
  induction edits generalizing r with
  | nil => exact h
  | cons edit rest ih =>
    exact ih (h.make (hedits edit List.mem_cons_self)) fun later hlater =>
      hedits later (List.mem_cons_of_mem edit hlater)

/-! ## Main statement -/

/-- **After any edits, accepted or refused, a record is one that its own fields make, under the id
that it had.**  A field that is set next is accepted exactly if its value passes the check, and
then nothing else changes; a field that is refused leaves the record as it is.  A value that is
added to a tag comes at the end of the tag's list unless it is there.  As long as values are only
added, a record with a file stays in the partition of the file. -/
theorem edits_keep (r : Record) (edits : List Edit) :
    let s := r.edited edits
    s.id = r.id
      ∧ ofFields s.toFields = .ok s
      ∧ (r.KeysDiffer → (∀ edit ∈ edits, edit.KeysDiffer) → s.KeysDiffer)
      ∧ (∀ field value,
        (∃ s', FieldSet s value field s' ∧ (Edit.set field value).make s = (.ok (), s'))
          ∨ (∃ fault, (∀ s', ¬FieldSet s value field s')
            ∧ (Edit.set field value).make s = (.error fault, s)))
      ∧ (∀ key value, ∃ s', (Edit.addTag key value).make s = (.ok (), s')
        ∧ AddedTo s s' key value)
      ∧ ∀ file, r.tag? fileIdTag = some file → file ≠ "" → (∀ edit ∈ edits, edit.AddsTag) →
        s.fileId = r.fileId ∧ ∀ codec : Codec, codec.partition s = codec.partition r := by
  intro s
  have hid : s.id = r.id := id_edited r edits
  refine ⟨hid, ofFields_toFields s, fun hkeys hedits => hkeys.edited hedits,
    fun field value => ?_, fun key value => ⟨_, rfl, addTag_spec s key value⟩,
    fun file hfile hne hedits => ?_⟩
  · -- an assignment that is not one of those that set a field is refused
    rw [Edit.make]
    split
    case h_1 s' hset => exact Or.inl ⟨s', set_eq_ok_iff.mp hset, rfl⟩
    case h_2 fault hset =>
      refine Or.inr ⟨fault, fun s' hs' => ?_, rfl⟩
      exact absurd (hset.symm.trans (set_eq_ok_iff.mpr hs')) (by simp)
  · -- the partition is made of the id and of the first tag for files, and tags are only added to
    have hfileId : s.fileId = r.fileId := by
      rw [fileId_eq (tag?_edited hfile hedits) hne, fileId_eq hfile hne]
    refine ⟨hfileId, fun codec => ?_⟩
    simp only [Codec.partition, hid, hfileId]

/-- A second file is added behind the first one, and the record keeps its partition. -/
theorem edits_keep_first_file :
    let r : Record := ⟨"r", [0.5], [("__file_id", [none, some "f"])], []⟩
    let edits : List Edit := [.addTag "__file_id" (some "g"), .addTag "env" none]
    r.KeysDiffer ∧ (∀ edit ∈ edits, edit.KeysDiffer) ∧ r.tag? fileIdTag = some "f"
      ∧ (∀ edit ∈ edits, edit.AddsTag)
      ∧ (r.edited edits).tags = [("__file_id", [none, some "f", some "g"]), ("env", [none])]
      ∧ (r.edited edits).KeysDiffer ∧ (r.edited edits).fileId = "f" := by
  intro r edits
  have hkeys : r.KeysDiffer := ⟨by decide, List.nodup_nil, trivial⟩
  have hfile : r.tag? fileIdTag = some "f" := rfl
  -- both edits add a tag
  have hedits : ∀ edit ∈ edits, edit.KeysDiffer ∧ edit.AddsTag := by
    intro edit hedit
    simp only [edits, List.mem_cons, List.not_mem_nil, or_false] at hedit
    rcases hedit with rfl | rfl
    · exact ⟨trivial, trivial⟩
    · exact ⟨trivial, trivial⟩
  have hdiffer := fun edit hedit => (hedits edit hedit).1
  have hadds := fun edit hedit => (hedits edit hedit).2
  obtain ⟨-, -, hkept, -, -, hgrouped⟩ := edits_keep r edits
  refine ⟨hkeys, hdiffer, hfile, hadds, rfl, hkept hkeys hdiffer, ?_⟩
  exact (hgrouped "f" hfile (by decide) hadds).1

end SheetRecall.Record
