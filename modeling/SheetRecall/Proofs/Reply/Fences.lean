import SheetRecall.Proofs.Reply.Prose
import SheetRecall.Reply.Match

/-!
# Fences around JSON

What two fences of three backticks enclose counts for the whole reply, wherever they stand.  JSON
between fences is therefore found alone, whatever is said around it; but JSON that stands bare and
holds two fences itself, in a text that somebody wrote with them, is lost for what they enclose.

What is taken of a reply holds no two fences any more, it is trimmed, and it begins with a bracket
if there is anything to cut to.  So nothing more is taken away from it.

## Layers
- `fenced?_eq_none_iff`, `exists_of_fenced?`: when something is fenced, and where it stands.
- `fenced?_append`: what is found between given fences.
- `trimChars_dropProse`, `dropProse_dropProse`: cutting the prose off happens once.

## Main statements
- `jsonText_bare`: a reply that begins with JSON is taken as it is exactly if no two fences are in
  it.
- `jsonText_fenced`: JSON between fences is found alone, and what is found stays as it is.
-/

namespace SheetRecall.Reply

open SheetRecall.Text

/-! ## Fences in a text -/

theorem fence_ne_nil : fence ≠ [] := by decide

theorem mem_fence_iff {c : Char} : c ∈ fence ↔ c = '\x60' := by simp [fence]

/-- Two fences stand in the text, one behind the other. -/
def HasBlock (cs : List Char) : Prop := ∃ inner, fence ++ inner ++ fence <:+: cs

theorem HasBlock.of_infix {part cs : List Char} (h : HasBlock part) (hpart : part <:+: cs) :
    HasBlock cs := by
  obtain ⟨inner, hinner⟩ := h
  exact ⟨inner, hinner.trans hpart⟩

/-- A fence is a whole one, so none ends where two of its backticks follow other characters. -/
theorem not_infix_of_notMem {cs : List Char} (h : ∀ c ∈ cs, c ∉ fence) :
    ¬ fence <:+: cs ++ fence.dropLast := by
  intro hin
  have hlength := (infix_of_infix_append fence_ne_nil h hin).length_le
  exact absurd hlength (by decide)

/-- What is dropped in front of the enclosed text is the name of a language, without backticks. -/
theorem exists_language (cs : List Char) :
    ∃ language, cs = language ++ dropLanguage cs ∧ ∀ c ∈ language, c ∉ fence := by
  rw [dropLanguage]
  cases hword : dropWord? "json".toList cs with
  | none => exact ⟨[], rfl, by simp⟩
  | some rest =>
    refine ⟨"json".toList, eq_append_of_dropWord? hword, fun c hc hfence => ?_⟩
    rw [mem_fence_iff] at hfence
    exact absurd (hfence ▸ hc) (by decide)

/-- What is fenced stands between two fences, with no fence before them and none between. -/
theorem exists_of_fenced? {cs found : List Char} (h : fenced? cs = some found) :
    ∃ before inner after, cs = before ++ fence ++ inner ++ fence ++ after
      ∧ ¬ fence <:+: before ∧ ¬ fence <:+: inner ∧ found <:+: inner ∧ trimChars found = found := by
  -- the text is cut at a fence, and what is behind it is cut at the next one
  obtain ⟨⟨before, opened⟩, hopen, hrest⟩ := Option.bind_eq_some_iff.mp h
  obtain ⟨⟨enclosed, after⟩, hclose, htrim⟩ := Option.bind_eq_some_iff.mp hrest
  obtain ⟨hcs, hbefore⟩ := (cutAt?_eq_some_iff fence_ne_nil).mp hopen
  obtain ⟨hopened, henclosed⟩ := (cutAt?_eq_some_iff fence_ne_nil).mp hclose
  obtain ⟨language, hlanguage, hfree⟩ := exists_language opened
  obtain rfl := Option.some.inj htrim
  refine ⟨before, language ++ enclosed, after, ?_, fun hin => ?_, fun hin => ?_, ?_, ?_⟩
  · rw [hcs, hlanguage, hopened]
    simp
  · exact hbefore (hin.trans (List.prefix_append _ _).isInfix)
  · -- the name of the language holds no back quote, so no fence reaches into it
    have hin' := infix_of_infix_append fence_ne_nil hfree hin
    exact henclosed (hin'.trans (List.prefix_append _ _).isInfix)
  · exact (infix_trimBy _).trans (List.suffix_append _ _).isInfix
  · exact trimBy_trimBy enclosed

/-- **Something is fenced exactly if two fences stand in the text.** -/
theorem fenced?_eq_none_iff {cs : List Char} : fenced? cs = none ↔ ¬ HasBlock cs := by
  constructor
  · rintro hnone ⟨inner, front, back, hcs⟩
    have hplace : cs = front ++ fence ++ (inner ++ fence ++ back) := by
      rw [← hcs]
      simp
    -- one of the fences opens, and the other one stands behind it
    have hfence : fence <:+: cs := ⟨front, _, hplace.symm⟩
    obtain ⟨⟨before, opened⟩, hopen⟩ :=
      Option.ne_none_iff_exists'.mp (mt cutAt?_eq_none_iff.mp (not_not_intro hfence))
    have hsecond : fence <:+: inner ++ fence ++ back := ⟨inner, back, rfl⟩
    have hbehind := hsecond.trans (suffix_of_cutAt? fence_ne_nil hopen hplace).isInfix
    -- nor can the fence behind be lost with the name of the language
    obtain ⟨language, hlanguage, hfree⟩ := exists_language opened
    rw [hlanguage] at hbehind
    have hclosing := infix_of_infix_append fence_ne_nil hfree hbehind
    obtain ⟨⟨enclosed, after⟩, hclose⟩ :=
      Option.ne_none_iff_exists'.mp (mt cutAt?_eq_none_iff.mp (not_not_intro hclosing))
    rw [fenced?, hopen, Option.bind_eq_bind, Option.bind_some] at hnone
    dsimp only at hnone
    rw [hclose] at hnone
    cases hnone
  · intro hnot
    rw [Option.eq_none_iff_forall_ne_some]
    intro found hfound
    obtain ⟨before, inner, after, rfl, -⟩ := exists_of_fenced? hfound
    exact hnot ⟨inner, before, after, by simp⟩

instance : DecidablePred HasBlock := fun cs =>
  decidable_of_iff (fenced? cs ≠ none) (by rw [ne_eq, fenced?_eq_none_iff, not_not])

/-- What is found between two fences, if no other fence opens or closes before. -/
theorem fenced?_append {pre opened enclosed : List Char} (hpre : ∀ c ∈ pre, c ∉ fence)
    (hclosed : ¬ fence <:+: enclosed ++ fence.dropLast) (post : List Char)
    (hopened : dropLanguage opened = enclosed ++ fence ++ post) :
    fenced? (pre ++ fence ++ opened) = some (trimChars enclosed) := by
  rw [fenced?, cutAt?_append (not_infix_of_notMem hpre), Option.bind_eq_bind, Option.bind_some]
  dsimp only
  rw [hopened, cutAt?_append hclosed]
  rfl

/-! ## Cutting the prose off -/

theorem ne_of_opensJson {c d : Char} (hc : opensJson c = true) (hd : closesJson d = true) :
    c ≠ d := by
  simp only [opensJson, closesJson, Bool.or_eq_true, decide_eq_true_eq] at hc hd
  rcases hc with rfl | rfl <;> rcases hd with rfl | rfl <;> decide

/-- A span of brackets, if there is any, begins with the first bracket that opens and ends with the
last one that closes. -/
theorem bracketed_bracketSpan {cs : List Char} (hne : bracketSpan cs ≠ []) :
    Bracketed (bracketSpan cs) := by
  have hprefix : bracketSpan cs <+: cs.dropWhile fun c => !opensJson c := List.rdropWhile_prefix _ _
  have hlast : closesJson ((bracketSpan cs).getLast hne) = true := by
    have hnot : ¬ (!closesJson ((bracketSpan cs).getLast hne)) = true :=
      List.rdropWhile_last_not _ _ hne
    simpa using hnot
  obtain ⟨first, more, hspan⟩ := List.exists_cons_of_ne_nil hne
  have hfirst : opensJson first = true := by
    -- what comes before the first bracket is dropped
    obtain ⟨rest, hrest⟩ := hprefix
    have hhead := List.head?_dropWhile_not (fun c => !opensJson c) cs
    rw [← hrest, hspan] at hhead
    simpa using hhead
  -- the bracket that closes is another one, so it stands behind
  have hmore : more ≠ [] := by
    rintro rfl
    simp only [hspan, List.getLast_singleton] at hlast
    exact ne_of_opensJson hfirst hlast rfl
  refine ⟨first, more.dropLast, more.getLast hmore, ?_, hfirst, ?_⟩
  · rw [hspan, List.dropLast_append_getLast]
  · simpa only [hspan, List.getLast_cons hmore] using hlast

theorem infix_dropProse (cs : List Char) : dropProse cs <:+: cs := by
  have hspan : bracketSpan cs <:+: cs :=
    (List.rdropWhile_prefix _ _).isInfix.trans (List.dropWhile_suffix _).isInfix
  rw [dropProse]
  split
  case isTrue => exact List.infix_refl cs
  case isFalse =>
    dsimp only
    split
    case isTrue => exact List.infix_refl cs
    case isFalse => exact hspan

/-- A text is cut to its brackets, or left as it is. -/
theorem dropProse_cases (cs : List Char) : dropProse cs = cs ∨ Bracketed (dropProse cs) := by
  rw [dropProse]
  split
  case isTrue => exact .inl rfl
  case isFalse =>
    dsimp only
    split
    case isTrue => exact .inl rfl
    case isFalse hsome => exact .inr (bracketed_bracketSpan (mt List.isEmpty_iff.mpr hsome))

/-- What is cut to its brackets is cut to them already. -/
theorem dropProse_dropProse (cs : List Char) : dropProse (dropProse cs) = dropProse cs := by
  rcases dropProse_cases cs with hsame | hbracketed
  · rw [hsame, hsame]
  · have hbefore := dropProse_before hbracketed []
    rwa [List.append_nil] at hbefore

/-- A trimmed text is trimmed after it is cut to its brackets, too. -/
theorem trimChars_dropProse {cs : List Char} (h : trimChars cs = cs) :
    trimChars (dropProse cs) = dropProse cs := by
  rcases dropProse_cases cs with hsame | hbracketed
  · rw [hsame, h]
  · have haround := trimChars_around hbracketed [] []
    simpa using haround

/-! ## Replies -/

/-- What counts of a reply: what is fenced in it, or all of it. -/
def counted (cs : List Char) : List Char := (fenced? (trimChars cs)).getD (trimChars cs)

theorem jsonChars_eq (cs : List Char) : jsonChars cs = dropProse (counted cs) := rfl

theorem counted_of_not_hasBlock {cs : List Char} (h : ¬ HasBlock (trimChars cs)) :
    counted cs = trimChars cs := by
  rw [counted, fenced?_eq_none_iff.mpr h, Option.getD_none]

/-- If something is fenced, that is what counts. -/
theorem counted_of_hasBlock {cs : List Char} (h : HasBlock (trimChars cs)) :
    fenced? (trimChars cs) = some (counted cs) := by
  have hsome : fenced? (trimChars cs) ≠ none := mt fenced?_eq_none_iff.mp (not_not_intro h)
  obtain ⟨found, hfound⟩ := Option.ne_none_iff_exists'.mp hsome
  rw [counted, hfound, Option.getD_some]

theorem infix_counted (cs : List Char) : counted cs <:+: cs := by
  by_cases hblock : HasBlock (trimChars cs)
  · obtain ⟨before, inner, after, hcs, -, -, hin, -⟩ :=
      exists_of_fenced? (counted_of_hasBlock hblock)
    have hinner : inner <:+: trimChars cs := ⟨before ++ fence, fence ++ after, by simp [hcs]⟩
    exact (hin.trans hinner).trans (infix_trimBy cs)
  · rw [counted_of_not_hasBlock hblock]
    exact infix_trimBy cs

/-- What counts is trimmed, and nothing in it is fenced. -/
theorem trimChars_counted (cs : List Char) : trimChars (counted cs) = counted cs := by
  by_cases hblock : HasBlock (trimChars cs)
  · obtain ⟨before, inner, after, -, -, -, -, htrim⟩ :=
      exists_of_fenced? (counted_of_hasBlock hblock)
    exact htrim
  · rw [counted_of_not_hasBlock hblock]
    exact trimBy_trimBy cs

theorem not_hasBlock_counted (cs : List Char) : ¬ HasBlock (counted cs) := by
  by_cases hblock : HasBlock (trimChars cs)
  · -- between the first two fences there is none
    obtain ⟨before, inner, after, -, -, hinner, hin, -⟩ :=
      exists_of_fenced? (counted_of_hasBlock hblock)
    rintro ⟨between, hbetween⟩
    refine hinner (List.IsInfix.trans ?_ (hbetween.trans hin))
    exact ⟨[], between ++ fence, by simp⟩
  · rw [counted_of_not_hasBlock hblock]
    exact hblock

theorem infix_jsonChars (cs : List Char) : jsonChars cs <:+: cs :=
  (infix_dropProse _).trans (infix_counted cs)

/-- What is taken of a reply is taken of it again. -/
theorem jsonChars_jsonChars (cs : List Char) : jsonChars (jsonChars cs) = jsonChars cs := by
  have htrim : trimChars (jsonChars cs) = jsonChars cs := trimChars_dropProse (trimChars_counted cs)
  have hnot : ¬ HasBlock (jsonChars cs) := fun h =>
    not_hasBlock_counted cs (h.of_infix (infix_dropProse _))
  rw [jsonChars_eq (jsonChars cs), counted_of_not_hasBlock (htrim.symm ▸ hnot), htrim, jsonChars_eq,
    dropProse_dropProse]

/-! ## JSON between fences -/

theorem Blank.notMem_fence {cs : List Char} (h : Blank cs) : ∀ c ∈ cs, c ∉ fence := by
  intro c hc hfence
  rw [mem_fence_iff] at hfence
  exact absurd (hfence ▸ h c hc) (by decide)

/-- In front of the fence that closes, JSON and the blanks around it hold no fence. -/
theorem not_infix_around {json w₁ w₂ : List Char} (hjson : Bracketed json)
    (hfree : ¬ fence <:+: json) (hw₁ : Blank w₁) (hw₂ : Blank w₂) :
    ¬ fence <:+: w₁ ++ json ++ w₂ ++ fence.dropLast := by
  intro hin
  obtain ⟨first, inner, last, rfl, -, hlast⟩ := hjson
  have hlastFree : last ∉ fence := by
    simp only [closesJson, Bool.or_eq_true, decide_eq_true_eq] at hlast
    rcases hlast with rfl | rfl <;> decide
  have hplace : w₁ ++ first :: (inner ++ [last]) ++ w₂ ++ fence.dropLast
      = w₁ ++ (first :: inner ++ last :: (w₂ ++ fence.dropLast)) := by simp
  rw [hplace] at hin
  -- it stands neither over the last bracket nor over a blank
  rcases infix_of_infix_append_cons hlastFree
    (infix_of_infix_append fence_ne_nil hw₁.notMem_fence hin) with hjson | hblanks
  · refine hfree (hjson.trans ?_)
    exact ⟨[], [last], by simp⟩
  · exact not_infix_of_notMem hw₂.notMem_fence hblanks

/-- JSON between fences is all that is taken of a reply. -/
theorem jsonChars_fenced {pre language w₁ json w₂ : List Char} (hpre : ∀ c ∈ pre, c ∉ fence)
    (hlanguage : ∀ rest, dropLanguage (language ++ (w₁ ++ json ++ rest)) = w₁ ++ json ++ rest)
    (hw₁ : Blank w₁) (hjson : Bracketed json) (hfree : ¬ fence <:+: json) (hw₂ : Blank w₂)
    (post : List Char) :
    jsonChars (pre ++ fence ++ (language ++ (w₁ ++ json ++ (w₂ ++ fence ++ post)))) = json := by
  -- the blanks around the reply go, and its fences stay
  have htrim : trimChars (pre ++ fence ++ (language ++ (w₁ ++ json ++ (w₂ ++ fence ++ post))))
      = pre.dropWhile isBlank ++ fence
        ++ (language ++ (w₁ ++ json ++ (w₂ ++ fence ++ post.rdropWhile isBlank))) := by
    have htick : isBlank '\x60' = false := by decide
    have haround := trimBy_around htick htick pre
      ('\x60' :: '\x60' :: language ++ w₁ ++ json ++ w₂ ++ ['\x60', '\x60']) post
    simpa [trimChars, fence] using haround
  have hfenced : fenced? (trimChars
      (pre ++ fence ++ (language ++ (w₁ ++ json ++ (w₂ ++ fence ++ post)))))
        = some (trimChars (w₁ ++ json ++ w₂)) := by
    rw [htrim]
    refine fenced?_append (fun c hc => hpre c ((List.dropWhile_suffix _).subset hc))
      (not_infix_around hjson hfree hw₁ hw₂) (post.rdropWhile isBlank) ?_
    rw [hlanguage]
    simp
  -- between the fences only the blanks around the JSON are left to be cut
  have hinside : trimChars (w₁ ++ json ++ w₂) = json := by
    rw [trimChars_around hjson, List.dropWhile_eq_nil_iff.mpr hw₁,
      List.rdropWhile_eq_nil_iff.mpr hw₂, List.nil_append, List.append_nil]
  have hbefore := dropProse_before hjson []
  rw [List.append_nil] at hbefore
  rw [jsonChars, hfenced, Option.getD_some, hinside, hbefore]

/-- JSON behind blanks is not taken for the name of a language. -/
theorem dropLanguage_blank {w₁ json : List Char} (hw₁ : Blank w₁) (hjson : Bracketed json)
    (rest : List Char) : dropLanguage (w₁ ++ json ++ rest) = w₁ ++ json ++ rest := by
  -- only a small `j` can open the name, and neither a blank nor a bracket is one
  have hhead : ∀ c more, c ≠ 'j' → dropLanguage (c :: more) = c :: more := by
    intro c more hc
    have hnone : dropWord? "json".toList (c :: more) = none := by
      rw [dropWord?_eq_none_iff]
      exact fun h => hc (List.cons_prefix_cons.mp h).1.symm
    rw [dropLanguage, hnone, Option.getD_none]
  cases w₁ with
  | nil =>
    obtain ⟨first, inner, last, rfl, hfirst, -⟩ := hjson
    refine hhead first _ ?_
    rintro rfl
    exact absurd hfirst (by decide)
  | cons b w₁ =>
    refine hhead b _ ?_
    rintro rfl
    exact absurd (hw₁ 'j' List.mem_cons_self) (by decide)

/-! ## Main statements -/

/-- **Bare JSON.**  Let a reply begin, after blanks, with a bracket that opens an array or an
object.  It is taken as it is, trimmed, exactly if no two fences are in it.  If two are, what is
taken stands between them, however the brackets around them stand. -/
theorem jsonText_bare {reply : String} (hbare : (trim reply).toList.head?.any opensJson = true) :
    (jsonText (some reply) = trim reply ↔ ¬ HasBlock (trim reply).toList)
      ∧ (HasBlock (trim reply).toList → ∃ before inner after,
        (trim reply).toList = before ++ fence ++ inner ++ fence ++ after
          ∧ ¬ fence <:+: before ∧ ¬ fence <:+: inner
          ∧ (jsonText (some reply)).toList <:+: inner) := by
  have htrim : (trim reply).toList = trimChars reply.toList := String.toList_ofList
  have htext : (jsonText (some reply)).toList = jsonChars reply.toList := String.toList_ofList
  rw [← String.toList_inj, htext]
  rw [htrim] at hbare ⊢
  -- with a block, what is taken comes from inside of it
  have hinside : HasBlock (trimChars reply.toList) → ∃ before inner after,
      trimChars reply.toList = before ++ fence ++ inner ++ fence ++ after
        ∧ ¬ fence <:+: before ∧ ¬ fence <:+: inner ∧ jsonChars reply.toList <:+: inner := by
    intro hblock
    obtain ⟨before, inner, after, hcs, hbefore, hinner, hin, -⟩ :=
      exists_of_fenced? (counted_of_hasBlock hblock)
    exact ⟨before, inner, after, hcs, hbefore, hinner, (infix_dropProse _).trans hin⟩
  refine ⟨⟨fun hsame hblock => ?_, fun hnot => ?_⟩, hinside⟩
  · -- what is taken from between the fences is shorter than the reply
    obtain ⟨before, inner, after, hcs, -, -, hin⟩ := hinside hblock
    have hlength := hin.length_le
    have hfence : 0 < fence.length := by decide
    rw [hsame, hcs] at hlength
    simp only [List.length_append] at hlength
    omega
  · rw [jsonChars_eq, counted_of_not_hasBlock hnot, dropProse, if_pos hbare]

/-- A bare reply with one fence in a text is taken as it is. -/
theorem jsonText_bare_lone_fence :
    let reply := " [\"``` opens a block\"]\n"
    (jsonText (some reply) = trim reply ↔ ¬ HasBlock (trim reply).toList)
      ∧ (HasBlock (trim reply).toList → ∃ before inner after,
        (trim reply).toList = before ++ fence ++ inner ++ fence ++ after
          ∧ ¬ fence <:+: before ∧ ¬ fence <:+: inner
          ∧ (jsonText (some reply)).toList <:+: inner) :=
  jsonText_bare (by decide)

/-- A model finds the field `status` and quotes it between fences in its reasons.  The quoted word
is taken for the whole reply, which is no match of a field any more. -/
theorem quoted_word_taken_for_reply :
    let reply := "\x7b\"fieldName\": \"status\", \"reasoning\": \"named ```status``` there\"\x7d"
    trim reply = reply ∧ reply.toList.head?.any opensJson = true
      ∧ (readMatch FieldMatch.ofValue reply).toOption.map (·.name) = some "status"
      ∧ jsonText (some reply) ≠ trim reply ∧ jsonText (some reply) = "status"
      ∧ (readMatch FieldMatch.ofValue (jsonText (some reply))).toOption.map (·.name) = none := by
  refine ⟨by decide, by decide, by decide +kernel, by decide +kernel, by decide +kernel,
    by decide +kernel⟩

/-- **JSON between fences**, with or without the name of the language and with blanks around it, is
all that is taken of a reply, if no backtick stands before it and no fence in it: whatever is said
after it.  Of any reply a part is taken, and of that part the whole is taken again. -/
theorem jsonText_fenced :
    (∀ pre w₁ json w₂ post : String, '\x60' ∉ pre.toList → Blank w₁.toList →
      Bracketed json.toList → ¬ fence <:+: json.toList → Blank w₂.toList →
      jsonText (some (pre ++ "```" ++ w₁ ++ json ++ w₂ ++ "```" ++ post)) = json
        ∧ jsonText (some (pre ++ "```json" ++ w₁ ++ json ++ w₂ ++ "```" ++ post)) = json)
      ∧ ∀ reply : Option String, (jsonText reply).toList <:+: (reply.getD "").toList
        ∧ jsonText (some (jsonText reply)) = jsonText reply := by
  refine ⟨fun pre w₁ json w₂ post hpre hw₁ hjson hfree hw₂ => ?_, fun reply => ⟨?_, ?_⟩⟩
  · -- text without a back quote holds no part of a fence
    have hticks : ∀ c ∈ pre.toList, c ∉ fence := by
      intro c hc hfence
      exact hpre (mem_fence_iff.mp hfence ▸ hc)
    have hunnamed : ∀ rest, dropLanguage ([] ++ (w₁.toList ++ json.toList ++ rest))
        = w₁.toList ++ json.toList ++ rest := dropLanguage_blank hw₁ hjson
    have hname : ∀ rest, dropLanguage ("json".toList ++ (w₁.toList ++ json.toList ++ rest))
        = w₁.toList ++ json.toList ++ rest := fun rest => by
      rw [dropLanguage, dropWord?_append, Option.getD_some]
    have hplain := jsonChars_fenced hticks hunnamed hw₁ hjson hfree hw₂ post.toList
    have hnamed := jsonChars_fenced hticks hname hw₁ hjson hfree hw₂ post.toList
    have hmark : "```".toList = fence := rfl
    have hjsonMark : "```json".toList = fence ++ "json".toList := rfl
    simp only [jsonText, Option.getD_some, String.toList_append, hmark, hjsonMark]
    refine ⟨?_, ?_⟩
    · rw [← String.toList_inj, String.toList_ofList]
      simpa using hplain
    · rw [← String.toList_inj, String.toList_ofList]
      simpa using hnamed
  · rw [jsonText, String.toList_ofList]
    exact infix_jsonChars _
  · rw [jsonText, Option.getD_some, jsonText, String.toList_ofList, jsonChars_jsonChars]

/-- An answer in a block of Markdown, with another block behind it. -/
theorem jsonText_fenced_answer :
    let json := "[\x7b\"fieldNameHint\": \"status\"\x7d]"
    Blank "\n".toList ∧ Bracketed json.toList ∧ ¬ fence <:+: json.toList
      ∧ jsonText (some ("Here: " ++ "```json" ++ "\n" ++ json ++ "\n" ++ "```"
        ++ " or ```[]```")) = json := by
  have hblank : Blank "\n".toList := by decide
  have hjson : Bracketed "[\x7b\"fieldNameHint\": \"status\"\x7d]".toList :=
    ⟨'[', "\x7b\"fieldNameHint\": \"status\"\x7d".toList, ']', by decide, by decide, by decide⟩
  have hfree : ¬ fence <:+: "[\x7b\"fieldNameHint\": \"status\"\x7d]".toList := by decide
  exact ⟨hblank, hjson, hfree,
    (jsonText_fenced.1 "Here: " "\n" _ "\n" " or ```[]```" (by decide) hblank hjson hfree
      hblank).2⟩

end SheetRecall.Reply
