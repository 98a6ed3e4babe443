import SheetRecall.Json.Reader
import SheetRecall.Proofs.Text.Lines
import SheetRecall.Reply.JsonText

/-!
# Prose around JSON

A model that is asked for JSON may say something before it and after it.  What it says before takes
both away: the reply is cut to its brackets.  What it says after only the JSON stays, because a
reply that begins with a bracket is taken as it is.

## Layers
- `trimChars_around`: blanks go at the ends of the prose, and the JSON between is untouched.
- `fenced?_eq_none`: without three backticks in the reply nothing is fenced.
- `dropProse_around`, `dropProse_before`: what is cut off, with prose in front and without.

## Main statement
`jsonText_in_prose`: the JSON is found alone exactly if something is said before it, or nothing
after it.
-/

namespace SheetRecall.Reply

open SheetRecall.Text

/-! ## Brackets and prose -/

/-- The text begins with an opening bracket and ends with a closing one, as JSON arrays and objects
do. -/
def Bracketed (cs : List Char) : Prop :=
  ∃ first inner last, cs = first :: (inner ++ [last])
    ∧ opensJson first = true ∧ closesJson last = true

/-- There is no bracket in the text. -/
def Bracketless (cs : List Char) : Prop :=
  ∀ c ∈ cs, opensJson c = false ∧ closesJson c = false

instance : DecidablePred Bracketless := fun cs =>
  List.decidableBAll (fun c => opensJson c = false ∧ closesJson c = false) cs

/-- There are blanks in the text only, or nothing. -/
def Blank (cs : List Char) : Prop := ∀ c ∈ cs, isBlank c = true

instance : DecidablePred Blank := List.decidableBAll fun c => isBlank c = true

theorem isBlank_of_opensJson {c : Char} (h : opensJson c = true) : isBlank c = false := by
  simp only [opensJson, Bool.or_eq_true, decide_eq_true_eq] at h
  rcases h with rfl | rfl <;> decide

theorem isBlank_of_closesJson {c : Char} (h : closesJson c = true) : isBlank c = false := by
  simp only [closesJson, Bool.or_eq_true, decide_eq_true_eq] at h
  rcases h with rfl | rfl <;> decide

variable {pre json post : List Char}

/-! ## Trimming and fences -/

/-- Nothing is trimmed inside brackets. -/
theorem trimChars_around (hjson : Bracketed json) (pre post : List Char) :
    trimChars (pre ++ json ++ post)
      = pre.dropWhile isBlank ++ json ++ post.rdropWhile isBlank := by
  obtain ⟨first, inner, last, rfl, hfirst, hlast⟩ := hjson
  have haround := trimBy_around (isBlank_of_opensJson hfirst) (isBlank_of_closesJson hlast) pre
    inner post
  rw [trimChars]
  simpa using haround

/-- Without a fence in a text nothing in it is fenced. -/
theorem fenced?_eq_none {cs : List Char} (h : ¬ fence <:+: cs) : fenced? cs = none := by
  rw [fenced?, cutAt?_eq_none_iff.mpr h]
  rfl

/-! ## Cutting the prose off -/

/-- The span of brackets in a text is what stands between prose without brackets. -/
theorem bracketSpan_around (hjson : Bracketed json) (hpre : Bracketless pre)
    (hpost : Bracketless post) : bracketSpan (pre ++ json ++ post) = json := by
  obtain ⟨first, inner, last, rfl, hfirst, hlast⟩ := hjson
  -- the prose has no bracket, so each of the two cuts stops at the JSON
  have hskip : ∀ c ∈ pre, (!opensJson c) = true := fun c hc => by rw [(hpre c hc).1]; rfl
  have htrail : ∀ c ∈ post, (!closesJson c) = true := fun c hc => by rw [(hpost c hc).2]; rfl
  have hopen : (!opensJson first) = false := by rw [hfirst]; rfl
  have hclose : (!closesJson last) = false := by rw [hlast]; rfl
  have hfront : (pre ++ first :: (inner ++ last :: post)).dropWhile (fun c => !opensJson c)
      = pre.dropWhile (fun c => !opensJson c) ++ first :: (inner ++ last :: post) :=
    dropWhile_append_cons hopen _ _
  have hback : (first :: inner ++ last :: post).rdropWhile (fun c => !closesJson c)
      = first :: inner ++ last :: post.rdropWhile (fun c => !closesJson c) :=
    rdropWhile_append_cons hclose _ _
  rw [List.dropWhile_eq_nil_iff.mpr hskip, List.nil_append] at hfront
  rw [List.rdropWhile_eq_nil_iff.mpr htrail] at hback
  have hreply : pre ++ first :: (inner ++ [last]) ++ post
      = pre ++ first :: (inner ++ last :: post) := by simp
  rw [bracketSpan, hreply, hfront]
  exact hback

/-- With prose in front, a text is cut to its brackets. -/
theorem dropProse_around (hjson : Bracketed json) (hpre : Bracketless pre) (hne : pre ≠ [])
    (hpost : Bracketless post) : dropProse (pre ++ json ++ post) = json := by
  obtain ⟨c, rest, rfl⟩ := List.exists_cons_of_ne_nil hne
  have hhead : ((c :: rest ++ json ++ post).head?.any opensJson) = false :=
    (hpre c List.mem_cons_self).1
  have hfilled : json.isEmpty = false := by
    obtain ⟨first, inner, last, rfl, -, -⟩ := hjson
    rfl
  rw [dropProse, hhead, bracketSpan_around hjson hpre hpost]
  simp [hfilled]

/-- A text that begins with a bracket is left as it is. -/
theorem dropProse_before (hjson : Bracketed json) (post : List Char) :
    dropProse (json ++ post) = json ++ post := by
  obtain ⟨first, inner, last, rfl, hfirst, -⟩ := hjson
  exact if_pos hfirst

/-! ## Replies -/

/-- What is taken of a reply without a fence: the JSON, and what is said after it if nothing is said
before it. -/
theorem jsonChars_in_prose (hjson : Bracketed json) (hpre : Bracketless pre)
    (hpost : Bracketless post) (hfence : ¬ fence <:+: pre ++ json ++ post) :
    jsonChars (pre ++ json ++ post)
      = if Blank pre then json ++ post.rdropWhile isBlank else json := by
  have hunfenced : fenced? (trimChars (pre ++ json ++ post)) = none :=
    fenced?_eq_none fun h => hfence <| h.trans <| infix_trimBy _
  rw [jsonChars, hunfenced, Option.getD_none, trimChars_around hjson]
  split
  case isTrue hblank =>
    rw [List.dropWhile_eq_nil_iff.mpr hblank, List.nil_append]
    exact dropProse_before hjson _
  case isFalse hsaid =>
    -- what is left of the prose is a part of it, so there is no bracket in it
    refine dropProse_around hjson (fun c hc => hpre c ?_)
      (fun hnil => hsaid (List.dropWhile_eq_nil_iff.mp hnil)) (fun c hc => hpost c ?_)
    · exact (List.dropWhile_suffix _).subset hc
    · exact (List.rdropWhile_prefix _ _).subset hc

/-- **JSON in prose.**  Let a reply hold JSON between texts without brackets, and no fence.  If
something is said before the JSON, exactly the JSON is taken.  If nothing is, what is said after it
is taken too, up to the blanks at its end.  So the JSON is found alone exactly if something is said
before it, or nothing after it. -/
theorem jsonText_in_prose {pre json post : String} (hjson : Bracketed json.toList)
    (hpre : Bracketless pre.toList) (hpost : Bracketless post.toList)
    (hfence : ¬ fence <:+: (pre ++ json ++ post).toList) :
    let found := jsonText (some (pre ++ json ++ post))
    (¬ Blank pre.toList → found = json)
      ∧ (Blank pre.toList → found = json ++ String.ofList (post.toList.rdropWhile isBlank))
      ∧ (found = json ↔ (Blank pre.toList → Blank post.toList)) := by
  intro found
  -- blank text in front leaves the JSON first, and then the text behind it is kept
  have hfound : found = String.ofList (if Blank pre.toList
      then json.toList ++ post.toList.rdropWhile isBlank else json.toList) := by
    simp only [String.toList_append] at hfence
    rw [← jsonChars_in_prose hjson hpre hpost hfence]
    simp only [found, jsonText, Option.getD_some, String.toList_append]
  have hafter : Blank pre.toList →
      found = json ++ String.ofList (post.toList.rdropWhile isBlank) := by
    intro hblank
    rw [hfound, if_pos hblank, String.ofList_append, String.ofList_toList]
  have halone : ¬ Blank pre.toList → found = json := by
    intro hsaid
    rw [hfound, if_neg hsaid, String.ofList_toList]
  refine ⟨halone, hafter, ?_⟩
  by_cases hblank : Blank pre.toList
  · rw [hafter hblank, ← String.toList_inj]
    rw [String.toList_append, String.toList_ofList, List.append_right_eq_self,
      List.rdropWhile_eq_nil_iff]
    exact ⟨fun h _ => h, fun h => h hblank⟩
  · simp [halone hblank, hblank]

/-- A reply with prose on both sides. -/
theorem jsonText_in_prose_answer :
    let found := jsonText (some ("Here it is: " ++ "[1, 2]" ++ " Bye."))
    (¬ Blank "Here it is: ".toList → found = "[1, 2]")
      ∧ (Blank "Here it is: ".toList →
        found = "[1, 2]" ++ String.ofList (" Bye.".toList.rdropWhile isBlank))
      ∧ (found = "[1, 2]" ↔ (Blank "Here it is: ".toList → Blank " Bye.".toList)) :=
  jsonText_in_prose ⟨'[', ['1', ',', ' ', '2'], ']', by decide, rfl, rfl⟩ (by decide) (by decide)
    (cutAt?_eq_none_iff.mp (by decide))

/-- A reply that begins with its JSON keeps what is said after it, and is no JSON any more. -/
theorem prose_after_json_kept :
    let json := "\x7b\"a\": 1\x7d"
    let post := " Hope this helps."
    Bracketed json.toList ∧ Bracketless "".toList ∧ Bracketless post.toList
      ∧ ¬ fence <:+: ("" ++ json ++ post).toList
      ∧ (Json.read .lenient json).isOk = true
      ∧ jsonText (some ("" ++ json ++ post)) ≠ json
      ∧ (Json.read .lenient (jsonText (some ("" ++ json ++ post)))).isOk = false := by
  refine ⟨⟨'\x7b', ['"', 'a', '"', ':', ' ', '1'], '\x7d', by decide, rfl, rfl⟩, by decide,
    by decide, cutAt?_eq_none_iff.mp (by decide), by decide +kernel, by decide +kernel,
    by decide +kernel⟩

end SheetRecall.Reply
