import SheetRecall.Proofs.Decimal.Digits
import SheetRecall.Proofs.Workbook.Coverage

/-!
# Ids of Rows

The id of a row's record is put together of the file, the worksheet and the number of the row, with
a slash between any two of them.  The number holds no slash, so the last slash of an id is the one
in front of it: within a file an id tells the worksheet and the row, whatever the worksheet's name
holds.  If that holds no slash either, an id tells the file as well.

## Main statements
- `nodup_recordId`: the rows of one import have different ids.
- `recordId_ne_of_decode`: so have the rows of two imports.
-/

namespace SheetRecall.Workbook

open SheetRecall.Decimal

/-! ## Slashes -/

/-- A text is cut in one way only at the last place where a character stands. -/
theorem append_cons_inj {c : Char} {before before' after after' : List Char} (hafter : c ∉ after)
    (hafter' : c ∉ after') (h : before ++ c :: after = before' ++ c :: after') :
    before = before' ∧ after = after' := by
  rcases List.append_eq_append_iff.mp h with ⟨more, rfl, hmore⟩ | ⟨more, rfl, hmore⟩
  · cases more with
    | nil => exact ⟨(List.append_nil _).symm, (List.cons.inj hmore).2⟩
    | cons d rest =>
      -- the later cut would leave the character in what comes behind the earlier one
      have hrest := (List.cons.inj hmore).2
      exact absurd (hrest ▸ by simp : c ∈ after) hafter
  · cases more with
    | nil => exact ⟨List.append_nil _, (List.cons.inj hmore).2.symm⟩
    | cons d rest =>
      have hrest := (List.cons.inj hmore).2
      exact absurd (hrest ▸ by simp : c ∈ after') hafter'

theorem slash_notMem_natDigits (n : Nat) : '/' ∉ natDigits n := fun h =>
  absurd (isDigit_of_mem_natDigits h) (by decide)

namespace Chunk

theorem recordId_toList {c : Chunk} {n : Nat} (hn : c.rowNumber = n) (fileId : String) :
    (c.recordId fileId).toList
      = fileId.toList ++ '/' :: c.title.toList ++ '/' :: natDigits n := by
  have hslash : "/".toList = ['/'] := by decide
  rw [recordId, hn, toString_natCast]
  simp only [String.toList_append, String.toList_ofList, hslash]
  simp

/-- **In one file an id tells the worksheet and the row.** -/
theorem recordId_inj {c d : Chunk} {m n : Nat} (hm : c.rowNumber = m) (hn : d.rowNumber = n)
    {fileId : String} (h : c.recordId fileId = d.recordId fileId) :
    c.title = d.title ∧ c.rowNumber = d.rowNumber := by
  have hlist := congrArg String.toList h
  rw [recordId_toList hm, recordId_toList hn] at hlist
  obtain ⟨hfront, hdigits⟩ :=
    append_cons_inj (slash_notMem_natDigits m) (slash_notMem_natDigits n) hlist
  have htitle := (List.cons.inj (List.append_cancel_left hfront)).2
  rw [hm, hn, natDigits_inj.mp hdigits]
  exact ⟨String.toList_inj.mp htitle, rfl⟩

/-- **Ids in different files differ** if no worksheet's name holds a slash. -/
theorem recordId_ne {c d : Chunk} {m n : Nat} (hm : c.rowNumber = m) (hn : d.rowNumber = n)
    (hc : '/' ∉ c.title.toList) (hd : '/' ∉ d.title.toList) {fileId other : String}
    (hfile : fileId ≠ other) : c.recordId fileId ≠ d.recordId other := by
  intro h
  have hlist := congrArg String.toList h
  rw [recordId_toList hm, recordId_toList hn] at hlist
  obtain ⟨hfront, -⟩ :=
    append_cons_inj (slash_notMem_natDigits m) (slash_notMem_natDigits n) hlist
  exact hfile (String.toList_inj.mp (append_cons_inj hc hd hfront).1)

end Chunk

/-! ## The rows of an import -/

/-- The chunks of worksheets with different names stand for different rows. -/
theorem pairwise_of_covers {o : Options} {sheets : List Sheet} {parts : List (List Chunk)}
    (hparts : List.Forall₂ (Covers o) sheets parts) (htitles : (sheets.map (·.title)).Nodup) :
    parts.flatten.Pairwise fun c d => ¬ (c.title = d.title ∧ c.rowNumber = d.rowNumber) := by
  induction hparts with
  | nil => exact .nil
  | @cons sheet part sheets parts hcovers hparts ih =>
    rw [List.map_cons, List.nodup_cons] at htitles
    rw [List.flatten_cons, List.pairwise_append]
    -- two rows are of one worksheet or of two, and then their titles differ
    refine ⟨?_, ih htitles.2, ?_⟩
    · -- the rows of one worksheet ascend
      refine (List.pairwise_map.mp hcovers.ascending).imp fun hlt hsame => ?_
      omega
    · rintro c hc d hd ⟨htitle, -⟩
      obtain ⟨other, hother, later, hlater, hcovered⟩ := exists_covers_of_mem hparts hd
      rw [hcovers.title c hc, hcovered.title d hlater] at htitle
      exact htitles.1 (htitle ▸ List.mem_map_of_mem hother)

section Imports

variable {o : Options} {sheets : List Sheet} {chunks : List Chunk}

/-- **The rows of one import have different ids**, if its worksheets have different names. -/
theorem nodup_recordId (h : decode o (.workbook sheets) = .ok chunks)
    (htitles : (sheets.map (·.title)).Nodup) (fileId : String) :
    (chunks.map (·.recordId fileId)).Nodup := by
  obtain ⟨parts, hflatten, hparts⟩ := exists_parts_of_decode h
  have hread : ((sheets.filter fun sheet => isRead o sheet.title).map (·.title)).Nodup :=
    htitles.sublist (List.filter_sublist.map _)
  have hapart := pairwise_of_covers hparts hread
  rw [← hflatten] at hapart
  rw [List.Nodup, List.pairwise_map]
  refine hapart.imp_of_mem fun {c d} hc hd hne hid => ?_
  obtain ⟨-, m, hm⟩ := place_of_mem_decode h hc
  obtain ⟨-, n, hn⟩ := place_of_mem_decode h hd
  exact hne (Chunk.recordId_inj hm hn hid)

/-- **The rows of two imports have different ids**, if no worksheet's name holds a slash. -/
theorem recordId_ne_of_decode {o' : Options} {sheets' : List Sheet} {chunks' : List Chunk}
    (h : decode o (.workbook sheets) = .ok chunks)
    (h' : decode o' (.workbook sheets') = .ok chunks')
    (hslash : ∀ sheet ∈ sheets ++ sheets', '/' ∉ sheet.title.toList) {fileId other : String}
    (hfile : fileId ≠ other) {c d : Chunk} (hc : c ∈ chunks) (hd : d ∈ chunks') :
    c.recordId fileId ≠ d.recordId other := by
  obtain ⟨hctitle, m, hm⟩ := place_of_mem_decode h hc
  obtain ⟨hdtitle, n, hn⟩ := place_of_mem_decode h' hd
  obtain ⟨sheet, hsheet, hsheetTitle⟩ := List.mem_map.mp hctitle
  obtain ⟨sheet', hsheet', hsheetTitle'⟩ := List.mem_map.mp hdtitle
  refine Chunk.recordId_ne hm hn ?_ ?_ hfile
  · exact hsheetTitle ▸ hslash sheet (List.mem_append_left _ hsheet)
  · exact hsheetTitle' ▸ hslash sheet' (List.mem_append_right _ hsheet')

end Imports

end SheetRecall.Workbook
