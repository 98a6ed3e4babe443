import Mathlib.Data.List.Basic
import SheetRecall.Text.Case

/-!
# Lower Case Is Final

A character that a lower-case form consists of has no lower-case form other than itself, so a text
in lower case stays as it is.

The table has more than a thousand characters, but fewer than two hundred runs: a run's forms are
set apart from another run's characters by their range or by their parity, and that is looked up
for each pair of runs.

## Main statements
- `isLower_of_mem_lowerChars`: the characters of a lower-case form are lower-case.
- `lowerChars_eq_self`: lower-case characters stay as they are.
-/

namespace SheetRecall.Text

/-! ## Runs set apart -/

namespace CaseRun

/-- All characters of the run, and with them all their forms, are even or all are odd. -/
def hasParity (run : CaseRun) : Bool := Nat.beq run.step 2 || Nat.beq run.first run.last

/-- The forms that the first run gives are no characters of the second one.  (The comparisons are
those that the kernel evaluates fastest.) -/
def apart (r s : CaseRun) : Bool :=
  bif Nat.blt s.last r.target then true
  else bif Nat.blt (r.target + (r.last - r.first)) s.first then true
  else r.hasParity && s.hasParity && !(Nat.beq (r.target % 2) (s.first % 2))

/-- What a run gives, and for what. -/
theorem image?_eq_some_iff {run : CaseRun} {code form : Nat} :
    run.image? code = some form
      ↔ run.first ≤ code ∧ code ≤ run.last ∧ (code - run.first) % run.step = 0
        ∧ form = run.target + (code - run.first) := by
  unfold image?
  -- a run has an image for the codes between its ends that lie on its steps
  split
  case isTrue h =>
    simp only [Bool.and_eq_true, decide_eq_true_eq, beq_iff_eq] at h
    rw [Option.some.injEq]
    constructor
    · rintro rfl
      exact ⟨h.1.1, h.1.2, h.2, rfl⟩
    · rintro ⟨-, -, -, rfl⟩
      rfl
  case isFalse h =>
    simp only [Bool.and_eq_true, decide_eq_true_eq, beq_iff_eq] at h
    constructor
    · exact fun hnone => absurd hnone (by simp)
    · exact fun hall => absurd ⟨⟨hall.1, hall.2.1⟩, hall.2.2.1⟩ h

private theorem even_of_hasParity {run : CaseRun} (h : run.hasParity = true) {code form : Nat}
    (himage : run.image? code = some form) : (code - run.first) % 2 = 0 := by
  obtain ⟨hfirst, hlast, hstep, -⟩ := image?_eq_some_iff.mp himage
  rcases (Bool.or_eq_true _ _).mp h with htwo | hone
  · rw [Nat.eq_of_beq_eq_true htwo] at hstep
    exact hstep
  · have heq := Nat.eq_of_beq_eq_true hone
    have hzero : code - run.first = 0 := by omega
    rw [hzero]

/-- A run gives nothing for what a run that is set apart from it gives. -/
theorem image?_eq_none_of_apart {r s : CaseRun} (h : r.apart s = true) {code form : Nat}
    (hform : r.image? code = some form) : s.image? form = none := by
  by_contra hsome
  obtain ⟨again, hagain⟩ := Option.ne_none_iff_exists'.mp hsome
  obtain ⟨hfirst, hlast, -, rfl⟩ := image?_eq_some_iff.mp hform
  obtain ⟨hafter, hbefore, -, -⟩ := image?_eq_some_iff.mp hagain
  -- the second run lies beside the forms of the first, or has the other parity
  unfold apart at h
  cases hbelow : Nat.blt s.last r.target with
  | true =>
    have hlt := Nat.lt_of_succ_le (Nat.le_of_ble_eq_true hbelow)
    omega
  | false =>
    cases habove : Nat.blt (r.target + (r.last - r.first)) s.first with
    | true =>
      have hlt := Nat.lt_of_succ_le (Nat.le_of_ble_eq_true habove)
      omega
    | false =>
      rw [hbelow, habove, cond_false, cond_false, Bool.and_eq_true, Bool.and_eq_true] at h
      have hr := even_of_hasParity h.1.1 hform
      have hs := even_of_hasParity h.1.2 hagain
      have hparity : r.target % 2 ≠ s.first % 2 := by
        intro heq
        rw [heq, Nat.beq_refl] at h
        exact absurd h.2 (by decide)
      omega

/-- The forms that the run gives are code points of characters. -/
def isSound (run : CaseRun) : Bool :=
  Nat.blt (run.target + (run.last - run.first)) 0xd800
    || (Nat.ble 0xe000 run.target && Nat.blt (run.target + (run.last - run.first)) 0x110000)

/-- A form that a sound run gives is the code point of a character. -/
theorem toNat_ofNat_of_isSound {run : CaseRun} (h : run.isSound = true) {code form : Nat}
    (hform : run.image? code = some form) : (Char.ofNat form).toNat = form := by
  obtain ⟨hfirst, hlast, -, rfl⟩ := image?_eq_some_iff.mp hform
  have hvalid : (run.target + (code - run.first)).isValidChar := by
    rcases (Bool.or_eq_true _ _).mp h with hlow | hhigh
    · have hlt := Nat.lt_of_succ_le (Nat.le_of_ble_eq_true hlow)
      exact Or.inl (by omega)
    · obtain ⟨hafter, hbefore⟩ := (Bool.and_eq_true _ _).mp hhigh
      have hle := Nat.le_of_ble_eq_true hafter
      have hlt := Nat.lt_of_succ_le (Nat.le_of_ble_eq_true hbefore)
      exact Or.inr ⟨by omega, by omega⟩
  rw [Char.ofNat, dif_pos hvalid]
  rfl

end CaseRun

/-! ## Lower-case characters -/

/-- The character has no lower-case form but itself. -/
def IsLower (c : Char) : Prop :=
  lowerSpellings.lookup c.toNat = none ∧ lowerRuns.findSome? (·.image? c.toNat) = none

instance : DecidablePred IsLower := fun _ => inferInstanceAs (Decidable (_ ∧ _))

/-- The character with several characters in its lower-case form, as a run of its own. -/
def spelledRun : CaseRun := ⟨0x130, 0x130, 1, 0x130⟩

/-- The forms in the table are set apart from its characters. -/
theorem lowerRuns_apart :
    (lowerRuns.all fun r => r.isSound && r.apart spelledRun && lowerRuns.all r.apart) = true := by
  decide +kernel

private theorem lookup_lowerSpellings_eq_none {code : Nat} (h : code ≠ 0x130) :
    lowerSpellings.lookup code = none := by
  have hbeq : (code == 0x130) = false := beq_eq_false_iff_ne.mpr h
  rw [lowerSpellings, List.lookup_cons, hbeq]
  rfl

/-- The forms that a run of the table gives are lower-case. -/
theorem isLower_of_image? {run : CaseRun} (hrun : run ∈ lowerRuns) {code form : Nat}
    (hform : run.image? code = some form) : IsLower (Char.ofNat form) := by
  -- the table was checked run against run
  have hall := List.all_eq_true.mp lowerRuns_apart run hrun
  simp only [Bool.and_eq_true] at hall
  obtain ⟨⟨hsound, hspelled⟩, hruns⟩ := hall
  rw [IsLower, CaseRun.toNat_ofNat_of_isSound hsound hform]
  constructor
  · apply lookup_lowerSpellings_eq_none
    rintro rfl
    have hnone := CaseRun.image?_eq_none_of_apart hspelled hform
    exact absurd hnone (by decide)
  · rw [List.findSome?_eq_none_iff]
    intro other hother
    exact CaseRun.image?_eq_none_of_apart (List.all_eq_true.mp hruns other hother) hform

/-- Helper: the forms that the table does not give by runs, and those of the capital sigma. -/
private theorem isLower_spelled : IsLower (Char.ofNat 0x69) ∧ IsLower (Char.ofNat 0x307)
    ∧ IsLower 'ς' ∧ IsLower 'σ' := by
  unfold IsLower
  decide +kernel

/-- The characters of a character's lower-case form are lower-case. -/
theorem isLower_of_mem_lowerChar {c d : Char} (hd : d ∈ lowerChar c) : IsLower d := by
  unfold lowerChar mapCase at hd
  split at hd
  case h_1 codes hcodes =>
    -- the one character with several characters in its form
    by_cases hspelled : c.toNat = 0x130
    · rw [hspelled] at hcodes
      obtain rfl : [0x69, 0x307] = codes := Option.some.inj hcodes
      rcases List.mem_cons.mp hd with rfl | hd
      · exact isLower_spelled.1
      · rw [List.mem_singleton.mp hd]
        exact isLower_spelled.2.1
    · rw [lookup_lowerSpellings_eq_none hspelled] at hcodes
      exact absurd hcodes (by simp)
  -- any other character has one form, by a run, or is its own form
  case h_2 hspelled =>
    split at hd
    case h_1 form hform =>
      obtain ⟨run, hrun, himage⟩ := List.exists_of_findSome?_eq_some hform
      rw [List.mem_singleton.mp hd]
      exact isLower_of_image? hrun himage
    case h_2 hnone =>
      rw [List.mem_singleton.mp hd]
      exact ⟨hspelled, hnone⟩

namespace IsLower

/-- A lower-case character is its own lower-case form. -/
theorem lowerChar_eq {c : Char} (h : IsLower c) : lowerChar c = [c] := by
  rw [lowerChar, mapCase, h.1, h.2]

theorem image?_eq_none {c : Char} (h : IsLower c) {run : CaseRun} (hrun : run ∈ lowerRuns) :
    run.image? c.toNat = none :=
  List.findSome?_eq_none_iff.mp h.2 run hrun

theorem ne_sigma {c : Char} (h : IsLower c) : c ≠ 'Σ' := by
  rintro rfl
  have hsome : (lowerRuns.findSome? (·.image? 'Σ'.toNat)).isSome = true := by decide +kernel
  rw [h.2] at hsome
  exact absurd hsome (by decide)

theorem not_capital {c : Char} (h : IsLower c) : ¬ ('A' ≤ c ∧ c ≤ 'Z') := by
  rintro ⟨hfirst, hlast⟩
  -- the first run of the table holds the ASCII capitals
  have hnone : CaseRun.image? ⟨0x41, 0x5a, 1, 0x61⟩ c.toNat = none :=
    h.image?_eq_none List.mem_cons_self
  have hfirst : 0x41 ≤ c.toNat := hfirst
  have hlast : c.toNat ≤ 0x5a := hlast
  have hsome : CaseRun.image? ⟨0x41, 0x5a, 1, 0x61⟩ c.toNat = some (0x61 + (c.toNat - 0x41)) :=
    CaseRun.image?_eq_some_iff.mpr ⟨hfirst, hlast, Nat.mod_one _, rfl⟩
  rw [hnone] at hsome
  exact absurd hsome (by simp)

end IsLower

/-! ## Lower-case texts -/

/-- The characters of a lower-case form are lower-case. -/
theorem isLower_of_mem_lowerAfter {before cs : List Char} {d : Char}
    (hd : d ∈ lowerAfter before cs) : IsLower d := by
  induction cs generalizing before with
  | nil => exact absurd hd (by simp [lowerAfter])
  | cons c rest ih =>
    rw [lowerAfter, List.mem_append] at hd
    rcases hd with hd | hd
    · split at hd
      case isTrue =>
        -- a capital sigma becomes one of the two small ones
        rw [List.mem_singleton.mp hd]
        split
        case isTrue => exact isLower_spelled.2.2.1
        case isFalse => exact isLower_spelled.2.2.2
      case isFalse => exact isLower_of_mem_lowerChar hd
    · exact ih hd

theorem lowerAfter_eq_self {cs : List Char} (h : ∀ c ∈ cs, IsLower c) (before : List Char) :
    lowerAfter before cs = cs := by
  induction cs generalizing before with
  | nil => rfl
  | cons c rest ih =>
    have hc := h c List.mem_cons_self
    rw [lowerAfter, if_neg hc.ne_sigma, hc.lowerChar_eq,
      ih (fun d hd => h d (List.mem_cons_of_mem c hd)), List.singleton_append]

/-- **The characters of a lower-case text are lower-case.** -/
theorem isLower_of_mem_lowerChars {cs : List Char} {d : Char} (hd : d ∈ lowerChars cs) :
    IsLower d := isLower_of_mem_lowerAfter hd

/-- **Lower-case characters stay as they are.** -/
theorem lowerChars_eq_self {cs : List Char} (h : ∀ c ∈ cs, IsLower c) : lowerChars cs = cs :=
  lowerAfter_eq_self h []

end SheetRecall.Text
