import Mathlib.Data.List.Induction
import Mathlib.Data.List.Nodup
import Mathlib.Data.List.Perm.Subperm
import SheetRecall.Entries

/-!
# Entries and Lookup

What changes of entries do to the values under the names, and to the names.

## Main statements
- `get?_alter`, `get?_put`: a change is seen under its own name only.
- `get?_ofPairs`: of several pairs with one name the last one counts.
- `nodup_names_ofPairs`: entries that are built by changes repeat no name.
- `ofPairs_eq_self`: pairs that repeat no name are the entries that they build.
- `get?_restrict`, `get?_without`: what is left under a name when names are kept or dropped.
- `foldl_alter_eq_map`: entries that gather the values of pairs, name by name.
-/

namespace SheetRecall.Entries

variable {α : Type}

/-! ## Values under names -/

@[simp]
theorem get?_nil (name : String) : get? ([] : Entries α) name = none := rfl

theorem get?_cons (n : String) (a : α) (rest : Entries α) (name : String) :
    get? ((n, a) :: rest) name = if n = name then some a else get? rest name := by
  rw [get?, List.lookup_cons]
  split
  case h_1 hname => rw [if_pos (beq_iff_eq.mp hname).symm]
  case h_2 hname => rw [if_neg (fun h => by simp [h] at hname), get?]

/-- A change is seen under its own name only. -/
theorem get?_alter (entries : Entries α) (name other : String) (change : Option α → α) :
    (entries.alter name change).get? other
      = if name = other then some (change (entries.get? name)) else entries.get? other := by
  induction entries with
  | nil => rw [alter, get?_cons]; rfl
  -- the change reaches the first entry of its name, and no entry behind it
  | cons entry rest ih =>
    obtain ⟨n, a⟩ := entry
    rw [alter]
    split
    case isTrue hname =>
      subst hname
      simp only [get?_cons, if_true]
      split <;> rfl
    case isFalse hname =>
      simp only [get?_cons, ih, if_neg hname]
      -- the first entry and the change stand under different names
      by_cases hother : name = other
      · rw [if_pos hother, if_pos hother, if_neg (hother ▸ hname)]
      · rw [if_neg hother, if_neg hother]

theorem get?_put (entries : Entries α) (name other : String) (a : α) :
    (entries.put name a).get? other = if name = other then some a else entries.get? other :=
  get?_alter entries name other fun _ => a

theorem get?_foldl_put (pairs : List (String × α)) (entries : Entries α) (name : String) :
    (pairs.foldl (fun entries pair => entries.put pair.1 pair.2) entries).get? name
      = (get? pairs.reverse name).or (entries.get? name) := by
  induction pairs generalizing entries with
  | nil => rfl
  | cons pair rest ih =>
    obtain ⟨n, a⟩ := pair
    rw [List.foldl_cons, ih, get?_put, List.reverse_cons]
    simp only [get?, List.lookup_append]
    -- the first pair is the last one of the reversed pairs
    rw [Option.or_assoc]
    congr 1
    rw [List.lookup_cons, List.lookup_nil]
    by_cases hname : n = name
    · simp [hname]
    · have hbeq : (name == n) = false := beq_eq_false_iff_ne.mpr (Ne.symm hname)
      simp [hname, hbeq]

/-- Of several pairs with one name the last one counts. -/
theorem get?_ofPairs (pairs : List (String × α)) (name : String) :
    (ofPairs pairs).get? name = get? pairs.reverse name := by
  rw [ofPairs, get?_foldl_put, get?_nil, Option.or_none]

theorem ofPairs_eq_nil_iff (pairs : List (String × α)) : ofPairs pairs = [] ↔ pairs = [] := by
  constructor
  · intro h
    -- the last pair would stand under its name
    cases hreverse : pairs.reverse with
    | nil => exact List.reverse_eq_nil_iff.mp hreverse
    | cons pair rest =>
      obtain ⟨name, a⟩ := pair
      have hget := get?_ofPairs pairs name
      rw [h, hreverse, get?_nil, get?_cons, if_pos rfl] at hget
      cases hget
  · rintro rfl
    rfl

/-- A value stands under its name. -/
theorem mem_of_get?_eq_some {entries : Entries α} {name : String} {a : α}
    (h : entries.get? name = some a) : (name, a) ∈ entries := by
  induction entries with
  | nil => exact absurd h (by simp)
  | cons entry rest ih =>
    obtain ⟨n, b⟩ := entry
    rw [get?_cons] at h
    split at h
    case isTrue hname => exact hname ▸ Option.some.inj h ▸ List.mem_cons_self
    case isFalse => exact List.mem_cons_of_mem _ (ih h)

/-- Among names that differ, a value that stands under a name is the one under it. -/
theorem get?_eq_some_iff_mem {entries : Entries α} (hnodup : entries.names.Nodup) {name : String}
    {a : α} : entries.get? name = some a ↔ (name, a) ∈ entries := by
  refine ⟨mem_of_get?_eq_some, fun hmem => ?_⟩
  induction entries with
  | nil => exact absurd hmem (by simp)
  | cons entry rest ih =>
    obtain ⟨n, b⟩ := entry
    rw [names, List.map_cons, List.nodup_cons] at hnodup
    rw [get?_cons]
    -- the first entry of a name is found, so a repeated one would be out of reach
    rcases List.mem_cons.mp hmem with heq | hmem
    · obtain ⟨rfl, rfl⟩ := Prod.mk.inj heq
      rw [if_pos rfl]
    · -- a later entry under the first name would repeat it
      have hne : n ≠ name := by
        rintro rfl
        exact hnodup.1 (List.mem_map.mpr ⟨(n, a), hmem, rfl⟩)
      rw [if_neg hne]
      exact ih hnodup.2 hmem

/-- Some value stands under each of the names, and under no other. -/
theorem mem_names_iff {entries : Entries α} {name : String} :
    name ∈ entries.names ↔ ∃ a, entries.get? name = some a := by
  induction entries with
  | nil => simp [names]
  | cons entry rest ih =>
    obtain ⟨n, a⟩ := entry
    rw [names, List.map_cons, List.mem_cons, get?_cons]
    by_cases hname : n = name
    · simp [hname]
    · rw [if_neg hname, ← ih, names]
      simp [Ne.symm hname]

/-- Of pairs that are set one after the other, the last one with a name is found under it. -/
theorem get?_ofPairs_append_cons (before after : List (String × α)) {name : String} (a : α)
    (h : name ∉ names after) : (ofPairs (before ++ (name, a) :: after)).get? name = some a := by
  have hlater : get? after.reverse name = none := by
    rw [Option.eq_none_iff_forall_ne_some]
    intro b hb
    have hmem := mem_names_iff.mpr ⟨b, hb⟩
    rw [names, List.map_reverse] at hmem
    exact h (List.mem_reverse.mp hmem)
  have hfirst := get?_cons name a before.reverse name
  rw [if_pos rfl] at hfirst
  rw [get?_ofPairs, List.reverse_append, List.reverse_cons, List.append_assoc,
    List.singleton_append, get?, List.lookup_append]
  rw [get?] at hlater hfirst
  rw [hlater, hfirst, Option.none_or]

/-- Among names that differ, the last value under a name is the first one. -/
theorem get?_reverse {entries : Entries α} (hnodup : entries.names.Nodup) (name : String) :
    get? entries.reverse name = entries.get? name := by
  have hreversed : (names entries.reverse).Nodup := by
    rw [names, List.map_reverse]
    exact List.nodup_reverse.mpr hnodup
  ext a
  rw [get?_eq_some_iff_mem hreversed, get?_eq_some_iff_mem hnodup, List.mem_reverse]

/-- Names that are spelled in a way are searched for among the entries themselves. -/
theorem get?_map_eq_find? (spell : String → String) (entries : Entries α) (name : String) :
    get? (entries.map fun entry => (spell entry.1, entry.2)) name
      = (entries.find? fun entry => spell entry.1 = name).map (·.2) := by
  induction entries with
  | nil => rfl
  | cons entry rest ih =>
    rw [List.map_cons, get?_cons, ih]
    by_cases hname : spell entry.1 = name
    · simp [hname]
    · simp [hname]

/-! ## Kept and dropped names -/

theorem get?_filter (keep : String → Bool) (entries : Entries α) (name : String) :
    get? (entries.filter fun entry => keep entry.1) name
      = if keep name then entries.get? name else none := by
  induction entries with
  | nil => simp
  | cons entry rest ih =>
    obtain ⟨n, a⟩ := entry
    by_cases hname : n = name
    · subst hname
      by_cases hkeep : keep n = true
      · simp [hkeep, get?_cons]
      · simp [hkeep, ih]
    · by_cases hkeep : keep n = true
      · simp [hkeep, get?_cons, hname, ih]
      · simp [hkeep, get?_cons, hname, ih]

/-- Under a kept name stands what stood there. -/
theorem get?_restrict (entries : Entries α) (kept : List String) (name : String) :
    (entries.restrict kept).get? name = if name ∈ kept then entries.get? name else none := by
  rw [restrict, get?_filter kept.contains]
  simp

theorem get?_without (entries : Entries α) (name other : String) :
    (entries.without name).get? other = if name = other then none else entries.get? other := by
  rw [without, get?_filter (fun n => n ≠ name)]
  by_cases hname : name = other
  · simp [hname]
  · simp [hname, Ne.symm hname]

/-! ## Names -/

theorem nodup_names_without {entries : Entries α} (h : entries.names.Nodup) (name : String) :
    (entries.without name).names.Nodup :=
  h.sublist (List.filter_sublist.map _)

/-- A change adds its name at the end, unless it is there. -/
theorem names_alter (entries : Entries α) (name : String) (change : Option α → α) :
    (entries.alter name change).names
      = if name ∈ entries.names then entries.names else entries.names ++ [name] := by
  induction entries with
  | nil => rfl
  | cons entry rest ih =>
    obtain ⟨n, a⟩ := entry
    rw [alter]
    split
    case isTrue hname =>
      subst hname
      simp [names]
    -- the name is looked for among the rest
    case isFalse hname =>
      simp only [names, List.map_cons] at ih ⊢
      rw [ih]
      -- the first name is another one, so the rest decides
      by_cases hmem : name ∈ rest.map (·.1)
      · simp [hmem]
      · simp [hmem, Ne.symm hname]

theorem nodup_names_alter {entries : Entries α} (h : entries.names.Nodup) (name : String)
    (change : Option α → α) : (entries.alter name change).names.Nodup := by
  rw [names_alter]
  split
  case isTrue => exact h
  case isFalse hmem =>
    refine List.Nodup.append h (List.nodup_singleton name) ?_
    intro n hn hname
    exact hmem (List.mem_singleton.mp hname ▸ hn)

theorem nodup_names_foldl_put (pairs : List (String × α)) {entries : Entries α}
    (h : entries.names.Nodup) :
    (pairs.foldl (fun entries pair => entries.put pair.1 pair.2) entries).names.Nodup := by
  induction pairs generalizing entries with
  | nil => exact h
  | cons pair rest ih => exact ih (nodup_names_alter h pair.1 fun _ => pair.2)

/-- Entries that are built pair by pair repeat no name. -/
theorem nodup_names_ofPairs (pairs : List (String × α)) : (ofPairs pairs).names.Nodup :=
  nodup_names_foldl_put pairs List.nodup_nil

/-- The entries that pairs build are among the pairs. -/
theorem mem_of_mem_ofPairs {pairs : List (String × α)} {entry : String × α}
    (h : entry ∈ ofPairs pairs) : entry ∈ pairs := by
  -- an entry that is built stands under its name, and so does a pair
  have hvalue := (get?_eq_some_iff_mem (nodup_names_ofPairs pairs)).mpr h
  rw [get?_ofPairs] at hvalue
  exact List.mem_reverse.mp (mem_of_get?_eq_some hvalue)

/-- A change under a new name goes to the end. -/
theorem alter_eq_append {entries : Entries α} {name : String} (h : name ∉ entries.names)
    (change : Option α → α) : entries.alter name change = entries ++ [(name, change none)] := by
  induction entries with
  | nil => rfl
  | cons entry rest ih =>
    obtain ⟨n, b⟩ := entry
    rw [names, List.map_cons, List.mem_cons, not_or] at h
    rw [alter, if_neg (Ne.symm h.1), ih h.2, List.cons_append]

theorem put_eq_append {entries : Entries α} {name : String} (h : name ∉ entries.names) (a : α) :
    entries.put name a = entries ++ [(name, a)] :=
  alter_eq_append h fun _ => a

/-- The last entry is changed where it stands. -/
theorem alter_append_self {entries : Entries α} {name : String} (h : name ∉ entries.names) (a : α)
    (change : Option α → α) :
    alter (entries ++ [(name, a)]) name change = entries ++ [(name, change (some a))] := by
  induction entries with
  | nil => simp [alter]
  | cons entry rest ih =>
    obtain ⟨n, b⟩ := entry
    rw [names, List.map_cons, List.mem_cons, not_or] at h
    rw [List.cons_append, alter, if_neg (Ne.symm h.1), ih h.2, List.cons_append]

theorem foldl_put_eq_append (pairs : List (String × α)) (entries : Entries α)
    (h : (names (entries ++ pairs)).Nodup) :
    pairs.foldl (fun entries pair => entries.put pair.1 pair.2) entries = entries ++ pairs := by
  induction pairs generalizing entries with
  | nil => simp
  | cons pair rest ih =>
    have hnew : pair.1 ∉ entries.names := by
      simp only [names, List.map_append, List.map_cons] at h
      exact fun hmem => (List.disjoint_of_nodup_append h) hmem List.mem_cons_self
    have hassoc : entries ++ pair :: rest = entries ++ [pair] ++ rest := by simp
    rw [List.foldl_cons, put_eq_append hnew, hassoc]
    exact ih _ (hassoc ▸ h)

/-- Pairs that repeat no name are the entries that they build. -/
theorem ofPairs_eq_self {pairs : List (String × α)} (h : (names pairs).Nodup) :
    ofPairs pairs = pairs :=
  foldl_put_eq_append pairs [] h

/-- No pair is lost exactly if no two of them have one name. -/
theorem length_ofPairs_eq_iff (pairs : List (String × α)) :
    (ofPairs pairs).length = pairs.length ↔ (names pairs).Nodup := by
  constructor
  · intro h
    have hsubset : names (ofPairs pairs) ⊆ names pairs :=
      List.map_subset _ fun _ => mem_of_mem_ofPairs
    -- as many names as pairs, all different, so they are the names of the pairs
    have hperm :=
      ((nodup_names_ofPairs pairs).subperm hsubset).perm_of_length_le (by simp [names, h])
    exact hperm.nodup_iff.mp (nodup_names_ofPairs pairs)
  · intro h
    rw [ofPairs_eq_self h]

/-! ## Gathering -/

/-- Entries that repeat no name are determined by their names in order and the values under
them. -/
theorem ext_of_nodup {entries others : Entries α} (hnodup : entries.names.Nodup)
    (hnames : entries.names = others.names)
    (hvalues : ∀ name, entries.get? name = others.get? name) : entries = others := by
  induction entries generalizing others with
  | nil => exact (List.map_eq_nil_iff.mp hnames.symm).symm
  | cons entry rest ih =>
    obtain ⟨n, a⟩ := entry
    cases others with
    | nil => simp [names] at hnames
    | cons other others =>
      obtain ⟨m, b⟩ := other
      simp only [names, List.map_cons, List.cons.injEq, List.nodup_cons] at hnames hnodup
      obtain ⟨rfl, hnames⟩ := hnames
      -- both heads are what stands under their name
      have hhead : a = b := by simpa [get?_cons] using hvalues n
      subst hhead
      refine congrArg ((n, a) :: ·) (ih hnodup.2 hnames fun name => ?_)
      by_cases hname : n = name
      · -- neither rest has the first name
        subst hname
        have hnone : ∀ fields : Entries α, n ∉ fields.names → fields.get? n = none := by
          intro fields hmem
          cases hget : fields.get? n with
          | none => rfl
          | some c => exact absurd (List.mem_map_of_mem (mem_of_get?_eq_some hget)) hmem
        rw [hnone rest hnodup.1, hnone others (by rw [names, ← hnames]; exact hnodup.1)]
      · simpa [get?_cons, hname] using hvalues name

theorem get?_map_of_mem {keys : List String} {name : String} (h : name ∈ keys)
    (value : String → α) :
    get? (keys.map fun key => (key, value key)) name = some (value name) := by
  induction keys with
  | nil => exact absurd h (by simp)
  | cons key keys ih =>
    rw [List.map_cons, get?_cons]
    split
    case isTrue hname => rw [hname]
    case isFalse hname => exact ih ((List.mem_cons.mp h).resolve_left (Ne.symm hname))

theorem get?_map_of_notMem {keys : List String} {name : String} (h : name ∉ keys)
    (value : String → α) : get? (keys.map fun key => (key, value key)) name = none := by
  induction keys with
  | nil => rfl
  | cons key keys ih =>
    rw [List.mem_cons, not_or] at h
    rw [List.map_cons, get?_cons, if_neg (Ne.symm h.1), ih h.2]

section Gathering

variable {β : Type} (gather : β → Option α → α)

/-- Under a name stands what the values of the pairs with that name gather. -/
theorem get?_foldl_alter (pairs : List (String × β)) (entries : Entries α) (name : String) :
    (pairs.foldl (fun entries pair => entries.alter pair.1 (gather pair.2)) entries).get? name
      = ((pairs.filter fun pair => pair.1 = name).map (·.2)).foldl
        (fun gathered b => some (gather b gathered)) (entries.get? name) := by
  induction pairs generalizing entries with
  | nil => rfl
  | cons pair rest ih =>
    rw [List.foldl_cons, ih, get?_alter]
    by_cases hname : pair.1 = name
    · simp [hname]
    · simp [hname]

theorem eraseDups_concat (names : List String) (name : String) :
    (names ++ [name]).eraseDups
      = if name ∈ names then names.eraseDups else names.eraseDups ++ [name] := by
  rw [List.eraseDups_append, List.cons_removeAll]
  by_cases hmem : name ∈ names
  · simp [hmem]
  · simp [hmem, List.eraseDups_cons]

theorem nodup_eraseDups (names : List String) : names.eraseDups.Nodup := by
  induction names using List.reverseRecOn with
  | nil => exact List.nodup_nil
  | append_singleton names name ih =>
    rw [eraseDups_concat]
    split
    case isTrue => exact ih
    case isFalse hnew =>
      rw [← List.concat_eq_append, List.nodup_concat]
      exact ⟨mt List.mem_eraseDups.mp hnew, ih⟩

/-- The names of what is gathered come in the order in which they first appear. -/
theorem names_foldl_alter (pairs : List (String × β)) :
    names (pairs.foldl (fun entries pair => entries.alter pair.1 (gather pair.2)) [])
      = (pairs.map (·.1)).eraseDups := by
  induction pairs using List.reverseRecOn with
  | nil => rfl
  | append_singleton pairs pair ih =>
    rw [List.foldl_concat, names_alter, ih, List.map_append, List.map_singleton, eraseDups_concat]
    simp only [List.mem_eraseDups]

theorem nodup_names_foldl_alter (pairs : List (String × β)) :
    (names (pairs.foldl (fun entries pair => entries.alter pair.1 (gather pair.2)) [])).Nodup := by
  rw [names_foldl_alter]
  exact nodup_eraseDups _

/-- What is gathered stands under the names, in the order in which they first appear. -/
theorem foldl_alter_eq_map (pairs : List (String × β)) (value : String → α)
    (hvalue : ∀ name, ∀ b bs, (pairs.filter fun pair => pair.1 = name).map (·.2) = b :: bs →
      bs.foldl (fun gathered b => some (gather b gathered)) (some (gather b none))
        = some (value name)) :
    pairs.foldl (fun (entries : Entries α) pair => entries.alter pair.1 (gather pair.2)) []
      = (pairs.map (·.1)).eraseDups.map fun name => (name, value name) := by
  -- each name stands once on either side, so it is enough to compare what it is given
  refine ext_of_nodup (nodup_names_foldl_alter gather pairs) ?_ fun name => ?_
  · rw [names_foldl_alter, names, List.map_map]
    exact (List.map_id _).symm
  · rw [get?_foldl_alter, get?_nil]
    by_cases hmem : name ∈ pairs.map (·.1)
    · rw [get?_map_of_mem (List.mem_eraseDups.mpr hmem)]
      -- a name that appears has a first value
      cases hvalues : (pairs.filter fun pair => pair.1 = name).map (·.2) with
      | nil =>
        obtain ⟨pair, hpair, rfl⟩ := List.mem_map.mp hmem
        have hkept : pair ∈ pairs.filter fun other => other.1 = pair.1 := by simp [hpair]
        rw [List.map_eq_nil_iff.mp hvalues] at hkept
        exact absurd hkept (by simp)
      | cons b bs => exact hvalue name b bs hvalues
    · -- no pair has the name
      rw [get?_map_of_notMem fun h => hmem (List.mem_eraseDups.mp h)]
      have hnone : pairs.filter (fun pair => pair.1 = name) = [] := by
        refine List.filter_eq_nil_iff.mpr fun pair hpair hname => hmem ?_
        exact List.mem_map.mpr ⟨pair, hpair, of_decide_eq_true hname⟩
      rw [hnone]
      rfl

end Gathering

end SheetRecall.Entries
