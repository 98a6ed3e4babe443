import SheetRecall.Proofs.Filter.RoundTrip
import SheetRecall.Proofs.Grounding.Confidence
import SheetRecall.Proofs.Grounding.Shape

/-!
# What Is Searched For

The filter of a grounded question goes through its map before it is used in a search: the map is
what the result shows.  Since a filter survives its map, the search asks for exactly what was
applied: all of it has to hold.

## Main statement
`filter_survives_search`.
-/

namespace SheetRecall.Grounding

open SheetRecall.Filter

/-- What is read from the map of a result is one filter with all pairs that were applied, key by
key; nothing is read if nothing was applied. -/
theorem map_ofMap_filtersOf (applied : List Applied) :
    (filtersOf applied).map ofMap
      = if applied.isEmpty then [] else [⟨byKey (filterOf applied).pairs⟩] := by
  have hempty : (filterOf applied).isEmpty = applied.isEmpty := by
    rw [filterOf_eq, isEmpty_ofPairs_texts, List.isEmpty_map]
  have hback : ofMap (filterOf applied).toMap = ⟨byKey (filterOf applied).pairs⟩ :=
    ofMap_toMap (distinct_ofPairs _)
  rw [filtersOf, hempty]
  cases applied.isEmpty with
  | true => rfl
  | false => exact congrArg (fun f => [f]) hback

/-- The filters of applied criteria, read from their maps, are the conjunction of the criteria. -/
theorem compile_filtersOf_holds_iff {δ : Type u} (I : Interpretation δ) (normalize : Bool)
    (item : String) (applied : List Applied) (d : δ) :
    (compile normalize item ((filtersOf applied).map ofMap)).Holds I d
      ↔ ∀ a ∈ applied, Usable (a.key, .text a.value) →
        PairHolds I normalize d (a.key, .text a.value) := by
  rw [map_ofMap_filtersOf]
  split
  case isTrue hnone =>
    -- nothing was applied, so every document is found
    rw [List.isEmpty_iff.mp hnone]
    simp [compile, Compiled.Holds, Compiled.matchAll]
  case isFalse =>
    have hpairs : (filterOf applied).pairs
        = (applied.map fun a => (a.key, a.value)).eraseDups.map textPair := by
      rw [filterOf_eq, pairs_ofPairs_texts]
    rw [compile_filter_holds_iff]
    simp only [(perm_byKey _).mem_iff, hpairs]
    simp [textPair]

/-- **A filter survives its map, so a search asks for all that was applied.**  The search is called
in the state that the grounding left, whatever comes of it, with one filter that holds the pairs of
all applied criteria; and that filter means that all of them hold. -/
theorem filter_survives_search :
    (∀ {added : List (String × Value)} {f : Filter}, Built added f → SurvivesMap.{u} added f)
      ∧ ∀ {σ α : Type} (env : Surroundings σ) (t : Thresholds) (search : List Filter → Task σ α)
        (question : String) (s s' : σ) (result : Result),
        (run env t question).perform s = (.ok result, s') →
          (runAndSearch env t search question).perform s
              = ((·, result) <$> search result.searchFilters).perform s'
            ∧ result.searchFilters
              = (if result.applied.isEmpty then [] else [⟨byKey (filterOf result.applied).pairs⟩])
            ∧ ∀ {δ : Type u} (I : Interpretation δ) (normalize : Bool) (item : String) (d : δ),
              (compile normalize item result.searchFilters).Holds I d
                ↔ ∀ a ∈ result.applied, Usable (a.key, .text a.value) →
                  PairHolds I normalize d (a.key, .text a.value) := by
  refine ⟨fun h => h.survivesMap, fun env t search question s s' result h => ?_⟩
  obtain ⟨s₀, applied, stopped, -, -, hresult⟩ := run_eq_ok h
  refine ⟨?_, ?_, fun I normalize item d => ?_⟩
  · rw [runAndSearch, Task.perform_bind_of_ok h, map_eq_pure_bind]
  · rw [hresult]
    exact map_ofMap_filtersOf applied
  · rw [hresult]
    exact compile_filtersOf_holds_iff I normalize item applied d

/-- A filter whose keys are mixed, with a list for a value and with a value that equals another, and
the search for running servers. -/
theorem filter_survives_search_running :
    let read := ofMap [("n", .list [.int 1, .list [.int 2]])]
    let f := ((read.byColumn "Region" (.text "east")).byTag "n" (.bool true)).add "n" (.text "x")
    SurvivesMap.{0} [("n", .int 1), ("n", .list [.int 2]), ("data.Region", .text "east"),
        ("n", .bool true), ("n", .text "x")] f
      ∧ (ofMap f.toMap).pairs
        = [("n", .int 1), ("n", .list [.int 2]), ("n", .text "x"), ("data.Region", .text "east")]
      ∧ ∃ result s', (run (runningServers "0.9") {} "q").perform () = (.ok result, s')
        ∧ result.applied.length = 1
        ∧ ∀ {δ : Type} (I : Interpretation δ) (normalize : Bool) (item : String) (d : δ),
          (compile normalize item result.searchFilters).Holds I d
            ↔ ∀ a ∈ result.applied, Usable (a.key, .text a.value) →
              PairHolds I normalize d (a.key, .text a.value) := by
  have hbuilt := (((Built.ofMap [("n", .list [.int 1, .list [.int 2]])]).byColumn "Region"
    (.text "east")).byTag "n" (.bool true)).add "n" (.text "x")
  -- the pass applies the one criterion it is asked for
  have hcount : ((run (runningServers "0.9") {} "q").perform ()).1.toOption.map
      (·.applied.length) = some 1 := by decide +kernel
  refine ⟨filter_survives_search.1 hbuilt, rfl, ?_⟩
  cases hrun : (run (runningServers "0.9") {} "q").perform () with
  | mk outcome s' =>
    rw [hrun] at hcount
    cases outcome with
    | error fault => cases hcount
    | ok result =>
      have hsearch := filter_survives_search.2 _ _ (fun found => pure found) "q" () s' result hrun
      exact ⟨result, s', rfl, Option.some.inj hcount, hsearch.2.2⟩

end SheetRecall.Grounding
