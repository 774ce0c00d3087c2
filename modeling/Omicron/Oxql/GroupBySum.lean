import Omicron.Oxql.GroupBy
import Omicron.Oxql.AlignRuns

/-!
# OxQL: what the group-by sum computes

Read by timestamp, aligned points are a partial map: the entry at `τ` is `none` where `τ` is not a
timestamp, and the value there, present or missing, where it is. `reduce_sum` is then pointwise.
The first timeseries of a group gives the group's entries, and each later one adds its present
values in, in input order (`sumEntry`). This rests on the order of the timestamps, which
`binary_search` needs: inputs whose timestamps increase, as `align` makes them.

* `mergeSumPoint_entry`, `mergeSum_entry` -- a merge adds the new timeseries' present values into
  the group's entries and keeps its timestamps increasing;
* `SumsGroups.reduceSumStep`, `reduceSum_sumEntry` -- the invariant of the loop over the input:
  one group per key, with its first member's fields and the entries `sumEntry` gives its members;
* `alignMeanWithin_sorted` -- the alignment's output times increase in every timeseries;
* `alignApply_groupBySum` -- so the query `align mean_within(period) | group_by [..], sum`
  returns the pointwise sums of the aligned groups.
-/

namespace Omicron.Oxql

variable {δ : Type}

/-! ## 1. Entries -/

namespace AlignedPoints

/-- The entry at `τ`: `none` where `τ` is not a timestamp, and the value there, present or
    missing, where it is. -/
def entry (p : AlignedPoints δ) (τ : Int) : Option (Option δ) :=
  (p.timestamps.zip p.values).lookup τ

/-- The present value at `τ`, if there is one. -/
def presentAt (p : AlignedPoints δ) (τ : Int) : Option δ := (presentPoints p).lookup τ

end AlignedPoints

variable (F : F64 δ)

/-- A present value added into an entry, as a round of the sum's merge adds it: it starts the
    entry where the timestamp is not there, and is added to the value where it is, a missing one
    counting as `0.0`. -/
def addEntry (entry : Option (Option δ)) (v : δ) : Option δ :=
  match entry with
  | none => some v
  | some value => some (F.add (value.getD F.zero) v)

/-- A later member's present value at a timestamp, if it has one, added into the group's entry. -/
def addPresent (entry : Option (Option δ)) : Option δ → Option (Option δ)
  | none => entry
  | some v => some (addEntry F entry v)

/-- The entry of a group at `τ`: the first member's, with the present value of every later
    member added in, in the order of the input. -/
def sumEntry (first : AlignedPoints δ) (rest : List (AlignedPoints δ)) (τ : Int) :
    Option (Option δ) :=
  rest.foldl (fun entry p => addPresent F entry (p.presentAt τ)) (first.entry τ)

theorem sumEntry_append (first : AlignedPoints δ) (rest : List (AlignedPoints δ))
    (p : AlignedPoints δ) (τ : Int) :
    sumEntry F first (rest ++ [p]) τ =
      addPresent F (sumEntry F first rest τ) (p.presentAt τ) := by
  simp [sumEntry, List.foldl_append]

/-! ## 2. The merges -/

/-- **A round of the sum's merge adds its value into the entry at its timestamp**, and keeps the
    timestamps strictly increasing. -/
theorem mergeSumPoint_entry {timestamps timestamps' : List Int} {values values' : List (Option δ)}
    {point : Int × δ} (hsorted : timestamps.Pairwise (· < ·))
    (hlen : values.length = timestamps.length)
    (h : mergeSumPoint F (timestamps, values) point = some (timestamps', values')) :
    timestamps'.Pairwise (· < ·) ∧ values'.length = timestamps'.length ∧ ∀ τ,
      (timestamps'.zip values').lookup τ =
        if τ = point.1 then some (addEntry F ((timestamps.zip values).lookup τ) point.2)
        else (timestamps.zip values).lookup τ := by
  obtain ⟨t, v⟩ := point
  have hnodup : timestamps.Nodup := hsorted.imp ne_of_lt
  unfold mergeSumPoint at h
  dsimp only at h ⊢
  split at h
  · -- a new timestamp, inserted where the search puts it
    rename_i insertAt hsearch
    split at h
    · rename_i hle
      cases h
      have hnew : t ∉ timestamps := fun ht =>
        binarySearchBy_error_ne_eq
          (@SortedBy.of_pairwise_lt Int Int _ id timestamps (by simpa using hsorted) t)
          hsearch t ht (compare_eq_iff_eq.mpr rfl)
      refine ⟨?_, ?_, fun τ => ?_⟩
      · have hs := @pairwise_insertIdx_of_error Int Int _ id timestamps t insertAt
          (by simpa using hsorted) hsearch
        simpa using hs
      · rw [List.length_insertIdx_of_le_length hle.1, List.length_insertIdx_of_le_length hle.2,
          hlen]
      · rw [lookup_zip_insertIdx hlen.symm hle.1 hnew]
        by_cases hτ : τ = t
        · subst hτ
          rw [if_pos rfl, if_pos rfl, lookup_zip_of_not_mem hnew]
          rfl
        · rw [if_neg hτ, if_neg hτ]
    · cases h
  · -- a timestamp already there: the value is added at its place
    rename_i ix hsearch
    obtain ⟨hix, heq⟩ := binarySearchBy_sound hsearch
    have hts : timestamps[ix] = t := compare_eq_iff_eq.mp heq
    split at h
    · rename_i value hvalue
      cases h
      have hv : ix < values.length := hlen ▸ hix
      have hval : values[ix] = value := by
        rw [List.getElem?_eq_getElem hv] at hvalue
        exact Option.some.inj hvalue
      refine ⟨hsorted, by rw [List.length_set, hlen], fun τ => ?_⟩
      rw [lookup_zip_set hnodup hlen.symm hix, hts]
      by_cases hτ : τ = t
      · subst hτ
        rw [if_pos rfl, if_pos rfl, ← hts, lookup_zip_getElem hnodup hix hv, hval]
        rfl
      · rw [if_neg hτ, if_neg hτ]
    · cases h

/-- The rounds of the sum's merge add each of their values into the entry at its timestamp, on
    points of distinct timestamps. -/
theorem foldlM_mergeSumPoint_entry : ∀ (points : List (Int × δ))
    {timestamps timestamps' : List Int} {values values' : List (Option δ)},
    (points.map Prod.fst).Nodup → timestamps.Pairwise (· < ·) →
    values.length = timestamps.length →
    points.foldlM (mergeSumPoint F) (timestamps, values) = some (timestamps', values') →
    timestamps'.Pairwise (· < ·) ∧ ∀ τ,
      (timestamps'.zip values').lookup τ =
        addPresent F ((timestamps.zip values).lookup τ) (points.lookup τ)
  | [], _, _, _, _, _, hsorted, _, h => by
    cases h
    exact ⟨hsorted, fun τ => rfl⟩
  | (t, v) :: points, timestamps, timestamps', values, values', hnodup, hsorted, hlen, h => by
    rw [List.foldlM_cons] at h
    obtain ⟨⟨timestamps₁, values₁⟩, h₁, hrest⟩ := Option.bind_eq_some_iff.mp h
    obtain ⟨hsorted₁, hlen₁, hentry₁⟩ := mergeSumPoint_entry F hsorted hlen h₁
    have ht : t ∉ points.map Prod.fst := (List.nodup_cons.mp hnodup).1
    obtain ⟨hsorted', hentry'⟩ := foldlM_mergeSumPoint_entry points
      (List.nodup_cons.mp hnodup).2 hsorted₁ hlen₁ hrest
    refine ⟨hsorted', fun τ => ?_⟩
    rw [hentry', hentry₁ τ]
    by_cases hτ : τ = t
    · -- the later points have other timestamps
      subst hτ
      have hnone : points.lookup τ = none := by
        rw [List.lookup_eq_none_iff]
        intro p hp
        have hne : τ ≠ p.1 := fun h => ht (h ▸ List.mem_map_of_mem hp)
        simpa using hne
      rw [if_pos rfl, hnone]
      simp [addPresent]
    · rw [if_neg hτ, lookup_cons_of_ne hτ]

/-- The timestamps of the present values are some of the timestamps, in order. -/
theorem map_fst_presentPoints_sublist (p : AlignedPoints δ) :
    List.Sublist ((presentPoints p).map Prod.fst) p.timestamps := by
  unfold presentPoints
  generalize p.values = values
  induction p.timestamps generalizing values with
  | nil => simp
  | cons t timestamps ih =>
    cases values with
    | nil => simp
    | cons value values =>
      cases value with
      | none => simpa using (ih values).cons t
      | some v => simpa using (ih values).cons_cons t

/-- **The sum's merge adds the new timeseries' present values into the group's entries**, on
    timestamps that increase, and keeps them increasing. -/
theorem mergeSum_entry {existing new merged : AlignedPoints δ}
    (hexisting : existing.timestamps.Pairwise (· < ·)) (hnew : new.timestamps.Pairwise (· < ·))
    (h : mergeSum F existing new = some merged) :
    merged.timestamps.Pairwise (· < ·) ∧
      ∀ τ, merged.entry τ = addPresent F (existing.entry τ) (new.presentAt τ) := by
  have hnodup : ((presentPoints new).map Prod.fst).Nodup :=
    ((hnew.sublist (map_fst_presentPoints_sublist new)).imp ne_of_lt)
  unfold mergeSum at h
  obtain ⟨⟨timestamps, values⟩, hloop, h⟩ := Option.bind_eq_some_iff.mp h
  obtain ⟨hsorted, hentry⟩ := foldlM_mergeSumPoint_entry F (presentPoints new) hnodup hexisting
    existing.length_values hloop
  dsimp only at h
  split at h
  · cases h
    exact ⟨hsorted, hentry⟩
  · cases h


/-! ## 3. The loop of the sum -/

variable (hash : List (String × FieldValue) → Nat)

/-- What the sum's output holds after part of its input, `dropped` that part with the kept fields
    only: for each key some of them have, one timeseries, with the fields of the first of them,
    timestamps that increase, and at every timestamp the entry `sumEntry` gives them in order;
    for any other key, none. -/
structure SumsGroups (dropped : List (AlignedTimeseries δ)) (out : AlignedTable δ) : Prop where
  lookup_eq_none : ∀ k, dropped.filter (fun d => d.key hash == k) = [] →
    out.timeseries.lookup k = none
  lookup_eq_some : ∀ k first rest, dropped.filter (fun d => d.key hash == k) = first :: rest →
    ∃ g, out.timeseries.lookup k = some g ∧ g.fields = first.fields ∧
      g.points.timestamps.Pairwise (· < ·) ∧
      ∀ τ, g.points.entry τ = sumEntry F first.points (rest.map (·.points)) τ

theorem sumsGroups_nil (name : String) :
    SumsGroups F hash [] (AlignedTable.new name : AlignedTable δ) where
  lookup_eq_none _ _ := by simp [AlignedTable.new, Finmap.lookup_empty]
  lookup_eq_some _ _ _ h := by simp at h

theorem filter_append_key_of_ne {dropped : List (AlignedTimeseries δ)} {d : AlignedTimeseries δ}
    {k : Nat} (hk : k ≠ d.key hash) :
    (dropped ++ [d]).filter (fun d => d.key hash == k) =
      dropped.filter (fun d => d.key hash == k) := by
  simp [List.filter_append, Ne.symm hk]

theorem filter_append_key (dropped : List (AlignedTimeseries δ)) (d : AlignedTimeseries δ) :
    (dropped ++ [d]).filter (fun e => e.key hash == d.key hash) =
      dropped.filter (fun e => e.key hash == d.key hash) ++ [d] := by
  simp [List.filter_append]

/-- **A round of the sum keeps `SumsGroups`**, its timeseries with the kept fields added to what
    it has run over: merged into its group, or starting one. -/
theorem SumsGroups.reduceSumStep {keptFields : List String} {dropped : List (AlignedTimeseries δ)}
    {out out' : AlignedTable δ} {input : AlignedTimeseries δ}
    (hinv : SumsGroups F hash dropped out) (hsorted : input.points.timestamps.Pairwise (· < ·))
    (h : (reduceSumStep F hash keptFields out input).run = some (.ok out')) :
    ∃ d, input.copyWithFields keptFields = .ok d ∧ SumsGroups F hash (dropped ++ [d]) out' := by
  obtain ⟨d, hd, hcase⟩ := reduceSumStep_eq_ok F hash h
  have hpoints := copyWithFields_points hd
  refine ⟨d, hd, ?_⟩
  -- the key of `d` is the only one whose group changes
  have hother : ∀ k, k ≠ d.key hash → out'.timeseries.lookup k = out.timeseries.lookup k := by
    intro k hk
    rcases hcase with ⟨existing, merged, -, -, rfl⟩ | ⟨-, hinsert⟩
    · exact Finmap.lookup_insert_of_ne _ hk
    · rw [AlignedTable.insert_eq_ok hash hinsert]
      exact Finmap.lookup_insert_of_ne _ hk
  constructor
  · intro k hk
    by_cases hkd : k = d.key hash
    · subst hkd
      simp at hk
    · rw [hother k hkd]
      exact hinv.lookup_eq_none k (by rwa [filter_append_key_of_ne hash hkd] at hk)
  · intro k first rest hk
    by_cases hkd : k = d.key hash
    · subst hkd
      rw [filter_append_key] at hk
      rcases hcase with ⟨existing, merged, hexisting, hmerged, rfl⟩ | ⟨hnone, hinsert⟩
      · -- the group exists: `d` is merged into it
        cases hgroup : dropped.filter (fun e => e.key hash == d.key hash) with
        | nil =>
          rw [hinv.lookup_eq_none _ hgroup] at hexisting
          cases hexisting
        | cons first' rest' =>
          rw [hgroup, List.cons_append, List.cons.injEq] at hk
          obtain ⟨rfl, rfl⟩ := hk
          obtain ⟨g, hg, hfields, hgsorted, hgentry⟩ :=
            hinv.lookup_eq_some _ first' rest' hgroup
          rw [hexisting, Option.some.injEq] at hg
          subst hg
          obtain ⟨hmsorted, hmentry⟩ := mergeSum_entry F hgsorted (hpoints ▸ hsorted) hmerged
          refine ⟨{ existing with points := merged }, Finmap.lookup_insert _, hfields, hmsorted,
            fun τ => ?_⟩
          rw [List.map_append, List.map_singleton, sumEntry_append, ← hgentry τ]
          exact hmentry τ
      · -- no group yet: `d` starts one
        cases hgroup : dropped.filter (fun e => e.key hash == d.key hash) with
        | nil =>
          rw [hgroup, List.nil_append, List.cons.injEq] at hk
          obtain ⟨rfl, rfl⟩ := hk
          refine ⟨d, ?_, rfl, hpoints ▸ hsorted, fun τ => rfl⟩
          rw [AlignedTable.insert_eq_ok hash hinsert]
          exact Finmap.lookup_insert _
        | cons first' rest' =>
          obtain ⟨g, hg, -⟩ := hinv.lookup_eq_some _ first' rest' hgroup
          rw [hnone] at hg
          cases hg
    · rw [hother k hkd]
      exact hinv.lookup_eq_some k first rest (by rwa [filter_append_key_of_ne hash hkd] at hk)

/-- **What the sum computes.** On a table whose timeseries have increasing timestamps, as
    `align` makes them, a successful `reduce_sum` returns one table. Each input, with the kept
    fields only, falls into the group of its key; the output has one timeseries per group, with
    the fields of its first member and increasing timestamps, and at every timestamp the first
    member's entry with the present value of each later member added in, in input order. -/
theorem reduceSum_sumEntry {keptFields : List String} {table : AlignedTable δ}
    {result : List (AlignedTable δ)}
    (hsorted : ∀ ts ∈ table.iter, ts.points.timestamps.Pairwise (· < ·))
    (h : (reduceSum F hash keptFields table).run = some (.ok result)) :
    ∃ out dropped, result = [out] ∧
      List.Forall₂ (fun ts d => ts.copyWithFields keptFields = .ok d) table.iter dropped ∧
      SumsGroups F hash dropped out := by
  unfold reduceSum at h
  obtain ⟨out, hloop, h⟩ := ExceptT.run_bind_eq_some_ok_iff.mp h
  -- the loop keeps the invariant of the inputs it has run over
  let I : List (AlignedTimeseries δ) → AlignedTable δ → Prop := fun pre out =>
    ∃ dropped, List.Forall₂ (fun ts d => ts.copyWithFields keptFields = .ok d) pre dropped ∧
      SumsGroups F hash dropped out
  have hstep : ∀ pre out input out', input ∈ table.iter → I pre out →
      (reduceSumStep F hash keptFields out input).run = some (.ok out') →
      I (pre ++ [input]) out' := by
    rintro pre out input out' hinput ⟨dropped, hcopies, hinv⟩ hround
    obtain ⟨d, hd, hinv'⟩ := hinv.reduceSumStep F hash (hsorted input hinput) hround
    exact ⟨dropped ++ [d], List.rel_append hcopies (List.Forall₂.cons hd .nil), hinv'⟩
  have hstart : I [] (AlignedTable.new table.name) :=
    ⟨[], .nil, sumsGroups_nil F hash table.name⟩
  obtain ⟨dropped, hcopies, hinv⟩ :=
    ExceptT.run_foldlM_prefix_inv I table.iter hstep hstart hloop
  exact ⟨out, dropped, (ExceptT.run_pure_eq_some_ok_iff.mp h).symm, hcopies, hinv⟩


/-! ## 4. After the alignment -/

variable {queryEnd : Int} {period : Nat}

/-- **The alignment's output times increase** in every timeseries, for a positive period. -/
theorem alignMeanWithin_sorted {table : Table} {aligned : AlignedTable δ} (hperiod : 0 < period)
    (h : (alignMeanWithin F hash table queryEnd period).run = some (.ok aligned)) :
    ∀ ts ∈ aligned.iter, ts.points.timestamps.Pairwise (· < ·) := by
  -- every timeseries of the output is one that `alignTimeseries` made
  let I : AlignedTable δ → Prop := fun out =>
    ∀ k ts, out.timeseries.lookup k = some ts → ts.points.timestamps.Pairwise (· < ·)
  have hnew : I (AlignedTable.new table.name) := by
    intro k ts hk
    simp [AlignedTable.new, Finmap.lookup_empty] at hk
  unfold alignMeanWithin at h
  have hinv : I aligned := by
    refine ExceptT.run_foldlM_inv I (fun out ts out' hout hround => ?_) table.iter hnew h
    obtain ⟨a, ha, hinsert⟩ := ExceptT.run_bind_eq_some_ok_iff.mp hround
    have hsorted := alignTimeseries_sorted F hperiod ha
    split at hinsert
    · rename_i out'' hok
      rw [ExceptT.run_pure_eq_some_ok_iff] at hinsert
      subst hinsert
      rw [AlignedTable.insert_eq_ok hash hok]
      intro k ts' hk
      by_cases hka : k = a.key hash
      · subst hka
        rw [Finmap.lookup_insert, Option.some.injEq] at hk
        exact hk ▸ hsorted
      · rw [Finmap.lookup_insert_of_ne _ hka] at hk
        exact hout k ts' hk
    · simp at hinsert
  intro ts hts
  obtain ⟨k, hk⟩ := Finmap.mem_sortedValues.mp hts
  exact hinv k ts hk

variable (alignmentOf : AlignedTimeseries δ → Option Alignment)

/-- A successful `group_by` with the sum ran `reduce_sum` on its one table. -/
theorem groupBy_apply_sum_eq_ok {identifiers : List String} {tables result : List (AlignedTable δ)}
    (h : (GroupBy.apply F hash alignmentOf ⟨identifiers, .sum⟩ tables).run =
      some (.ok result)) :
    ∃ table, tables = [table] ∧
      (reduceSum F hash identifiers table).run = some (.ok result) := by
  unfold GroupBy.apply at h
  split at h
  · rename_i table
    refine ⟨table, rfl, ?_⟩
    simp only [ExceptT.bind_throw] at h
    split at h
    · exact absurd h ExceptT.run_throw_ne_some_ok
    split at h
    · exact absurd h ExceptT.run_throw_ne_some_ok
    exact h
  · exact absurd h ExceptT.run_throw_ne_some_ok

/-- **What `align mean_within(period) | group_by [..], sum` computes.** For a positive period,
    when both operations succeed, the alignment returned one table and the sum one table; each
    aligned timeseries, with the kept fields only, falls into the group of its key, and the output
    has one timeseries per group, with the fields of its first member, increasing timestamps, and
    at every timestamp the first member's entry with the present value of each later member added
    in, in the order of the aligned table. -/
theorem alignApply_groupBySum {tables : List Table} {aligned result : List (AlignedTable δ)}
    {identifiers : List String} (hperiod : 0 < period)
    (halign : (alignApply F hash tables queryEnd period).run = some (.ok aligned))
    (hgroup : (GroupBy.apply F hash alignmentOf ⟨identifiers, .sum⟩ aligned).run =
      some (.ok result)) :
    ∃ table out dropped, aligned = [table] ∧ result = [out] ∧
      List.Forall₂ (fun ts d => ts.copyWithFields identifiers = .ok d) table.iter dropped ∧
      SumsGroups F hash dropped out := by
  obtain ⟨table, rfl, hsum⟩ := groupBy_apply_sum_eq_ok F hash alignmentOf hgroup
  -- the one table came out of the alignment of an input table
  obtain ⟨input, -, hinput⟩ := ExceptT.run_mapM_mem halign table (List.mem_singleton_self table)
  have hsorted := alignMeanWithin_sorted F hash hperiod hinput
  obtain ⟨out, dropped, hresult, hcopies, hsums⟩ := reduceSum_sumEntry F hash hsorted hsum
  exact ⟨table, out, dropped, rfl, hresult, hcopies, hsums⟩

/-- Two gauges of the group `g = 0`, told apart by `s`: a sample `1` at `5`, and a sample `2` at
    `25`. -/
def twoGauges : Table where
  name := "t"
  timeseries :=
    Finmap.insert 0
      { gaugePoint 5 1 with fields := ((∅ : Fields).insert "g" (.i64 0)).insert "s" (.i64 1) }
      (Finmap.insert 1
        { gaugePoint 25 2 with
          fields := ((∅ : Fields).insert "g" (.i64 0)).insert "s" (.i64 2) } ∅)

theorem alignApply_groupBySum_twoGauges :
    0 < 10 ∧ ∃ aligned result,
      (alignApply unitF64 shortFirstHash [twoGauges] 30 10).run = some (.ok aligned) ∧
      (GroupBy.apply unitF64 shortFirstHash (fun _ => some ⟨30, 10⟩) ⟨["g"], .sum⟩
        aligned).run = some (.ok result) ∧
      ∃ table out dropped, aligned = [table] ∧ result = [out] ∧
        List.Forall₂ (fun ts d => ts.copyWithFields ["g"] = .ok d) table.iter dropped ∧
        SumsGroups unitF64 shortFirstHash dropped out :=
  have halign : (alignApply unitF64 shortFirstHash [twoGauges] 30 10).run = some (.ok _) := rfl
  have hgroup : (GroupBy.apply unitF64 shortFirstHash (fun _ => some ⟨30, 10⟩) ⟨["g"], .sum⟩
      _).run = some (.ok _) := rfl
  ⟨by decide, _, _, halign, hgroup,
    alignApply_groupBySum unitF64 shortFirstHash _ (by decide) halign hgroup⟩

end Omicron.Oxql
