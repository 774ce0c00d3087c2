import Omicron.Oxql.Pushdown

/-!
# OxQL: the output times of `align_mean_within`

What the alignment outputs over a whole run of its loop, whatever the means of the windows:

* `alignTimeseries_timestamps` -- a timeseries comes out at `query_end - i * period` for the
  rounds `i < k` whose time is at or after its first timestamp, earliest first; round `k` is the
  first whose time falls before it (from `alignLoop_timestamps`, a lemma of the loop);
* `alignTimeseries_sorted` -- so for a positive period the output times increase strictly;
* `alignApply_exceeds_upsampling_bound` -- but how many there are depends on how far the query's
  end lies from the data, not on the number of input points: one point gives any number of
  outputs. And a zero period, which the grammar accepts, never ends the loop.
-/

namespace Omicron.Oxql

variable {δ : Type} (F : F64 δ) {queryEnd : Int} {period : Nat} {ts : Timeseries}
  {a : AlignedTimeseries δ}

/-- What a successful alignment of a timeseries ran: its first timestamp, the loop from there,
    and the loop's output times reversed. -/
theorem alignTimeseries_eq_ok (h : (alignTimeseries F queryEnd period ts).run = some (.ok a)) :
    ∃ (first : Int) (mean : Int → Int → Option (Option δ)) (out : List (Int × Option δ)),
      ts.points.timestamps[0]? = some first ∧
      alignLoop mean queryEnd period first (alignFuel queryEnd first) 0 [] = some out ∧
      a.points.timestamps = out.reverse.map Prod.fst := by
  unfold alignTimeseries at h
  simp only [ExceptT.bind_throw] at h
  -- the three checks of the input
  split at h
  · exact absurd h ExceptT.run_throw_ne_some_ok
  split at h
  · exact absurd h ExceptT.run_throw_ne_some_ok
  split at h
  · exact absurd h ExceptT.run_throw_ne_some_ok
  obtain ⟨_, -, h⟩ := ExceptT.run_bind_eq_some_ok_iff.mp h
  split at h
  · -- integers, converted to doubles
    obtain ⟨_, -, h⟩ := ExceptT.run_bind_eq_some_ok_iff.mp h
    obtain ⟨first, hfirst, h⟩ := ExceptT.run_bind_eq_some_ok_iff.mp h
    obtain ⟨mean, -, h⟩ := ExceptT.run_bind_eq_some_ok_iff.mp h
    obtain ⟨out, hout, h⟩ := ExceptT.run_bind_eq_some_ok_iff.mp h
    rw [ExceptT.run_pure_eq_some_ok_iff] at h
    subst h
    exact ⟨first, mean, out, ExceptT.run_lift_eq_some_ok_iff.mp hfirst,
      ExceptT.run_lift_eq_some_ok_iff.mp hout, rfl⟩
  · -- any other array is unreachable
    obtain ⟨_, hnone, -⟩ := ExceptT.run_bind_eq_some_ok_iff.mp h
    cases ExceptT.run_lift_eq_some_ok_iff.mp hnone

/-- **The output times of a timeseries**: `query_end - i * period` for the `k` rounds
    `i < k` whose time is at or after the first input time, earliest first; round `k` is the first
    whose time falls before it. -/
theorem alignTimeseries_timestamps (h : (alignTimeseries F queryEnd period ts).run = some (.ok a)) :
    ∃ first k, ts.points.timestamps[0]? = some first ∧
      a.points.timestamps = ((List.range k).map fun (i : Nat) => queryEnd - i * period).reverse ∧
      (∀ i < k, first ≤ queryEnd - (i : Int) * period) ∧
      queryEnd - (k : Int) * period < first := by
  obtain ⟨first, mean, out, hfirst, hloop, hts⟩ := alignTimeseries_eq_ok F h
  obtain ⟨k, hmap, hkeep, hend⟩ := alignLoop_timestamps hloop
  refine ⟨first, k, hfirst, ?_, fun i hi => by simpa using hkeep i hi, by simpa using hend⟩
  rw [hts, List.map_reverse, hmap]
  simp

/-- **The output times increase strictly** for a positive period. -/
theorem alignTimeseries_sorted (hperiod : 0 < period)
    (h : (alignTimeseries F queryEnd period ts).run = some (.ok a)) :
    a.points.timestamps.Pairwise (· < ·) := by
  obtain ⟨first, k, -, hts, -⟩ := alignTimeseries_timestamps F h
  rw [hts, List.pairwise_reverse, List.pairwise_map]
  -- later rounds are further back by a multiple of the period
  have hp : (0 : Int) < period := by exact_mod_cast hperiod
  refine List.pairwise_lt_range.imp fun {i j} hij => ?_
  have hij' : (i : Int) < j := by exact_mod_cast hij
  have : (i : Int) * period < j * period := Int.mul_lt_mul_of_pos_right hij' hp
  omega

/-- The table `t` of one gauge with the one point `3` at time `t`. -/
def onePoint (hash : List (String × FieldValue) → Nat) (t : Int) : Table :=
  ⟨"t", (∅ : Finmap _).insert ((gaugePoint t 3).key hash) (gaugePoint t 3)⟩

/-- **The alignment upsamples without bound, and a zero period never ends it.** A table holds
    one gauge with one point, at time `0`; aligned by the mean within periods of `1` up to `101`,
    it comes out with `102` points, more than `MAX_UPSAMPLING_RATIO * max(1, 1) + 1 = 101`:
    `verify_max_upsampling_ratio` only bounds the gaps between input points, and one point has
    none. With a period of `0`, which the grammar accepts, and the point at `5` before the query's
    end at `10`, every round computes the output at `10` again, and the loop never ends. -/
theorem alignApply_exceeds_upsampling_bound (hash : List (String × FieldValue) → Nat) :
    (∃ out, (alignApply F hash [onePoint hash 0] 101 1).run = some (.ok [out]) ∧
      out.iter.map (fun ts => ts.points.timestamps.length) = [102] ∧
      maxUpsamplingRatio * max 1 (gaugePoint 0 3).points.timestamps.length + 1 < 102) ∧
    (alignApply F hash [onePoint hash 5] 10 0).run = none := by
  refine ⟨?_, ?_⟩
  · obtain ⟨aligned, halign⟩ : ∃ aligned,
        (alignTimeseries F 101 1 (gaugePoint 0 3)).run = some (.ok aligned) := by
      set_option maxRecDepth 20000 in exact ⟨_, rfl⟩
    obtain ⟨first, k, hfirst, hts, hkeep, hend⟩ := alignTimeseries_timestamps F halign
    have hfirst0 : first = 0 := by
      simp only [gaugePoint, List.getElem?_cons_zero, Option.some_inj] at hfirst
      exact hfirst.symm
    subst hfirst0
    -- the rounds run from `101` down to `0`
    have hk : k = 102 := by
      have hgt : 101 < k := by
        have := hend
        push_cast at this
        omega
      by_contra hne
      have := hkeep 102 (by omega)
      simp at this
    refine ⟨⟨"t", (∅ : Finmap _).insert (aligned.key hash) aligned⟩, ?_, ?_, by decide⟩
    · have halign' : alignTimeseries F 101 1 (gaugePoint 0 3) = pure aligned := halign
      simp only [onePoint, alignApply, List.mapM_cons, List.mapM_nil, alignMeanWithin_singleton,
        halign', map_pure, pure_bind]
      rfl
    · rw [AlignedTable.iter_insert_empty, List.map_singleton, hts, hk]
      simp
  · -- a zero period: the loop never ends, whatever its fuel
    have hloop : ∀ mean : Int → Int → Option (Option δ),
        alignLoop mean 10 0 5 (alignFuel 10 5) 0 [] = none :=
      fun mean => alignLoop_eq_none_of_period_eq_zero (by decide) _ _ _
    simp [onePoint, alignApply, alignMeanWithin_singleton, alignTimeseries, gaugePoint,
      Points.dimensionality, ValueArray.dataType, DataType.isNumeric, verifyMaxUpsamplingRatio,
      ExceptT.run_bind_lift, hloop]

end Omicron.Oxql
