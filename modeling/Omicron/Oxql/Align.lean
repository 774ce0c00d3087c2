import Omicron.Oxql.FilterOp
import Omicron.Lib.BinarySearch

/-!
# OxQL: alignment by the mean within a period

`align_mean_within` (`table_ops::align`) turns each timeseries of a table into a gauge of doubles
sampled at `query_end - k * period`, from the query's end back to the first timestamp of the
timeseries. The value at `t` is the mean of the input in the window `(t - period, t]`: the
points of a gauge that fall in it, or the points of a delta weighted by how much of their
interval it covers.

* `F64` -- the floating-point arithmetic the code does, left abstract: every result here holds
  for every implementation of it;
* `verifyMaxUpsamplingRatio`, `partitionPoint`, `meanGaugeValueInWindow`,
  `fractionOverlapWithWindow`, `meanDeltaValueInWindow` -- the helpers of the source;
* `alignLoop`, `alignTimeseries`, `alignMeanWithin` -- the loop over the output times, one
  timeseries, one table;
* `AlignedTable`, `Filter.applyAligned` -- the output, and `Filter::apply` over it.

The monad is `ExceptT String Option`: an error is the source's `anyhow` error, and `none` a panic
(an `assert!`, an `unwrap`, an index out of range) or a loop that does not end, which is what a
zero period gives (`alignLoop_eq_none_of_period_eq_zero`). Timestamps are nanoseconds as `Int`,
so the overflow checks of `chrono` never fire here.
-/

namespace Omicron.Oxql

/-- `f64`, as the alignment and the filters over its output use it: the conversions `as f64` of
    an integer and of a count, the value of a double literal, `0.0`, `+`, `*`, `/`, and the
    comparisons `==`, `<`, `<=`. -/
structure F64 (δ : Type) where
  ofInt : Int → δ
  ofNat : Nat → δ
  ofLiteral : String → δ
  zero : δ
  add : δ → δ → δ
  mul : δ → δ → δ
  div : δ → δ → δ
  eq : δ → δ → Bool
  lt : δ → δ → Bool
  le : δ → δ → Bool

/-- `DataType::is_numeric`. -/
def DataType.isNumeric : DataType → Bool
  | .integer | .double => true
  | _ => false

/-- `MetricType`'s `Display`, its `Debug` text. -/
def MetricType.text : MetricType → String
  | .gauge => "Gauge"
  | .delta => "Delta"
  | .cumulative => "Cumulative"

/-! ## 1. The aligned output -/

/-- The points `align_mean_within` builds: one gauge dimension of doubles and no start times
    (`Points::new(None, timestamps, vec![values])`). -/
structure AlignedPoints (δ : Type) where
  timestamps : List Int
  values : List (Option δ)
  length_values : values.length = timestamps.length

/-- A timeseries of the output: the input's fields, and its aligned points. -/
structure AlignedTimeseries (δ : Type) where
  fields : Fields
  points : AlignedPoints δ

/-- A table of aligned timeseries, by key. -/
structure AlignedTable (δ : Type) where
  name : String
  timeseries : Finmap fun _ : Nat => AlignedTimeseries δ

variable {δ : Type}

namespace AlignedPoints

/-- `Points::filter` on aligned points. -/
def filter (p : AlignedPoints δ) (toKeep : List Bool) : Except String (AlignedPoints δ) :=
  if h : toKeep.length = p.timestamps.length then
    .ok
      { timestamps := selectByMask toKeep p.timestamps
        values := selectByMask toKeep p.values
        length_values := by
          rw [length_selectByMask (p.length_values.trans h.symm),
            length_selectByMask h.symm] }
  else .error "Filter array must be the same length as self"

end AlignedPoints

namespace AlignedTimeseries

/-- `Timeseries::key`. -/
def key (hash : List (String × FieldValue) → Nat) (ts : AlignedTimeseries δ) : Nat :=
  hash ts.fields.sortedEntries

/-- `Timeseries::matches_schema` between aligned timeseries: the field names and types. Their
    data and metric types are `[Double]` and `[Gauge]` on both sides. -/
def matchesSchema (self other : AlignedTimeseries δ) : Bool :=
  self.fields.sortedEntries.length == other.fields.sortedEntries.length &&
    ((self.fields.sortedEntries.zip other.fields.sortedEntries).all fun (f0, f1) =>
      f0.1 == f1.1 && f0.2.fieldType == f1.2.fieldType)

/-- `Timeseries::copy_with_points`. -/
def copyWithPoints (ts : AlignedTimeseries δ) (keptPoints : AlignedPoints δ) :
    Option (AlignedTimeseries δ) :=
  if keptPoints.timestamps.isEmpty then none else some { ts with points := keptPoints }

end AlignedTimeseries

namespace AlignedTable

variable (hash : List (String × FieldValue) → Nat)

/-- `Table::new`. -/
def new (name : String) : AlignedTable δ := ⟨name, ∅⟩

/-- `Table::iter`. -/
def iter (t : AlignedTable δ) : List (AlignedTimeseries δ) := t.timeseries.sortedValues

/-- `Table::insert`. -/
def insert (t : AlignedTable δ) (ts : AlignedTimeseries δ) : Except String (AlignedTable δ) :=
  if (t.iter.head?.map fun first => first.matchesSchema ts).getD true then
    let key := ts.key hash
    if key ∈ t.timeseries then .error ("Timeseries with key " ++ toString key ++ " already exists")
    else .ok { t with timeseries := t.timeseries.insert key ts }
  else .error "Timeseries in a table must have the same schema"

/-- `Table::from_timeseries`. -/
def fromTimeseries (name : String) (ts : List (AlignedTimeseries δ)) :
    Except String (AlignedTable δ) :=
  ts.foldlM (insert hash) (new name)

@[simp] theorem iter_new (name : String) : (new name : AlignedTable δ).iter = [] := by
  simp [new, iter, Finmap.sortedValues, Finmap.sortedEntries]

/-- A timeseries goes into an empty table. -/
theorem insert_new (name : String) (ts : AlignedTimeseries δ) :
    (new name).insert hash ts = .ok ⟨name, (∅ : Finmap _).insert (ts.key hash) ts⟩ := by
  simp only [insert, iter_new, List.head?_nil, Option.map_none, Option.getD_none, if_true]
  simp [new, Finmap.notMem_empty]

@[simp] theorem iter_insert_empty (name : String) (k : Nat) (ts : AlignedTimeseries δ) :
    (⟨name, (∅ : Finmap _).insert k ts⟩ : AlignedTable δ).iter = [ts] :=
  Finmap.sortedValues_insert_empty k ts

end AlignedTable

/-! ## 2. The helpers of `align_mean_within` -/

variable (F : F64 δ)

/-- `MAX_UPSAMPLING_RATIO`. -/
def maxUpsamplingRatio : Nat := 100

/-- `verify_max_upsampling_ratio`, over the successive pairs of timestamps: each step must be
    positive (an `assert!`) and at most `MAX_UPSAMPLING_RATIO` periods. -/
def verifyMaxUpsamplingRatio (period : Nat) : List Int → ExceptT String Option Unit
  | t0 :: t1 :: rest =>
    if t1 - t0 ≤ 0 then ExceptT.lift none
    else if ((maxUpsamplingRatio * period : Nat) : Int) < t1 - t0 then
      throw "A table alignment operation may not upsample data by more than a factor of 100"
    else verifyMaxUpsamplingRatio period (t1 :: rest)
  | _ => pure ()

/-- `<[T]>::partition_point`, as the standard library defines it: a `binary_search_by` whose
    comparison never answers `Equal`, either result giving the index. -/
def partitionPoint {α : Type} (xs : List α) (pred : α → Bool) : Nat :=
  match binarySearchBy xs fun x => if pred x then .lt else .gt with
  | .ok i => i
  | .error i => i

theorem partitionPoint_le_length {α : Type} (xs : List α) (pred : α → Bool) :
    partitionPoint xs pred ≤ xs.length := by
  unfold partitionPoint
  split
  · rename_i i hsearch
    exact (binarySearchBy_sound hsearch).1.le
  · rename_i i hsearch
    exact binarySearchBy_error_le hsearch

/-- `mean_gauge_value_in_window`: the mean of the points with a timestamp in
    `(windowStart, windowEnd]`. The sum is of the values present, the count of all the points
    in the window; a window with no points, or only missing values, has no mean. -/
def meanGaugeValueInWindow (timestamps : List Int) (inputPoints : List (Option δ))
    (windowStart windowEnd : Int) : Option (Option δ) :=
  let startIndex := partitionPoint timestamps (· ≤ windowStart)
  let outputIndex := partitionPoint timestamps (· ≤ windowEnd)
  -- the `assert!`, and the slice's bound
  if outputIndex < startIndex ∨ inputPoints.length < outputIndex then none
  else if startIndex ≠ outputIndex then
    let maybeSum := (slice startIndex outputIndex inputPoints).foldl
      (fun acc x => match x with
        | some it => some (F.add (acc.getD F.zero) it)
        | none => acc) none
    some (maybeSum.map fun outputValue => F.div outputValue (F.ofNat (outputIndex - startIndex)))
  else some none

/-- `fraction_overlap_with_window`: the part of the interval the window covers. -/
def fractionOverlapWithWindow (intervalStart intervalEnd windowStart windowEnd : Int) :
    Option δ :=
  if intervalEnd ≤ intervalStart ∨ windowEnd ≤ windowStart then none
  else
    let containedSize := F.ofInt (min windowEnd intervalEnd - max windowStart intervalStart)
    if F.lt containedSize F.zero then some F.zero
    else
      let fraction := F.div containedSize (F.ofInt (intervalEnd - intervalStart))
      if F.le F.zero fraction && F.le fraction (F.ofNat 1) then some fraction else none

/-- One point of a delta in `mean_delta_value_in_window`: its value weighted by the part of its
    interval in the window, nothing for a missing value. -/
def weightedDeltaValue (windowStart windowEnd : Int) : (Int × Int) × Option δ → Option (Option δ)
  | (_, none) => some none
  | ((start, time), some val) =>
    (fractionOverlapWithWindow F start time windowStart windowEnd).map fun fraction =>
      some (F.mul fraction val)

/-- `mean_delta_value_in_window`: the points whose start time or timestamp falls in the window,
    each weighted by its overlap; the count divided by is the points with a timestamp there. -/
def meanDeltaValueInWindow (startTimes timestamps : List Int) (inputPoints : List (Option δ))
    (windowStart windowEnd : Int) : Option (Option δ) :=
  let firstTimestamp := partitionPoint timestamps (· ≤ windowStart)
  let lastTimestamp := partitionPoint timestamps (· ≤ windowEnd)
  let firstStartTime := partitionPoint startTimes (· ≤ windowStart)
  let lastStartTime := partitionPoint startTimes (· ≤ windowEnd)
  let firstIndex := min firstTimestamp firstStartTime
  let lastIndex := max lastTimestamp lastStartTime
  if firstIndex = lastIndex then
    -- the interval lies wholly before or after the window, or it is one point
    match timestamps[firstTimestamp]?, startTimes[firstTimestamp]? with
    | some t, some s =>
      if t < windowStart ∨ windowEnd < s then some none
      else do
        let maybeVal ← inputPoints[firstTimestamp]?
        let start ← startTimes[firstStartTime]?
        weightedDeltaValue F windowStart windowEnd ((start, t), maybeVal)
    | _, _ => some none
  else if startTimes.length < lastIndex ∨ timestamps.length < lastIndex ∨
      inputPoints.length < lastIndex then none
  else do
    let count := F.ofNat (max (lastTimestamp - firstTimestamp) 1)
    let weighted ← ((slice firstIndex lastIndex startTimes).zip
      ((slice firstIndex lastIndex timestamps).zip (slice firstIndex lastIndex inputPoints))).mapM
        fun (start, time, maybeVal) => weightedDeltaValue F windowStart windowEnd ((start, time), maybeVal)
    let maybeSum := weighted.foldl
      (fun acc x => match x with
        | some it => some (F.add (acc.getD F.zero) it)
        | none => acc) none
    some (maybeSum.map fun sum => F.div sum count)

/-! ## 3. The alignment -/

/-- The `loop` of `align_mean_within`: round `ix` computes the output at
    `query_end - ix * period` from the window of one period before it, and the loop stops at the
    first output time before `firstTimestamp`. Outputs are pushed latest first. `fuel` bounds
    the rounds; it runs out only when the loop does not end. -/
def alignLoop (mean : Int → Int → Option (Option δ)) (queryEnd : Int) (period : Nat)
    (firstTimestamp : Int) : (fuel ix : Nat) → List (Int × Option δ) → Option (List (Int × Option δ))
  | 0, _, _ => none
  | fuel + 1, ix, out =>
    let outputTime := queryEnd - ix * period
    let windowStart := outputTime - period
    if outputTime < firstTimestamp then some out
    else do
      let outputValue ← mean windowStart outputTime
      alignLoop mean queryEnd period firstTimestamp fuel (ix + 1) (out ++ [(outputTime, outputValue)])

/-- The rounds the loop may take: a positive period stops it after at most
    `query_end - first_timestamp + 1` of them. -/
def alignFuel (queryEnd firstTimestamp : Int) : Nat := (queryEnd - firstTimestamp).toNat + 2

section AlignLoop

variable {mean : Int → Int → Option (Option δ)} {queryEnd firstTimestamp : Int} {period : Nat}

/-- **A zero period never ends the loop** once the query ends at or after the first timestamp:
    every round computes the output at `query_end` again. -/
theorem alignLoop_eq_none_of_period_eq_zero (hstart : firstTimestamp ≤ queryEnd) :
    ∀ fuel ix out, alignLoop mean queryEnd 0 firstTimestamp fuel ix out = none
  | 0, _, _ => rfl
  | fuel + 1, ix, out => by
    have hkeep : ¬ queryEnd - (ix : Int) * ((0 : Nat) : Int) < firstTimestamp := by simp; omega
    rw [alignLoop, if_neg hkeep]
    cases mean (queryEnd - ix * ((0 : Nat) : Int) - ((0 : Nat) : Int))
      (queryEnd - ix * ((0 : Nat) : Int)) with
    | none => rfl
    | some v => exact alignLoop_eq_none_of_period_eq_zero hstart fuel (ix + 1) _

/-- A round that does not stop moves the output time back by at least one, and the fuel left
    still covers the rounds to come. -/
theorem fuel_next {fuel ix : Nat} (hperiod : 0 < period)
    (hstop : ¬queryEnd - ix * period < firstTimestamp)
    (hfuel : (queryEnd - ix * period - firstTimestamp + 1).toNat < fuel + 1) :
    (queryEnd - ((ix + 1 : Nat) : Int) * period - firstTimestamp + 1).toNat < fuel := by
  have hp : (1 : Int) ≤ period := by exact_mod_cast hperiod
  have hmul : ((ix : Int) + 1) * period = ix * period + period := by rw [Int.add_mul, Int.one_mul]
  push_cast
  rw [hmul]
  omega

/-- **A positive period ends the loop** within `query_end - output time + 2` rounds, unless a
    window's mean panics: each round moves the output time back by at least one. -/
theorem alignLoop_isSome (hperiod : 0 < period) (hmean : ∀ a b, (mean a b).isSome) :
    ∀ (fuel ix : Nat) out, (queryEnd - ix * period - firstTimestamp + 1).toNat < fuel →
      (alignLoop mean queryEnd period firstTimestamp fuel ix out).isSome
  | 0, _, _, hfuel => absurd hfuel (Nat.not_lt_zero _)
  | fuel + 1, ix, out, hfuel => by
    rw [alignLoop]
    by_cases hstop : queryEnd - ix * period < firstTimestamp
    · rw [if_pos hstop]
      rfl
    · rw [if_neg hstop]
      obtain ⟨v, hv⟩ := Option.isSome_iff_exists.mp
        (hmean (queryEnd - ix * period - period) (queryEnd - ix * period))
      rw [hv]
      exact alignLoop_isSome hperiod hmean fuel (ix + 1) _ (fuel_next hperiod hstop hfuel)

/-- **The output times of the loop**: from round `ix` on, a loop that ends outputs
    `query_end - i * period` for the `k` rounds `i = ix, ix + 1, …` whose time is not before the
    first timestamp, and stops at the first that is. -/
theorem alignLoop_timestamps :
    ∀ {fuel ix : Nat} {out res : List (Int × Option δ)},
      alignLoop mean queryEnd period firstTimestamp fuel ix out = some res →
      ∃ k, res.map Prod.fst = out.map Prod.fst ++
          (List.range k).map (fun i => queryEnd - ((ix + i : Nat) : Int) * period) ∧
        (∀ i < k, firstTimestamp ≤ queryEnd - ((ix + i : Nat) : Int) * period) ∧
        queryEnd - ((ix + k : Nat) : Int) * period < firstTimestamp
  | 0, _, _, _, h => by cases h
  | fuel + 1, ix, out, res, h => by
    rw [alignLoop] at h
    by_cases hstop : queryEnd - ix * period < firstTimestamp
    · -- the loop stops here, with no further output
      rw [if_pos hstop] at h
      cases h
      refine ⟨0, by simp, fun i hi => absurd hi (Nat.not_lt_zero i), ?_⟩
      simpa using hstop
    · rw [if_neg hstop] at h
      obtain ⟨v, -, h⟩ := Option.bind_eq_some_iff.mp h
      obtain ⟨k, hmap, hkeep, hend⟩ := alignLoop_timestamps h
      -- this round's output time, then the `k` rounds after it
      refine ⟨k + 1, ?_, fun i hi => ?_, ?_⟩
      · rw [hmap, List.range_succ_eq_map, List.map_cons, List.map_map]
        simp only [List.map_append, List.map_cons, List.map_nil, List.append_assoc,
          List.singleton_append, Nat.add_zero, Function.comp_def, Nat.succ_eq_add_one,
          Nat.add_assoc, Nat.add_comm 1]
      · cases i with
        | zero => simpa using hstop
        | succ i =>
          have := hkeep i (by omega)
          rwa [Nat.add_assoc, Nat.add_comm 1 i] at this
      · rwa [Nat.add_assoc, Nat.add_comm 1 k] at hend

/-- The fuel `align_mean_within` gives its loop is enough for every positive period. -/
theorem alignLoop_alignFuel_isSome (hperiod : 0 < period) (hmean : ∀ a b, (mean a b).isSome) :
    (alignLoop mean queryEnd period firstTimestamp (alignFuel queryEnd firstTimestamp) 0
      []).isSome :=
  alignLoop_isSome hperiod hmean _ 0 [] (by simp only [alignFuel]; omega)

end AlignLoop

/-- The body of the loop over the timeseries of `align_mean_within`: the checks of the input,
    the conversion of its integers to doubles, and the loop; the outputs are reversed into time
    order. -/
def alignTimeseries (queryEnd : Int) (period : Nat) (ts : Timeseries) :
    ExceptT String Option (AlignedTimeseries δ) := do
  let points := ts.points
  if points.dimensionality ≠ 1 then throw "Aligning multidimensional timeseries is not yet supported"
  let values := points.values.head points.values_ne_nil
  let dataType := values.values.dataType
  if !dataType.isNumeric then
    throw ("Alignment by mean requires numeric data type, not " ++ dataType.text)
  let metricType := values.metricType
  if !(metricType = .gauge ∨ metricType = .delta) then
    throw ("Alignment by mean requires a gauge or delta metric, not " ++ metricType.text)
  verifyMaxUpsamplingRatio period points.timestamps
  let inputPoints : List (Option δ) ← match values.values with
    | .integer vs => pure (vs.map (Option.map F.ofInt))
    | _ => ExceptT.lift none
  let firstTimestamp ← ExceptT.lift points.timestamps[0]?
  let mean ← ExceptT.lift <|
    if metricType = .gauge then some (meanGaugeValueInWindow F points.timestamps inputPoints)
    else points.startTimes.map fun startTimes =>
      meanDeltaValueInWindow F startTimes points.timestamps inputPoints
  let out ← ExceptT.lift
    (alignLoop mean queryEnd period firstTimestamp (alignFuel queryEnd firstTimestamp) 0 [])
  pure ⟨ts.fields, ⟨out.reverse.map Prod.fst, out.reverse.map Prod.snd, by simp⟩⟩

variable (hash : List (String × FieldValue) → Nat)

/-- `align_mean_within`: each timeseries aligned and inserted into the output table, whose
    `insert(..).unwrap()` is a panic on an error. -/
def alignMeanWithin (table : Table) (queryEnd : Int) (period : Nat) :
    ExceptT String Option (AlignedTable δ) :=
  table.iter.foldlM (fun out ts => do
    let newTimeseries ← alignTimeseries F queryEnd period ts
    match out.insert hash newTimeseries with
    | .ok out' => pure out'
    | .error _ => ExceptT.lift none) (AlignedTable.new table.name)

/-- `Align::apply` with the method `MeanWithin`: every table aligned. -/
def alignApply (tables : List Table) (queryEnd : Int) (period : Nat) :
    ExceptT String Option (List (AlignedTable δ)) :=
  tables.mapM fun table => alignMeanWithin F hash table queryEnd period

/-- On a table of one timeseries, the alignment is that timeseries' alignment in a table of its
    own. -/
theorem alignMeanWithin_singleton (name : String) (k : Nat) (ts : Timeseries) (queryEnd : Int)
    (period : Nat) :
    alignMeanWithin F hash ⟨name, (∅ : Finmap _).insert k ts⟩ queryEnd period =
      (fun a => (⟨name, (∅ : Finmap _).insert (a.key hash) a⟩ : AlignedTable δ)) <$>
        alignTimeseries F queryEnd period ts := by
  simp only [alignMeanWithin, Table.iter_insert_empty, List.foldlM_cons, List.foldlM_nil,
    AlignedTable.insert_new, bind_pure, map_eq_pure_bind]

/-! ## 4. Filtering the aligned output -/

/-- The comparisons of `filter_points_by_datum` on doubles, the value on the left:
    `d == lit`, `d != lit`, `d > lit`, `d >= lit`, `d < lit`, `d <= lit`. -/
def Comparison.holdsF64 (cmp : Comparison) (h : cmp ≠ .like) (d lit : δ) : Bool :=
  match cmp, h with
  | .eq, _ => F.eq d lit
  | .ne, _ => !F.eq d lit
  | .gt, _ => F.lt lit d
  | .ge, _ => F.le lit d
  | .lt, _ => F.lt d lit
  | .le, _ => F.le d lit
  | .like, h => absurd rfl h

namespace SimpleFilter

/-- `SimpleFilter::filter_points_by_datum` on an array of doubles: only a double literal
    compares with it, and a missing value is not kept. -/
def filterDoublesByDatum (f : SimpleFilter) (negated : Bool) (doubles : List (Option δ)) :
    Except String (List Bool) :=
  match hv : f.value with
  | .double double =>
    .ok (doubles.map fun maybeDouble =>
      (maybeDouble.map fun d =>
        negated ^^ f.cmp.holdsF64 F (f.cmp_ne_like (by simp [hv, Literal.isString])) d
          (F.ofLiteral double)).getD false)
  | _ =>
    .error ("Cannot compare " ++ f.value.typeName ++ " literal against values of type " ++
      DataType.double.text)

/-- `SimpleFilter::filter_points` on aligned points, which have one dimension. -/
def filterAlignedPoints (f : SimpleFilter) (negated : Bool) (points : AlignedPoints δ) :
    Except String (List Bool) :=
  if f.ident = "timestamp" then f.filterPointsByTimestamp negated points.timestamps
  else if f.ident = "datum" then f.filterDoublesByDatum F negated points.values
  else .ok (List.replicate points.timestamps.length (!negated))

end SimpleFilter

namespace Filter

variable (regex : String → Except String (String → Bool))

/-- `Filter::filter_points_inner` on aligned points. -/
def filterAlignedPointsInner (points : AlignedPoints δ) :
    Filter SimpleFilter → Except String (List Bool)
  | .simple negated atom => atom.filterAlignedPoints F negated points
  | .compound negated left op right => do
    let l ← left.filterAlignedPointsInner points
    let r ← right.filterAlignedPointsInner points
    pure (List.zipWith (fun a b => negated ^^ op.apply a b) l r)

/-- The loop body of `Filter::apply` on an aligned timeseries. -/
def applyToAlignedTimeseries (f : Filter SimpleFilter) (input : AlignedTimeseries δ) :
    Except String (Option (AlignedTimeseries δ)) := do
  if ← f.rejectsField regex input.fields.sortedEntries then pure none
  else
    let toKeep ← f.filterAlignedPointsInner F input.points
    let points ← input.points.filter toKeep
    pure (input.copyWithPoints points)

/-- The names an aligned timeseries implies: those of a gauge of doubles. -/
def alignedImplicitFieldNames : Finset String :=
  (implicitFieldNamesForTypes [(.gauge, .double)]).getD ∅

/-- `Filter::apply` on aligned tables. -/
def applyAligned (f : Filter SimpleFilter) (tables : List (AlignedTable δ)) :
    Except String (List (AlignedTable δ)) :=
  match tables with
  | [] => .error "Filtering operations require at least one table"
  | first :: _ =>
    match first.iter.head? with
    | none => .ok tables
    | some firstTimeseries =>
      let notValid := f.identNames.ascending.filter fun name =>
        !(decide (name ∈ firstTimeseries.fields) || decide (name ∈ alignedImplicitFieldNames))
      if notValid.isEmpty then
        tables.mapM fun table => do
          let timeseries ← table.iter.filterMapM (f.applyToAlignedTimeseries F regex)
          AlignedTable.fromTimeseries hash table.name timeseries
      else
        .error ("The filter expression contains identifiers that are not valid for its input " ++
          "timeseries. Invalid identifiers: " ++ debugNames notValid ++ ", timeseries fields: " ++
          debugNameSet (firstTimeseries.fields.keys ∪ alignedImplicitFieldNames))

/-- On a table of one aligned timeseries whose identifiers are valid, the filter is its loop
    body. -/
theorem applyAligned_singleton (f : Filter SimpleFilter) (name : String) (k : Nat)
    (ts : AlignedTimeseries δ) (h : f.identNames ⊆ ts.fields.keys ∪ alignedImplicitFieldNames) :
    f.applyAligned F hash regex [⟨name, (∅ : Finmap _).insert k ts⟩] =
      (f.applyToAlignedTimeseries F regex ts >>= fun kept =>
        (fun t => [t]) <$> AlignedTable.fromTimeseries hash name kept.toList) := by
  have hvalid : f.identNames.ascending.filter (fun name =>
      !(decide (name ∈ ts.fields) || decide (name ∈ alignedImplicitFieldNames))) = [] := by
    rw [List.filter_eq_nil_iff]
    intro name hname
    have hmem := h (Finset.mem_ascending.mp hname)
    rw [Finset.mem_union, Finmap.mem_keys] at hmem
    rcases hmem with hm | hm <;> simp [hm]
  simp only [applyAligned, AlignedTable.iter_insert_empty, List.head?_cons, hvalid,
    List.isEmpty_nil, if_true, List.mapM_cons, List.mapM_nil, List.filterMapM_cons,
    List.filterMapM_nil]
  cases f.applyToAlignedTimeseries F regex ts with
  | error e => rfl
  | ok kept =>
    cases kept with
    | none => rfl
    | some t => rfl

end Filter

end Omicron.Oxql
