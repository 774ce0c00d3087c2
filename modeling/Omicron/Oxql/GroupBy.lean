import Omicron.Oxql.Join

/-!
# OxQL: the group-by table operation

`GroupBy::apply` (`table_ops::group_by`) reduces the timeseries of one aligned table that agree on
some fields. Each timeseries keeps only those fields (`copy_with_fields`), and the key of what is
left picks its group. The first timeseries of a group goes into the output as it is; each later
one is merged into it: its present values are looked up by timestamp with `binary_search`,
inserted where the group lacks the timestamp, and added where it has it. The mean also counts
the values at each timestamp, and divides by the counts at the end.

* `GroupBy.apply`, `reduceSum`, `reduceMean` -- the operation and its two reducers;
* `mergeSumPoint`, `mergeMeanPoint` -- one present value merged into a group;
* `mem_timestamps_mergeSum`, `mem_timestamps_mergeMean` -- **a merge adds exactly the timestamps
  where the new timeseries has a value**: a timestamp where its value is missing is not added;
* `reduceSumStep_eq_ok` -- what one round of the sum's loop does to the output;
* `timestampsFrom_reduceSum` -- every timestamp of the output is a timestamp of an input;
* `reduceSum_drops_missing_timestamp` -- a group whose output lacks a timestamp of its inputs.

An aligned table holds what `align` makes: gauges of doubles, one dimension, with `f64` left
abstract (`F64`). So the checks of `check_input_timeseries` on the dimension, the data type and
the metric type pass, and the sum's `Integer` arm and the casts to doubles do nothing here.
-/

namespace Omicron.Oxql

/-- `Reducer`. -/
inductive Reducer where
  | mean
  | sum
  deriving DecidableEq, Repr

/-- `GroupBy`: the fields to group by, and the reducer. -/
structure GroupBy where
  identifiers : List String
  reducer : Reducer

variable {δ : Type}

/-! ## 1. The input -/

namespace AlignedTimeseries

/-- `Timeseries::copy_with_fields`: only the kept fields, each of which the timeseries must have. -/
def copyWithFields (ts : AlignedTimeseries δ) (keptFields : List String) :
    Except String (AlignedTimeseries δ) := do
  let fields ← keptFields.foldlM (fun (fields : Fields) field =>
    match ts.fields.lookup field with
    | none => throw ("Timeseries does not contain field '" ++ field ++ "'")
    | some f => pure (fields.insert field f)) ∅
  pure { ts with fields }

end AlignedTimeseries

namespace AlignedTable

variable (alignmentOf : AlignedTimeseries δ → Option Alignment)

/-- `Table::is_aligned` over aligned timeseries; the alignment a timeseries carries comes from
    outside, as for `Table.isAligned`. -/
def isAligned (t : AlignedTable δ) : Bool :=
  match t.iter with
  | [] => false
  | first :: rest =>
    match alignmentOf first with
    | none => false
    | some alignment => rest.all fun ts => alignmentOf ts == some alignment

end AlignedTable

/-- `GroupBy::check_input_timeseries` on an aligned timeseries. Its one dimension of doubles is
    numeric and a gauge, so only the first check can fail. -/
def checkInputTimeseries (input : AlignedTimeseries δ) : Except String Unit :=
  if input.points.values.length = 0 then throw "Timeseries cannot be empty" else pure ()

/-- The timestamps of a timeseries with its present values: the `filter_map` over the `zip` of
    the timestamps and the values. -/
def presentPoints (p : AlignedPoints δ) : List (Int × δ) :=
  (p.timestamps.zip p.values).filterMap fun (timestamp, value) => value.map (timestamp, ·)

/-! ## 2. The merges -/

variable (F : F64 δ)

/-- One round of the sum's merge: a timestamp the group lacks is inserted where `binary_search`
    puts it, with its value; at one it has, the value is added, `0.0` standing for a missing one
    (`get_or_insert(0.0)`). An insertion past the end or an index out of range panics. -/
def mergeSumPoint (acc : List Int × List (Option δ)) (point : Int × δ) :
    Option (List Int × List (Option δ)) :=
  let (timestamps, values) := acc
  let (newTimestamp, newValue) := point
  match binarySearchBy timestamps (compare · newTimestamp) with
  | .error insertAt =>
    if insertAt ≤ timestamps.length ∧ insertAt ≤ values.length then
      some (timestamps.insertIdx insertAt newTimestamp, values.insertIdx insertAt (some newValue))
    else none
  | .ok ix =>
    match values[ix]? with
    | some value => some (timestamps, values.set ix (some (F.add (value.getD F.zero) newValue)))
    | none => none

/-- The merge of a new timeseries' points into its group's, the `Double` arm of `reduce_sum`: the
    rounds over its present values, then `set_timestamps` and `swap`. -/
def mergeSum (existing new : AlignedPoints δ) : Option (AlignedPoints δ) := do
  let (timestamps, values) ←
    (presentPoints new).foldlM (mergeSumPoint F) (existing.timestamps, existing.values)
  -- the rounds keep the two arrays of one length (`foldlM_mergeSumPoint`)
  if h : values.length = timestamps.length then some ⟨timestamps, values, h⟩ else none

/-- One round of the mean's merge: as the sum's, and the count at the timestamp starts at `1.0`
    (the literal, `1 as f64`) or goes up by one. The count and the timestamp must both be there
    or both be missing, or the code panics. -/
def mergeMeanPoint (acc : List Int × List (Option δ) × (Finmap fun _ : Int => δ))
    (point : Int × δ) : Option (List Int × List (Option δ) × (Finmap fun _ : Int => δ)) :=
  let (timestamps, values, counts) := acc
  let (newTimestamp, newValue) := point
  match counts.lookup newTimestamp, binarySearchBy timestamps (compare · newTimestamp) with
  | none, .error insertAt =>
    if insertAt ≤ timestamps.length ∧ insertAt ≤ values.length then
      some (timestamps.insertIdx insertAt newTimestamp, values.insertIdx insertAt (some newValue),
        counts.insert newTimestamp (F.ofNat 1))
    else none
  | some count, .ok ix =>
    match values[ix]? with
    | some value =>
      some (timestamps, values.set ix (some (F.add (value.getD F.zero) newValue)),
        counts.insert newTimestamp (F.add count (F.ofNat 1)))
    | none => none
  | _, _ => none

/-- The merge of a new timeseries into its group for the mean, with the group's counts. -/
def mergeMean (existing new : AlignedPoints δ) (counts : Finmap fun _ : Int => δ) :
    Option (AlignedPoints δ × (Finmap fun _ : Int => δ)) := do
  let (timestamps, values, counts) ←
    (presentPoints new).foldlM (mergeMeanPoint F) (existing.timestamps, existing.values, counts)
  if h : values.length = timestamps.length then some (⟨timestamps, values, h⟩, counts) else none

/-- The counts of a group's first timeseries: `1.0` at a present value and `0.0` at a missing
    one (`f64::from(maybe_value.is_some())`), collected into a map. -/
def firstCounts (p : AlignedPoints δ) : Finmap fun _ : Int => δ :=
  Finmap.ofPairs ((p.timestamps.zip p.values).map fun (timestamp, value) =>
    (timestamp, F.ofNat (if value.isSome then 1 else 0)))

/-- The division at the end of `reduce_mean`: each present value by the count at the same place
    in the counts' timestamp order (the `zip` with `counts.values()`); values past the last count
    stay as they are. -/
def AlignedPoints.divideByCounts (p : AlignedPoints δ) (counts : List δ) : AlignedPoints δ where
  timestamps := p.timestamps
  values := (p.values.zip counts).map (fun (value, count) => value.map (F.div · count)) ++
    p.values.drop counts.length
  length_values := by
    simp only [List.length_append, List.length_map, List.length_zip, List.length_drop,
      ← p.length_values]
    omega

/-! ## 3. The reducers -/

variable (hash : List (String × FieldValue) → Nat)

/-- One round of `reduce_sum`'s loop over the input: the timeseries, with only the kept fields,
    goes into its group. -/
def reduceSumStep (keptFields : List String) (out : AlignedTable δ) (input : AlignedTimeseries δ) :
    ExceptT String Option (AlignedTable δ) := do
  ExceptT.mk (some (checkInputTimeseries input))
  let dropped ← ExceptT.mk (some (input.copyWithFields keptFields))
  let key := dropped.key hash
  match out.timeseries.lookup key with
  | some existing =>
    let points ← ExceptT.lift (mergeSum F existing.points dropped.points)
    pure { out with timeseries := out.timeseries.insert key { existing with points } }
  | none => ExceptT.mk (some (out.insert hash dropped))

/-- `GroupBy::reduce_sum`. -/
def reduceSum (keptFields : List String) (table : AlignedTable δ) :
    ExceptT String Option (List (AlignedTable δ)) := do
  let out ← table.iter.foldlM (reduceSumStep F hash keptFields) (AlignedTable.new table.name)
  pure [out]

/-- One round of `reduce_mean`'s loop over the input, with the counts of every group so far. -/
def reduceMeanStep (keptFields : List String)
    (acc : AlignedTable δ × (Finmap fun _ : Nat => Finmap fun _ : Int => δ))
    (input : AlignedTimeseries δ) :
    ExceptT String Option (AlignedTable δ × (Finmap fun _ : Nat => Finmap fun _ : Int => δ)) := do
  let (out, countsByGroup) := acc
  ExceptT.mk (some (checkInputTimeseries input))
  let dropped ← ExceptT.mk (some (input.copyWithFields keptFields))
  let key := dropped.key hash
  match out.timeseries.lookup key with
  | some existing =>
    -- the `expect` of the group's counts
    let counts ← ExceptT.lift (countsByGroup.lookup key)
    let (points, counts) ← ExceptT.lift (mergeMean F existing.points dropped.points counts)
    pure ({ out with timeseries := out.timeseries.insert key { existing with points } },
      countsByGroup.insert key counts)
  | none =>
    -- `assert!(old.is_none())` on the counts the group replaces
    if key ∈ countsByGroup then ExceptT.lift none
    let out ← ExceptT.mk (some (out.insert hash dropped))
    pure (out, countsByGroup.insert key (firstCounts F dropped.points))

/-- `GroupBy::reduce_mean`: the loop, then each group divided by its counts. -/
def reduceMean (keptFields : List String) (table : AlignedTable δ) :
    ExceptT String Option (List (AlignedTable δ)) := do
  let (out, countsByGroup) ←
    table.iter.foldlM (reduceMeanStep F hash keptFields) (AlignedTable.new table.name, ∅)
  let timeseries ← out.timeseries.sortedEntries.foldlM (fun (timeseries : Finmap _) entry => do
      let (k, each) := entry
      -- the `expect` of the counts of each output timeseries
      let counts ← ExceptT.lift (countsByGroup.lookup (each.key hash))
      pure (timeseries.insert k
        { each with points := each.points.divideByCounts F counts.sortedValues }))
    out.timeseries
  pure [{ out with timeseries }]

variable (alignmentOf : AlignedTimeseries δ → Option Alignment)

/-- `GroupBy::apply`. -/
def GroupBy.apply (g : GroupBy) (tables : List (AlignedTable δ)) :
    ExceptT String Option (List (AlignedTable δ)) :=
  match tables with
  | [table] => do
    if table.iter.length = 0 then throw "Input tables to a `group_by` must not be empty"
    if !table.isAligned alignmentOf then throw "Input tables to a `group_by` must be aligned"
    match g.reducer with
    | .mean => reduceMean F hash g.identifiers table
    | .sum => reduceSum F hash g.identifiers table
  | _ => throw "Group by operations require exactly one table"

/-! ## 4. What a merge adds

A round of a merge inserts its timestamp where the group lacks it and finds it where the group has
it, so the timestamps after the round are those before and its own (`mergeSumPoint_spec`); this
needs neither order nor uniqueness of the timestamps. Only the present values are merged, so a
timestamp where the new timeseries' value is missing is not added. -/

/-- A round of the sum's merge succeeds on arrays of one length, keeps them of one length, and
    adds its timestamp. -/
theorem mergeSumPoint_spec {acc : List Int × List (Option δ)} (point : Int × δ)
    (hlen : acc.2.length = acc.1.length) :
    ∃ acc', mergeSumPoint F acc point = some acc' ∧ acc'.2.length = acc'.1.length ∧
      ∀ τ, τ ∈ acc'.1 ↔ τ ∈ acc.1 ∨ τ = point.1 := by
  obtain ⟨timestamps, values⟩ := acc
  obtain ⟨newTimestamp, newValue⟩ := point
  unfold mergeSumPoint
  dsimp only at hlen ⊢
  split
  · rename_i insertAt hsearch
    have hle := binarySearchBy_error_le hsearch
    rw [if_pos (And.intro hle (hlen ▸ hle))]
    refine ⟨_, rfl, ?_, fun τ => ?_⟩
    · simp only [List.length_insertIdx_of_le_length hle, List.length_insertIdx_of_le_length (hlen ▸ hle), hlen]
    · rw [List.mem_insertIdx hle, or_comm]
  · rename_i ix hsearch
    obtain ⟨hix, heq⟩ := binarySearchBy_sound hsearch
    have hv : ix < values.length := hlen ▸ hix
    rw [List.getElem?_eq_getElem hv]
    refine ⟨_, rfl, by simp [hlen], fun τ => ?_⟩
    -- the timestamp is there already
    have hts : timestamps[ix] = newTimestamp := compare_eq_iff_eq.mp heq
    refine ⟨Or.inl, ?_⟩
    rintro (h | rfl)
    · exact h
    · exact hts ▸ List.getElem_mem hix

/-- The rounds of the sum's merge add the timestamps they run over. -/
theorem foldlM_mergeSumPoint : ∀ (points : List (Int × δ)) {acc : List Int × List (Option δ)},
    acc.2.length = acc.1.length →
    ∃ acc', points.foldlM (mergeSumPoint F) acc = some acc' ∧ acc'.2.length = acc'.1.length ∧
      ∀ τ, τ ∈ acc'.1 ↔ τ ∈ acc.1 ∨ τ ∈ points.map Prod.fst
  | [], acc, hlen => ⟨acc, rfl, hlen, fun τ => by simp⟩
  | point :: points, acc, hlen => by
    obtain ⟨acc₁, h₁, hlen₁, hmem₁⟩ := mergeSumPoint_spec F point hlen
    obtain ⟨acc', h', hlen', hmem'⟩ := foldlM_mergeSumPoint points hlen₁
    refine ⟨acc', by rw [List.foldlM_cons, h₁]; exact h', hlen', fun τ => ?_⟩
    rw [hmem', hmem₁, List.map_cons, List.mem_cons]
    tauto

theorem mem_presentPoints {p : AlignedPoints δ} {τ : Int} :
    τ ∈ (presentPoints p).map Prod.fst ↔ ∃ v, (τ, some v) ∈ p.timestamps.zip p.values := by
  simp [presentPoints, List.mem_filterMap, Option.map_eq_some_iff]

/-- **The sum's merge adds exactly the timestamps where the new timeseries has a value.** -/
theorem mem_timestamps_mergeSum (existing new : AlignedPoints δ) :
    ∃ merged, mergeSum F existing new = some merged ∧ ∀ τ, τ ∈ merged.timestamps ↔
      τ ∈ existing.timestamps ∨ ∃ v, (τ, some v) ∈ new.timestamps.zip new.values := by
  obtain ⟨⟨timestamps, values⟩, hloop, hlen, hmem⟩ :=
    @foldlM_mergeSumPoint δ F (presentPoints new) (existing.timestamps, existing.values)
      existing.length_values
  refine ⟨⟨timestamps, values, hlen⟩, ?_, fun τ => ?_⟩
  · simp only [mergeSum, hloop, Option.bind_eq_bind, Option.bind_some, dif_pos hlen]
  · rw [← mem_presentPoints]
    exact hmem τ

/-- A round of the mean's merge does to the timestamps and the values what the sum's does. -/
theorem mergeSumPoint_of_mergeMeanPoint {timestamps timestamps' : List Int}
    {values values' : List (Option δ)} {counts counts' : Finmap fun _ : Int => δ} {point : Int × δ}
    (h : mergeMeanPoint F (timestamps, values, counts) point = some (timestamps', values', counts')) :
    mergeSumPoint F (timestamps, values) point = some (timestamps', values') := by
  unfold mergeMeanPoint at h
  unfold mergeSumPoint
  dsimp only at h ⊢
  split at h
  · rename_i insertAt _ hsearch
    split at h
    · rename_i hle
      cases h
      simp only [hsearch, if_pos hle]
    · cases h
  · rename_i ix _ hsearch
    split at h
    · rename_i value hvalue
      cases h
      simp only [hsearch, hvalue]
    · cases h
  · cases h

theorem foldlM_mergeSumPoint_of_mergeMeanPoint : ∀ (points : List (Int × δ))
    {timestamps timestamps' : List Int} {values values' : List (Option δ)}
    {counts counts' : Finmap fun _ : Int => δ},
    points.foldlM (mergeMeanPoint F) (timestamps, values, counts) =
      some (timestamps', values', counts') →
    points.foldlM (mergeSumPoint F) (timestamps, values) = some (timestamps', values')
  | [], _, _, _, _, _, _, h => by
    simp only [List.foldlM_nil, Option.pure_def, Option.some.injEq, Prod.mk.injEq] at h ⊢
    exact ⟨h.1, h.2.1⟩
  | point :: points, _, _, _, _, _, _, h => by
    rw [List.foldlM_cons] at h ⊢
    obtain ⟨⟨timestamps₁, values₁, counts₁⟩, h₁, hrest⟩ := Option.bind_eq_some_iff.mp h
    rw [mergeSumPoint_of_mergeMeanPoint F h₁]
    exact foldlM_mergeSumPoint_of_mergeMeanPoint points hrest

/-- The mean merges the timestamps and the values as the sum does. -/
theorem mergeSum_of_mergeMean {existing new merged : AlignedPoints δ}
    {counts counts' : Finmap fun _ : Int => δ}
    (h : mergeMean F existing new counts = some (merged, counts')) :
    mergeSum F existing new = some merged := by
  unfold mergeMean at h
  obtain ⟨⟨timestamps, values, counts₁⟩, hloop, h⟩ := Option.bind_eq_some_iff.mp h
  dsimp only at h
  split at h
  · rename_i hlen
    cases h
    simp only [mergeSum, foldlM_mergeSumPoint_of_mergeMeanPoint F _ hloop, Option.bind_eq_bind,
      Option.bind_some, dif_pos hlen]
  · cases h

/-- **The mean's merge, where it succeeds, adds the same timestamps as the sum's.** -/
theorem mem_timestamps_mergeMean {existing new merged : AlignedPoints δ}
    {counts counts' : Finmap fun _ : Int => δ}
    (h : mergeMean F existing new counts = some (merged, counts')) (τ : Int) :
    τ ∈ merged.timestamps ↔
      τ ∈ existing.timestamps ∨ ∃ v, (τ, some v) ∈ new.timestamps.zip new.values := by
  obtain ⟨merged', hsum, hmem⟩ := mem_timestamps_mergeSum F existing new
  rw [mergeSum_of_mergeMean F h, Option.some.injEq] at hsum
  exact hsum ▸ hmem τ

/-! ## 5. The rounds of the sum -/

/-- A successful round of `reduce_sum`'s loop: the timeseries with the kept fields is merged into
    its group, or starts a group. -/
theorem reduceSumStep_eq_ok {keptFields : List String} {out out' : AlignedTable δ}
    {input : AlignedTimeseries δ}
    (h : (reduceSumStep F hash keptFields out input).run = some (.ok out')) :
    ∃ dropped, input.copyWithFields keptFields = .ok dropped ∧
      ((∃ existing merged, out.timeseries.lookup (dropped.key hash) = some existing ∧
          mergeSum F existing.points dropped.points = some merged ∧
          out' = { out with timeseries :=
            out.timeseries.insert (dropped.key hash) { existing with points := merged } }) ∨
       (out.timeseries.lookup (dropped.key hash) = none ∧ out.insert hash dropped = .ok out')) := by
  unfold reduceSumStep at h
  obtain ⟨_, -, h⟩ := ExceptT.run_bind_eq_some_ok_iff.mp h
  obtain ⟨dropped, hdropped, h⟩ := ExceptT.run_bind_eq_some_ok_iff.mp h
  simp only [ExceptT.run_mk, Option.some.injEq] at hdropped
  refine ⟨dropped, hdropped, ?_⟩
  dsimp only at h
  split at h
  · rename_i existing hexisting
    obtain ⟨merged, hmerged, h⟩ := ExceptT.run_bind_eq_some_ok_iff.mp h
    rw [ExceptT.run_lift_eq_some_ok_iff] at hmerged
    exact .inl ⟨existing, merged, hexisting, hmerged, (ExceptT.run_pure_eq_some_ok_iff.mp h).symm⟩
  · rename_i hnone
    simp only [ExceptT.run_mk, Option.some.injEq] at h
    exact .inr ⟨hnone, h⟩
/-- The round of a timeseries whose group exists. -/
theorem reduceSumStep_of_lookup_some {keptFields : List String} (out : AlignedTable δ)
    {input dropped existing : AlignedTimeseries δ} {merged : AlignedPoints δ}
    (hcheck : checkInputTimeseries input = .ok ())
    (hdropped : input.copyWithFields keptFields = .ok dropped)
    (hexisting : out.timeseries.lookup (dropped.key hash) = some existing)
    (hmerged : mergeSum F existing.points dropped.points = some merged) :
    (reduceSumStep F hash keptFields out input).run =
      some (.ok { out with
        timeseries := out.timeseries.insert (dropped.key hash) { existing with points := merged } })
      := by
  unfold reduceSumStep
  rw [ExceptT.run_bind_of_run_eq (by rw [ExceptT.run_mk, hcheck]),
    ExceptT.run_bind_of_run_eq (by rw [ExceptT.run_mk, hdropped])]
  dsimp only
  rw [hexisting, ExceptT.run_bind_of_run_eq (by rw [ExceptT.run_lift_eq_some_ok_iff, hmerged])]
  rfl

/-- The round of a timeseries that starts a group. -/
theorem reduceSumStep_of_lookup_none {keptFields : List String} (out : AlignedTable δ)
    {input dropped : AlignedTimeseries δ}
    (hcheck : checkInputTimeseries input = .ok ())
    (hdropped : input.copyWithFields keptFields = .ok dropped)
    (hnone : out.timeseries.lookup (dropped.key hash) = none) :
    (reduceSumStep F hash keptFields out input).run = some (out.insert hash dropped) := by
  unfold reduceSumStep
  rw [ExceptT.run_bind_of_run_eq (by rw [ExceptT.run_mk, hcheck]),
    ExceptT.run_bind_of_run_eq (by rw [ExceptT.run_mk, hdropped])]
  dsimp only
  rw [hnone]
  rfl
/-- A table that passes the checks goes to its reducer. -/
theorem apply_sum {identifiers : List String} {table : AlignedTable δ}
    (hlen : table.iter.length ≠ 0) (haligned : table.isAligned alignmentOf = true) :
    (GroupBy.apply F hash alignmentOf ⟨identifiers, .sum⟩ [table]).run =
      (reduceSum F hash identifiers table).run := by
  simp [GroupBy.apply, hlen, haligned]

theorem copyWithFields_points {ts dropped : AlignedTimeseries δ} {keptFields : List String}
    (h : ts.copyWithFields keptFields = .ok dropped) : dropped.points = ts.points := by
  unfold AlignedTimeseries.copyWithFields at h
  obtain ⟨fields, -, h⟩ := Except.bind_eq_ok_iff.mp h
  rw [Except.pure_eq_ok_iff] at h
  rw [← h]

theorem AlignedTable.insert_eq_ok {t t' : AlignedTable δ} {ts : AlignedTimeseries δ}
    (h : t.insert hash ts = .ok t') :
    t' = { t with timeseries := t.timeseries.insert (ts.key hash) ts } := by
  unfold AlignedTable.insert at h
  split at h
  · dsimp only at h
    split at h
    · cases h
    · cases h
      rfl
  · cases h

/-- Every timestamp of the output's groups is a timestamp of some input. -/
def TimestampsFrom (inputs : List (AlignedTimeseries δ)) (out : AlignedTable δ) : Prop :=
  ∀ k g, out.timeseries.lookup k = some g → ∀ τ ∈ g.points.timestamps,
    ∃ input ∈ inputs, τ ∈ input.points.timestamps

/-- A round of the sum keeps the output's timestamps among the inputs'. -/
theorem TimestampsFrom.reduceSumStep {inputs : List (AlignedTimeseries δ)}
    {keptFields : List String} {out out' : AlignedTable δ} {input : AlignedTimeseries δ}
    (hinv : TimestampsFrom inputs out) (hinput : input ∈ inputs)
    (h : (reduceSumStep F hash keptFields out input).run = some (.ok out')) :
    TimestampsFrom inputs out' := by
  obtain ⟨dropped, hdropped, h⟩ := reduceSumStep_eq_ok F hash h
  have hpoints := copyWithFields_points hdropped
  intro k g hk τ hτ
  rcases h with ⟨existing, merged, hexisting, hmerged, rfl⟩ | ⟨-, hinsert⟩
  -- merged into a group: its timestamps, and the new timeseries' present ones
  · by_cases hkey : k = dropped.key hash
    · subst hkey
      rw [Finmap.lookup_insert, Option.some.injEq] at hk
      subst hk
      obtain ⟨merged', hmerged', hmem⟩ := mem_timestamps_mergeSum F existing.points dropped.points
      rw [hmerged, Option.some.injEq] at hmerged'
      subst hmerged'
      rcases (hmem τ).mp hτ with hold | ⟨v, hv⟩
      · exact hinv _ _ hexisting τ hold
      · exact ⟨input, hinput, hpoints ▸ (List.of_mem_zip hv).1⟩
    · rw [Finmap.lookup_insert_of_ne _ hkey] at hk
      exact hinv k g hk τ hτ
  -- a new group: the new timeseries itself
  · rw [AlignedTable.insert_eq_ok hash hinsert] at hk
    by_cases hkey : k = dropped.key hash
    · subst hkey
      rw [Finmap.lookup_insert, Option.some.injEq] at hk
      subst hk
      exact ⟨input, hinput, hpoints ▸ hτ⟩
    · rw [Finmap.lookup_insert_of_ne _ hkey] at hk
      exact hinv k g hk τ hτ

/-- **No timestamp is made up**: every timestamp of the sum's output is one of an input. -/
theorem timestampsFrom_reduceSum {keptFields : List String} {table : AlignedTable δ}
    {result : List (AlignedTable δ)}
    (h : (reduceSum F hash keptFields table).run = some (.ok result)) :
    ∃ out, result = [out] ∧ TimestampsFrom table.iter out := by
  unfold reduceSum at h
  obtain ⟨out, hloop, h⟩ := ExceptT.run_bind_eq_some_ok_iff.mp h
  refine ⟨out, (ExceptT.run_pure_eq_some_ok_iff.mp h).symm, ?_⟩
  have hnew : TimestampsFrom table.iter (AlignedTable.new table.name : AlignedTable δ) := by
    intro k g hk
    simp [AlignedTable.new, Finmap.lookup_empty] at hk
  exact ExceptT.run_foldlM_inv_of_mem (TimestampsFrom table.iter) _
    (fun _ input _ hinput hb hstep => hb.reduceSumStep F hash hinput hstep) hnew hloop

/-! ## 6. A timestamp with no value

Two gauges of one group, the first aligned to `10, 20, 30` with no value at `20` and the second to
`30` only. The sorted union of their timestamps is `10, 20, 30`; when the second comes first, the
output has `10, 30`. The key hash is a parameter: this holds for every hash that puts the second's
fields first. -/

/-- A gauge of the group `g = 0`, told apart by `s = 1`, aligned to `10, 20, 30` with no value at
    `20`: what `align` makes of samples at `5` and `25` with a period of `10`. -/
def gappedSeries : AlignedTimeseries δ where
  fields := ((∅ : Fields).insert "g" (.i64 0)).insert "s" (.i64 1)
  points := ⟨[10, 20, 30], [some (F.ofNat 1), none, some (F.ofNat 1)], rfl⟩

/-- A gauge of the same group, with `s = 2`, aligned to `30` only: a sample at `25`. -/
def shortSeries : AlignedTimeseries δ where
  fields := ((∅ : Fields).insert "g" (.i64 0)).insert "s" (.i64 2)
  points := ⟨[30], [some (F.ofNat 2)], rfl⟩

theorem fromTimeseries_gapped_short (hne : (gappedSeries F).key hash ≠ (shortSeries F).key hash) :
    AlignedTable.fromTimeseries hash "t" [gappedSeries F, shortSeries F] =
      .ok ⟨"t", ((∅ : Finmap _).insert ((gappedSeries F).key hash) (gappedSeries F)).insert
        ((shortSeries F).key hash) (shortSeries F)⟩ := by
  have hm : (gappedSeries F).matchesSchema (shortSeries F) = true := rfl
  simp only [AlignedTable.fromTimeseries, List.foldlM_cons, AlignedTable.insert_new]
  simp [AlignedTable.insert, hm, hne.symm, Finmap.notMem_empty, bind, Except.bind, pure, Except.pure]

/-- **A timestamp where a later timeseries of a group has no value is not in the output**, though
    it is one of the group's inputs. When the short timeseries comes first, the sum's output has
    the timestamps `10` and `30`, not `20`. -/
theorem reduceSum_drops_missing_timestamp (alignment : Alignment)
    (hlt : (shortSeries F).key hash < (gappedSeries F).key hash) :
    ∃ table t ts,
      AlignedTable.fromTimeseries hash "t" [gappedSeries F, shortSeries F] = .ok table ∧
      table.isAligned (fun _ => some alignment) = true ∧
      (GroupBy.apply F hash (fun _ => some alignment) ⟨["g"], .sum⟩ [table]).run =
        some (.ok [t]) ∧
      t.iter = [ts] ∧ (20 : Int) ∈ (gappedSeries F).points.timestamps ∧
      (20 : Int) ∉ ts.points.timestamps := by
  -- the input iterates by key: the short timeseries first
  have hiter : (⟨"t", ((∅ : Finmap _).insert ((gappedSeries F).key hash) (gappedSeries F)).insert
      ((shortSeries F).key hash) (shortSeries F)⟩ : AlignedTable δ).iter =
      [shortSeries F, gappedSeries F] := by
    have hl := Finmap.sortedEntries_insert_insert_of_lt hlt (shortSeries F) (gappedSeries F)
    rw [Finmap.insert_insert_of_ne _ hlt.ne] at hl
    simp [AlignedTable.iter, Finmap.sortedValues, hl]
  -- both keep the field `g = 0`, so they fall into one group
  have hdropS : (shortSeries F).copyWithFields ["g"] =
      .ok ⟨(∅ : Fields).insert "g" (.i64 0), (shortSeries F).points⟩ := rfl
  have hdropG : (gappedSeries F).copyWithFields ["g"] =
      .ok ⟨(∅ : Fields).insert "g" (.i64 0), (gappedSeries F).points⟩ := rfl
  obtain ⟨merged, hmerged, hmem⟩ :=
    mem_timestamps_mergeSum F (shortSeries F).points (gappedSeries F).points
  have hfirst := reduceSumStep_of_lookup_none F hash (AlignedTable.new "t") rfl hdropS
    (by simp [AlignedTable.new, Finmap.lookup_empty])
  rw [AlignedTable.insert_new] at hfirst
  have hsecond := reduceSumStep_of_lookup_some F hash
    ⟨"t", (∅ : Finmap _).insert (AlignedTimeseries.key hash
      ⟨(∅ : Fields).insert "g" (.i64 0), (shortSeries F).points⟩)
      ⟨(∅ : Fields).insert "g" (.i64 0), (shortSeries F).points⟩⟩
    rfl hdropG (Finmap.lookup_insert _) hmerged
  refine ⟨_, ⟨"t", ((∅ : Finmap _).insert (AlignedTimeseries.key hash
      ⟨(∅ : Fields).insert "g" (.i64 0), (shortSeries F).points⟩)
      ⟨(∅ : Fields).insert "g" (.i64 0), (shortSeries F).points⟩).insert (AlignedTimeseries.key hash
      ⟨(∅ : Fields).insert "g" (.i64 0), (gappedSeries F).points⟩)
      ⟨(∅ : Fields).insert "g" (.i64 0), merged⟩⟩, ⟨(∅ : Fields).insert "g" (.i64 0), merged⟩,
    fromTimeseries_gapped_short F hash hlt.ne', by simp [AlignedTable.isAligned, hiter], ?_, ?_, by simp [gappedSeries], ?_⟩
  · rw [apply_sum F hash _ (by simp [hiter]) (by simp [AlignedTable.isAligned, hiter]),
      reduceSum, ExceptT.run_bind_of_run_eq]
    · rfl
    rw [hiter, List.foldlM_cons, ExceptT.run_bind_of_run_eq hfirst, List.foldlM_cons,
      ExceptT.run_bind_of_run_eq hsecond, List.foldlM_nil]
    rfl
  · -- the merge replaces the group at its own key
    have hkey : AlignedTimeseries.key hash
        (⟨(∅ : Fields).insert "g" (.i64 0), (gappedSeries F).points⟩ : AlignedTimeseries δ) =
        AlignedTimeseries.key hash ⟨(∅ : Fields).insert "g" (.i64 0), (shortSeries F).points⟩ := rfl
    rw [hkey, Finmap.insert_insert]
    exact AlignedTable.iter_insert_empty _ _ _
  · rw [hmem]
    simp [shortSeries, gappedSeries]

/-- An `f64` that computes nothing, for an instance that does not look at the values. -/
def unitF64 : F64 Unit :=
  ⟨fun _ => (), fun _ => (), fun _ => (), (), fun _ _ => (), fun _ _ => (), fun _ _ => (),
    fun _ _ => true, fun _ _ => false, fun _ _ => true⟩

/-- A key hash that puts the short timeseries first. -/
def shortFirstHash (fields : List (String × FieldValue)) : Nat :=
  if fields = [("g", .i64 0), ("s", .i64 2)] then 0 else 1

theorem reduceSum_drops_missing_timestamp_shortFirst :
    (shortSeries unitF64).key shortFirstHash < (gappedSeries unitF64).key shortFirstHash ∧
      ∃ table t ts,
        AlignedTable.fromTimeseries shortFirstHash "t" [gappedSeries unitF64, shortSeries unitF64] =
          .ok table ∧
        table.isAligned (fun _ => some ⟨30, 10⟩) = true ∧
        (GroupBy.apply unitF64 shortFirstHash (fun _ => some ⟨30, 10⟩) ⟨["g"], .sum⟩ [table]).run =
          some (.ok [t]) ∧
        t.iter = [ts] ∧ (20 : Int) ∈ (gappedSeries unitF64).points.timestamps ∧
        (20 : Int) ∉ ts.points.timestamps :=
  have hlt : (shortSeries unitF64).key shortFirstHash < (gappedSeries unitF64).key shortFirstHash :=
    by decide
  ⟨hlt, reduceSum_drops_missing_timestamp unitF64 shortFirstHash ⟨30, 10⟩ hlt⟩

end Omicron.Oxql
