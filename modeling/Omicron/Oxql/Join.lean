import Omicron.Oxql.Pushdown

/-!
# OxQL: the join table operation

`Join::apply` (`table_ops::join`) stacks the timeseries of several tables that have the same
fields. It keeps the first table, and for each timeseries of each later table it finds the
timeseries of the first with the same key and replaces its points by the inner join of the two
(`Points::inner_join`); then it appends the later table's name to the first's. The planner
(`plan::Join::new`) checks the tables' schemas beforehand: all aligned to one period,
one-dimensional, with the same fields.

* `matchMasks`, `Points.innerJoin` -- the two-pointer walk of `inner_join`, as the masks of the
  points it keeps on each side;
* `Join.apply`, `Plan.Join.new` -- the operation and its planner;
* `keys_apply`, `lookup_apply_of_unmatched` -- **the output has exactly the first table's keys**:
  a timeseries of the first table that no later table has is never visited, and stays as it
  was, with one dimension;
* `name_apply`, `new_eq_ok` -- the output is named as the planner names it, and the planned
  schema has one dimension per input, in order;
* `apply_keeps_unmatched_timeseries` -- two tables the planner accepts, whose join keeps a
  one-dimensional timeseries.

The alignment a timeseries carries is left out of `Timeseries`; the join reads it through
`alignmentOf`. `inner_join` pushes no start times, so with delta data and a common timestamp its
points break the invariant of `Points` that every array has one length: `Points.innerJoin` is
`none` there.
-/

namespace Omicron.Oxql

/-! ## 1. The walk of `inner_join` -/

/-- The loop of `Points::inner_join` over two timestamp arrays, as the masks of the indices it
    keeps on each side: equal timestamps are kept on both sides and both advance, otherwise the
    side with the smaller one advances. The loop stops when either side runs out. -/
def matchMasks : List Int → List Int → List Bool × List Bool
  | l :: ls, r :: rs =>
    if l = r then
      ((true :: (matchMasks ls rs).1), (true :: (matchMasks ls rs).2))
    else if l < r then
      ((false :: (matchMasks ls (r :: rs)).1), (matchMasks ls (r :: rs)).2)
    else
      ((matchMasks (l :: ls) rs).1, (false :: (matchMasks (l :: ls) rs).2))
  | ls, [] => (ls.map fun _ => false, [])
  | [], rs => ([], rs.map fun _ => false)
termination_by ls rs => ls.length + rs.length

theorem length_matchMasks (ls rs : List Int) :
    (matchMasks ls rs).1.length = ls.length ∧ (matchMasks ls rs).2.length = rs.length := by
  fun_induction matchMasks ls rs <;> simp_all

/-- Both masks keep as many indices: the walk keeps them in pairs. -/
theorem count_matchMasks (ls rs : List Int) :
    (matchMasks ls rs).1.count true = (matchMasks ls rs).2.count true := by
  fun_induction matchMasks ls rs with
  -- equal timestamps: the head is kept on both sides
  | case1 ls r rs ih => simp [ih]
  | case2 l ls r rs hne hlt ih => simpa using ih
  | case3 l ls r rs hne hlt ih => simpa using ih
  | case4 ls => simp [List.count_replicate]
  | case5 rs hne => simp [List.count_replicate]

/-! ## 2. `Points::inner_join` -/

namespace Points

/-- The start times `Points::with_capacity` gives the output of `inner_join`: an empty array when
    some dimension of either side is delta or cumulative. The loop never pushes to it. -/
def innerJoinStartTimes (left right : Points) : Option (List Int) :=
  if (left.values ++ right.values).any (·.metricType.hasStartTime) then some [] else none

/-- A dimension under one of the walk's masks has as many values as the masks keep. -/
theorem len_select_matchMasks (left right : Points) :
    (∀ v ∈ left.values, (v.select (matchMasks left.timestamps right.timestamps).1).len =
      (matchMasks left.timestamps right.timestamps).1.count true) ∧
    (∀ v ∈ right.values, (v.select (matchMasks left.timestamps right.timestamps).2).len =
      (matchMasks left.timestamps right.timestamps).1.count true) := by
  obtain ⟨hl, hr⟩ := length_matchMasks left.timestamps right.timestamps
  refine ⟨fun v hv => ?_, fun v hv => ?_⟩
  · exact ValueArray.length_select ((left.length_values v hv).trans hl.symm)
  · rw [count_matchMasks]
    exact ValueArray.length_select ((right.length_values v hv).trans hr.symm)

/-- `Points::inner_join`: the timestamps both sides share, walked in order, with the left's
    dimensions and then the right's at them. `none` where these arrays do not make a `Points`:
    the start times stay empty (`innerJoinStartTimes`) while timestamps are kept. -/
def innerJoin (left right : Points) : Option Points :=
  if h : ∀ s ∈ innerJoinStartTimes left right, s.length =
      (selectByMask (matchMasks left.timestamps right.timestamps).1 left.timestamps).length then
    some
      { startTimes := innerJoinStartTimes left right
        timestamps := selectByMask (matchMasks left.timestamps right.timestamps).1 left.timestamps
        values := left.values.map (Values.select (matchMasks left.timestamps right.timestamps).1) ++
          right.values.map (Values.select (matchMasks left.timestamps right.timestamps).2)
        values_ne_nil := by simp [left.values_ne_nil]
        length_values := by
          have hts := length_selectByMask (length_matchMasks left.timestamps right.timestamps).1.symm
          obtain ⟨hl, hr⟩ := len_select_matchMasks left right
          intro v hv
          rcases List.mem_append.mp hv with hv | hv
          · obtain ⟨w, hw, rfl⟩ := List.mem_map.mp hv
            rw [hl w hw, hts]
          · obtain ⟨w, hw, rfl⟩ := List.mem_map.mp hv
            rw [hr w hw, hts]
        length_startTimes := h
        isSome_startTimes := by
          unfold innerJoinStartTimes
          split <;> simp_all [Function.comp_def] }
  else none

end Points

/-! ## 3. `Join::apply` -/

/-- `Alignment`: the end of the query and the period, in nanoseconds. -/
structure Alignment where
  endTime : Int
  period : Nat
  deriving DecidableEq

namespace Table

variable (alignmentOf : Timeseries → Option Alignment)

/-- `Table::is_aligned`: the first timeseries is aligned, and the others the same way. -/
def isAligned (t : Table) : Bool :=
  match t.iter with
  | [] => false
  | first :: rest =>
    match alignmentOf first with
    | none => false
    | some alignment => rest.all fun ts => alignmentOf ts == some alignment

/-- `Table::alignment`: the first timeseries' alignment, if the table is aligned. -/
def alignment (t : Table) : Option Alignment :=
  if t.isAligned alignmentOf then t.iter.head?.bind alignmentOf else none

/-- `Table::len`: the number of timeseries. -/
def len (t : Table) : Nat := t.iter.length

end Table

/-- `ensure_all_metric_types`. -/
def ensureAllMetricTypes (metricTypes : List MetricType) : Except String Unit :=
  if metricTypes.all (fun mt => mt == .gauge || mt == .delta) then pure ()
  else throw "Join operation requires timeseries with gauge or delta metric types"

namespace Join

-- the alignment a timeseries carries, its `Debug` text and the key hash come from outside
variable (alignmentOf : Timeseries → Option Alignment) (alignmentDebug : Alignment → String)
  (hash : List (String × FieldValue) → Nat)

/-- The body of the loop over a later table's timeseries: the timeseries of `out` with the same
    key (`iter_mut().find`) takes the inner join of its points and the next one's. -/
def joinTimeseries (metricTypes : List MetricType) (i : Nat) (out : Table) (next : Timeseries) :
    ExceptT String Option Table := do
  let newTypes := next.points.metricTypes
  ExceptT.mk (some (ensureAllMetricTypes newTypes))
  if metricTypes ≠ newTypes then throw "Input tables do not all share the same metric types"
  let key := next.key hash
  match out.timeseries.sortedEntries.find? (fun e => e.2.key hash == key) with
  | none =>
    throw ("Join failed, input table " ++ toString i ++
      " does not contain a timeseries with key " ++ toString key)
  | some (k, timeseries) =>
    let points ← ExceptT.lift (timeseries.points.innerJoin next.points)
    pure { out with timeseries := out.timeseries.insert k { timeseries with points } }

/-- The loop over the later tables: each must have the first's alignment; its timeseries are
    joined in, and its name is appended. -/
def joinTable (metricTypes : List MetricType) (alignment : Option Alignment) (out : Table)
    (entry : Table × Nat) : ExceptT String Option Table := do
  let (next, i) := entry
  if next.alignment alignmentOf ≠ alignment then
    throw ("All tables to a join operator must have the same alignment. Expected alignment: " ++
      ((alignment.map alignmentDebug).getD "") ++ ", found a table aligned with: " ++
      match next.alignment alignmentOf with
      | none => "None"
      | some found => "Some(" ++ alignmentDebug found ++ ")")
  let out ← next.iter.foldlM (joinTimeseries hash metricTypes i) out
  pure { out with name := out.name ++ "," ++ next.name }

/-- `Join::apply`. The `assert!` that an aligned table has an alignment is a panic, `none`. -/
def apply (tables : List Table) : ExceptT String Option (List Table) := do
  if tables.length ≤ 1 then throw "Join operations require more than one table"
  match tables with
  | [] => throw "Join operations require more than one table"
  | out :: rest =>
    if out.len = 0 then throw "Input tables for a join operation must not be empty"
    if !out.isAligned alignmentOf then throw "Input tables for a join operation must be aligned"
    match out.iter.head? with
    | none => throw "Input tables for a join operation may not be empty"
    | some first =>
      let metricTypes := first.points.metricTypes
      ExceptT.mk (some (ensureAllMetricTypes metricTypes))
      let alignment := out.alignment alignmentOf
      if alignment.isNone then ExceptT.lift none
      let out ← (rest.zipIdx 1).foldlM (joinTable alignmentOf alignmentDebug hash metricTypes
        alignment) out
      pure [out]

end Join

/-! ## 4. The planner -/

/-- `align::Align`: the method and the period of an `align` operation. -/
structure Align where
  method : AlignmentMethod
  period : Nat
  deriving DecidableEq

/-- `TableOpData`: the schema of a table a plan node outputs, and its alignment. -/
structure TableOpData where
  schema : TableSchema
  alignment : Option Align

/-- The fields of a schema as the planner's errors print them: `"name" (type)`, by name. -/
def fieldsText (fields : Finmap fun _ : String => FieldType) : String :=
  ", ".intercalate (fields.sortedEntries.map fun e => "\"" ++ e.1 ++ "\" (" ++ e.2.text ++ ")")

namespace Plan.Join

-- `Debug` of a `Duration`, which the errors print
variable (durationDebug : Nat → String)

/-- The error of a table that is not aligned. -/
def notAligned (table : TableOpData) : String :=
  "All input tables to a `join` operation must be aligned, but table '" ++ table.schema.name ++
    "' is not aligned"

/-- One table of the loop of `plan::Join::new`: aligned to the first's period, one-dimensional,
    with the first's fields. Its name and its one metric and data type are collected. -/
def step (first : TableOpData) (alignment : Align)
    (acc : List String × List MetricType × List DataType) (table : TableOpData) :
    ExceptT String Option (List String × List MetricType × List DataType) := do
  let some thisAlignment := table.alignment | throw (notAligned table)
  if thisAlignment.period ≠ alignment.period then
    throw ("All input tables to a `join` operation must have the same alignment period, " ++
      "table '" ++ table.schema.name ++ "' was expected to be aligned to " ++
      durationDebug alignment.period ++ ", but found " ++ durationDebug thisAlignment.period)
  if table.schema.metricTypes.length ≠ 1 then
    throw ("All input tables to `join` operation must be 1-dimensional, but table '" ++
      table.schema.name ++ "' has " ++ toString table.schema.metricTypes.length ++ " dimensions")
  if table.schema.fields ≠ first.schema.fields then
    throw ("All input tables to `join` operation must have the same field names and types, " ++
      "but table '" ++ table.schema.name ++ "' has fields [" ++ fieldsText table.schema.fields ++
      "] and table '" ++ first.schema.name ++ "' has fields [" ++
      fieldsText first.schema.fields ++ "]")
  -- `metric_types[0]` exists (one dimension); `data_types[0]` panics on an empty list
  match table.schema.metricTypes.head?, table.schema.dataTypes.head? with
  | some metricType, some dataType =>
    pure (acc.1 ++ [table.schema.name], acc.2.1 ++ [metricType], acc.2.2 ++ [dataType])
  | _, _ => ExceptT.lift none

/-- `plan::Join::new`: the output schema is named by the input names joined with `,`, has the
    first's fields, and one dimension per input, in order. -/
def new (tables : List TableOpData) : ExceptT String Option TableOpData := do
  if tables.length < 2 then throw "`join` table operations require at least 2 tables"
  match tables with
  | [] => ExceptT.lift none
  | first :: _ =>
    let some alignment := first.alignment | throw (notAligned first)
    let (names, metricTypes, dataTypes) ← tables.foldlM (step durationDebug first alignment)
      ([], [], [])
    pure
      { schema :=
          { name := ",".intercalate names
            fields := first.schema.fields
            metricTypes
            dataTypes }
        alignment := some alignment }

end Plan.Join

/-! ## 5. What the join keeps

Each round of the loop over a later table's timeseries replaces one timeseries of the output at
its own key (`joinTimeseries_eq_ok`); nothing else happens to the output. So the output has the
first table's keys, a timeseries whose key no later table has stays as it was, and the output's
name is the tables' names joined with `,`. -/

namespace Join

variable (alignmentOf : Timeseries → Option Alignment) (alignmentDebug : Alignment → String)
  (hash : List (String × FieldValue) → Nat)

/-- A successful round of the loop over a later table's timeseries: a timeseries of `out` with the
    next one's key takes the inner join of their points, at its own key. -/
theorem joinTimeseries_eq_ok {metricTypes : List MetricType} {i : Nat} {out out' : Table}
    {next : Timeseries} (h : (joinTimeseries hash metricTypes i out next).run = some (.ok out')) :
    ∃ k timeseries points, out.timeseries.lookup k = some timeseries ∧
      timeseries.key hash = next.key hash ∧ timeseries.points.innerJoin next.points = some points ∧
      out' = { out with timeseries := out.timeseries.insert k { timeseries with points } } := by
  unfold joinTimeseries at h
  obtain ⟨_, -, h⟩ := ExceptT.run_bind_eq_some_ok_iff.mp h
  simp only [ExceptT.bind_throw] at h
  -- the metric types differ
  split at h
  · exact absurd h ExceptT.run_throw_ne_some_ok
  -- no timeseries of `out` has the key
  split at h
  · exact absurd h ExceptT.run_throw_ne_some_ok
  rename_i k timeseries hfind
  obtain ⟨points, hjoin, h⟩ := ExceptT.run_bind_eq_some_ok_iff.mp h
  simp only [ExceptT.run_lift_eq_some_ok_iff, ExceptT.run_pure_eq_some_ok_iff] at hjoin h
  have hkey := List.find?_some hfind
  exact ⟨k, timeseries, points, Finmap.mem_sortedEntries.mp (List.mem_of_find?_eq_some hfind),
    beq_iff_eq.mp hkey, hjoin, h.symm⟩

theorem name_joinTimeseries {metricTypes : List MetricType} {i : Nat} {out out' : Table}
    {next : Timeseries} (h : (joinTimeseries hash metricTypes i out next).run = some (.ok out')) :
    out'.name = out.name := by
  obtain ⟨_, _, _, -, -, -, rfl⟩ := joinTimeseries_eq_ok hash h
  rfl

/-- A round of the loop replaces a timeseries at a key `out` has, so it adds no key. -/
theorem keys_joinTimeseries {metricTypes : List MetricType} {i : Nat} {out out' : Table}
    {next : Timeseries} (h : (joinTimeseries hash metricTypes i out next).run = some (.ok out')) :
    out'.timeseries.keys = out.timeseries.keys := by
  obtain ⟨k, _, _, hk, -, -, rfl⟩ := joinTimeseries_eq_ok hash h
  have hmem : k ∈ out.timeseries := Finmap.mem_of_lookup_eq_some hk
  ext a
  simp only [Finmap.mem_keys, Finmap.mem_insert]
  exact ⟨fun ha => ha.elim (· ▸ hmem) id, Or.inr⟩

/-- A round of the loop leaves a timeseries whose key is not the next one's as it was. -/
theorem lookup_joinTimeseries_of_key_ne {metricTypes : List MetricType} {i : Nat}
    {out out' : Table} {next ts : Timeseries} {k : Nat} (hts : out.timeseries.lookup k = some ts)
    (hne : ts.key hash ≠ next.key hash)
    (h : (joinTimeseries hash metricTypes i out next).run = some (.ok out')) :
    out'.timeseries.lookup k = some ts := by
  obtain ⟨k', timeseries, _, hk', hkey, -, rfl⟩ := joinTimeseries_eq_ok hash h
  have hk : k ≠ k' := by
    rintro rfl
    rw [hts, Option.some.injEq] at hk'
    exact hne (hk' ▸ hkey)
  rw [Finmap.lookup_insert_of_ne _ hk, hts]

/-- A successful round of the loop over the later tables: the loop over its timeseries, and its
    name appended. -/
theorem joinTable_eq_ok {metricTypes : List MetricType} {alignment : Option Alignment}
    {out out' next : Table} {i : Nat}
    (h : (joinTable alignmentOf alignmentDebug hash metricTypes alignment out (next, i)).run =
      some (.ok out')) :
    ∃ joined, (next.iter.foldlM (joinTimeseries hash metricTypes i) out).run = some (.ok joined) ∧
      out' = { joined with name := joined.name ++ "," ++ next.name } := by
  unfold joinTable at h
  simp only [ExceptT.bind_throw] at h
  -- the alignments differ
  split at h
  · exact absurd h ExceptT.run_throw_ne_some_ok
  obtain ⟨joined, hloop, h⟩ := ExceptT.run_bind_eq_some_ok_iff.mp h
  exact ⟨joined, hloop, (ExceptT.run_pure_eq_some_ok_iff.mp h).symm⟩

theorem name_joinTable {metricTypes : List MetricType} {alignment : Option Alignment}
    {out out' next : Table} {i : Nat}
    (h : (joinTable alignmentOf alignmentDebug hash metricTypes alignment out (next, i)).run =
      some (.ok out')) :
    out'.name = out.name ++ "," ++ next.name := by
  obtain ⟨joined, hloop, rfl⟩ := joinTable_eq_ok alignmentOf alignmentDebug hash h
  have hjoined : joined.name = out.name :=
    ExceptT.run_foldlM_inv (fun o : Table => o.name = out.name)
      (fun _ _ _ hb hstep => (name_joinTimeseries hash hstep).trans hb) _ rfl hloop
  rw [← hjoined]

theorem keys_joinTable {metricTypes : List MetricType} {alignment : Option Alignment}
    {out out' : Table} {entry : Table × Nat}
    (h : (joinTable alignmentOf alignmentDebug hash metricTypes alignment out entry).run =
      some (.ok out')) :
    out'.timeseries.keys = out.timeseries.keys := by
  obtain ⟨joined, hloop, rfl⟩ := joinTable_eq_ok alignmentOf alignmentDebug hash h
  have hjoined : joined.timeseries.keys = out.timeseries.keys :=
    ExceptT.run_foldlM_inv (fun o : Table => o.timeseries.keys = out.timeseries.keys)
      (fun _ _ _ hb hstep => (keys_joinTimeseries hash hstep).trans hb) _ rfl hloop
  exact hjoined

theorem lookup_joinTable_of_unmatched {metricTypes : List MetricType}
    {alignment : Option Alignment} {out out' : Table} {entry : Table × Nat} {ts : Timeseries}
    {k : Nat} (hts : out.timeseries.lookup k = some ts)
    (hne : ∀ next ∈ entry.1.iter, next.key hash ≠ ts.key hash)
    (h : (joinTable alignmentOf alignmentDebug hash metricTypes alignment out entry).run =
      some (.ok out')) :
    out'.timeseries.lookup k = some ts := by
  obtain ⟨joined, hloop, rfl⟩ := joinTable_eq_ok alignmentOf alignmentDebug hash h
  -- the invariant needs each round's timeseries to be one of the table's
  have hjoined : joined.timeseries.lookup k = some ts :=
    ExceptT.run_foldlM_inv_of_mem (fun o : Table => o.timeseries.lookup k = some ts) _
      (fun _ next _ hnext hb hstep =>
        lookup_joinTimeseries_of_key_ne hash hb (hne next hnext).symm hstep) hts hloop
  exact hjoined

/-- The loop over the later tables names its output after all of them, in order. -/
theorem name_foldlM_joinTable {metricTypes : List MetricType} {alignment : Option Alignment} :
    ∀ (rest : List Table) (i : Nat) {out r : Table},
      ((rest.zipIdx i).foldlM (joinTable alignmentOf alignmentDebug hash metricTypes alignment)
        out).run = some (.ok r) →
      r.name = ",".intercalate (out.name :: rest.map (·.name))
  | [], _, out, r, h => by
    rw [List.zipIdx_nil, List.foldlM_nil, ExceptT.run_pure_eq_some_ok_iff] at h
    rw [← h]
    rfl
  | next :: rest, i, out, r, h => by
    rw [List.zipIdx_cons, List.foldlM_cons] at h
    obtain ⟨out', hstep, hrest⟩ := ExceptT.run_bind_eq_some_ok_iff.mp h
    rw [name_foldlM_joinTable rest (i + 1) hrest, name_joinTable alignmentOf alignmentDebug hash
      hstep]
    rfl

/-- A successful join is the loop over the later tables, started from the first. -/
theorem apply_eq_ok {first : Table} {rest : List Table} {result : List Table}
    (h : (apply alignmentOf alignmentDebug hash (first :: rest)).run = some (.ok result)) :
    ∃ metricTypes alignment out, ((rest.zipIdx 1).foldlM
      (joinTable alignmentOf alignmentDebug hash metricTypes alignment) first).run =
        some (.ok out) ∧ result = [out] := by
  unfold apply at h
  simp only [ExceptT.bind_throw] at h
  -- the checks of the number of tables, of the first's length and of its alignment
  split at h
  · exact absurd h ExceptT.run_throw_ne_some_ok
  split at h
  · exact absurd h ExceptT.run_throw_ne_some_ok
  split at h
  · exact absurd h ExceptT.run_throw_ne_some_ok
  split at h
  · exact absurd h ExceptT.run_throw_ne_some_ok
  obtain ⟨_, -, h⟩ := ExceptT.run_bind_eq_some_ok_iff.mp h
  -- an aligned table without an alignment is the `assert!`
  split at h
  · obtain ⟨_, hnone, -⟩ := ExceptT.run_bind_eq_some_ok_iff.mp h
    simp only [ExceptT.run_lift_eq_some_ok_iff, reduceCtorEq] at hnone
  obtain ⟨out, hloop, h⟩ := ExceptT.run_bind_eq_some_ok_iff.mp h
  exact ⟨_, _, out, hloop, (ExceptT.run_pure_eq_some_ok_iff.mp h).symm⟩

/-- **The output has exactly the first table's keys.** -/
theorem keys_apply {first : Table} {rest : List Table} {result : List Table}
    (h : (apply alignmentOf alignmentDebug hash (first :: rest)).run = some (.ok result)) :
    ∃ out, result = [out] ∧ out.timeseries.keys = first.timeseries.keys := by
  obtain ⟨_, _, out, hloop, rfl⟩ := apply_eq_ok alignmentOf alignmentDebug hash h
  refine ⟨out, rfl, ?_⟩
  exact ExceptT.run_foldlM_inv (fun o : Table => o.timeseries.keys = first.timeseries.keys)
    (fun _ _ _ hb hstep => (keys_joinTable alignmentOf alignmentDebug hash hstep).trans hb) _ rfl
    hloop

/-- The output is named by the input tables' names joined with `,`, as the planner names it. -/
theorem name_apply {first : Table} {rest : List Table} {result : List Table}
    (h : (apply alignmentOf alignmentDebug hash (first :: rest)).run = some (.ok result)) :
    ∃ out, result = [out] ∧ out.name = ",".intercalate ((first :: rest).map (·.name)) := by
  obtain ⟨_, _, out, hloop, rfl⟩ := apply_eq_ok alignmentOf alignmentDebug hash h
  exact ⟨out, rfl, name_foldlM_joinTable alignmentOf alignmentDebug hash rest 1 hloop⟩

/-- **A timeseries of the first table that no later table has stays as it was**, with the first
    table's dimensions only. -/
theorem lookup_apply_of_unmatched {first t : Table} {rest : List Table} {ts : Timeseries}
    {k : Nat} (h : (apply alignmentOf alignmentDebug hash (first :: rest)).run = some (.ok [t]))
    (hts : first.timeseries.lookup k = some ts)
    (hne : ∀ table ∈ rest, ∀ next ∈ table.iter, next.key hash ≠ ts.key hash) :
    t.timeseries.lookup k = some ts := by
  obtain ⟨_, _, out, hloop, hout⟩ := apply_eq_ok alignmentOf alignmentDebug hash h
  rw [List.singleton_inj] at hout
  subst hout
  exact ExceptT.run_foldlM_inv_of_mem (fun o : Table => o.timeseries.lookup k = some ts) _
    (fun _ entry _ hentry hb hstep => lookup_joinTable_of_unmatched alignmentOf alignmentDebug
      hash hb (hne entry.1 (List.fst_mem_of_mem_zipIdx hentry)) hstep) hts hloop

end Join

/-! ## 6. What the planner accepts

The planner's loop checks each table against the first and collects its name and its one metric
and data type (`step_eq_ok`); the output schema is what the loop collected. -/

namespace Plan.Join

variable (durationDebug : Nat → String)

/-- A table the planner's loop accepts: aligned to the first's period, with the first's fields and
    one dimension, whose metric and data type it collects. -/
theorem step_eq_ok {first : TableOpData} {alignment : Align}
    {acc acc' : List String × List MetricType × List DataType} {table : TableOpData}
    (h : (step durationDebug first alignment acc table).run = some (.ok acc')) :
    (∃ a, table.alignment = some a ∧ a.period = alignment.period) ∧
      table.schema.fields = first.schema.fields ∧
      ∃ metricType dataType, table.schema.metricTypes = [metricType] ∧
        table.schema.dataTypes.head? = some dataType ∧
        acc' = (acc.1 ++ [table.schema.name], acc.2.1 ++ [metricType], acc.2.2 ++ [dataType]) := by
  unfold step at h
  cases halign : table.alignment with
  | none =>
    simp only [halign] at h
    exact absurd h ExceptT.run_throw_ne_some_ok
  | some thisAlignment =>
    simp only [halign, ExceptT.bind_throw] at h
    split at h
    · exact absurd h ExceptT.run_throw_ne_some_ok
    split at h
    · exact absurd h ExceptT.run_throw_ne_some_ok
    split at h
    · exact absurd h ExceptT.run_throw_ne_some_ok
    rename_i hperiod hdims hfields
    split at h
    · rename_i metricType dataType hmt hdt
      obtain ⟨m, hm⟩ := List.length_eq_one_iff.mp (not_not.mp hdims)
      rw [hm, List.head?_cons, Option.some.injEq] at hmt
      refine ⟨⟨thisAlignment, rfl, not_not.mp hperiod⟩, not_not.mp hfields, metricType, dataType,
        hmt ▸ hm, hdt, ?_⟩
      exact (ExceptT.run_pure_eq_some_ok_iff.mp h).symm
    -- `data_types[0]` of an empty list
    · simp only [ExceptT.run_lift_eq_some_ok_iff, reduceCtorEq] at h

/-- The loop of the planner collects the tables' names, their metric types and their first data
    types, in order. -/
theorem foldlM_step_eq_ok {first : TableOpData} {alignment : Align} :
    ∀ (tables : List TableOpData) {acc r : List String × List MetricType × List DataType},
      (tables.foldlM (step durationDebug first alignment) acc).run = some (.ok r) →
      (∀ table ∈ tables, table.schema.metricTypes.length = 1 ∧
        table.schema.fields = first.schema.fields) ∧
      r.1 = acc.1 ++ tables.map (·.schema.name) ∧
        r.2.1 = acc.2.1 ++ tables.flatMap (·.schema.metricTypes) ∧
        r.2.2 = acc.2.2 ++ tables.filterMap (·.schema.dataTypes.head?)
  | [], acc, r, h => by
    rw [List.foldlM_nil, ExceptT.run_pure_eq_some_ok_iff] at h
    simp [h]
  | table :: tables, acc, r, h => by
    rw [List.foldlM_cons] at h
    obtain ⟨acc', hstep, hrest⟩ := ExceptT.run_bind_eq_some_ok_iff.mp h
    obtain ⟨-, hfields, metricType, dataType, hmt, hdt, rfl⟩ := step_eq_ok durationDebug hstep
    obtain ⟨hall, hnames, hmts, hdts⟩ := foldlM_step_eq_ok tables hrest
    refine ⟨?_, ?_⟩
    · intro t ht
      rcases List.mem_cons.mp ht with rfl | ht
      · exact ⟨by simp [hmt], hfields⟩
      · exact hall t ht
    · simp [hnames, hmts, hdts, hmt, hdt]

/-- **The planned schema**: named by the input names joined with `,`, with the first's fields,
    one dimension per input, its metric and data type in input order. -/
theorem new_eq_ok {tables : List TableOpData} {planned : TableOpData}
    (h : (new durationDebug tables).run = some (.ok planned)) :
    ∃ first, tables.head? = some first ∧ 2 ≤ tables.length ∧
      (∀ table ∈ tables, table.schema.metricTypes.length = 1 ∧
        table.schema.fields = first.schema.fields) ∧
      planned.schema.name = ",".intercalate (tables.map (·.schema.name)) ∧
      planned.schema.fields = first.schema.fields ∧
      planned.schema.metricTypes = tables.flatMap (·.schema.metricTypes) ∧
      planned.schema.dataTypes = tables.filterMap (·.schema.dataTypes.head?) := by
  unfold new at h
  simp only [ExceptT.bind_throw] at h
  split at h
  · exact absurd h ExceptT.run_throw_ne_some_ok
  rename_i hlen
  split at h
  · simp only [ExceptT.run_lift_eq_some_ok_iff, reduceCtorEq] at h
  rename_i first rest
  split at h
  · rename_i alignment _
    obtain ⟨r, hloop, h⟩ := ExceptT.run_bind_eq_some_ok_iff.mp h
    obtain ⟨hall, hnames, hmts, hdts⟩ := foldlM_step_eq_ok durationDebug _ hloop
    rw [ExceptT.run_pure_eq_some_ok_iff] at h
    subst h
    refine ⟨first, rfl, by omega, hall, ?_, rfl, ?_, ?_⟩
    · rw [hnames, List.nil_append]
    · rw [hmts, List.nil_append]
    · rw [hdts, List.nil_append]
  -- the first table is not aligned
  · exact absurd h ExceptT.run_throw_ne_some_ok

/-- The planned schema has one dimension per input table. -/
theorem length_metricTypes_new {tables : List TableOpData} {planned : TableOpData}
    (h : (new durationDebug tables).run = some (.ok planned)) :
    planned.schema.metricTypes.length = tables.length := by
  obtain ⟨_, -, -, hall, -, -, hmts, -⟩ := new_eq_ok durationDebug h
  rw [hmts, List.length_flatMap, List.map_congr_left (fun t ht => (hall t ht).1)]
  simp

end Plan.Join

/-! ## 7. A key only the first table has

The first table holds the gauges `x = 1` and `x = 2`, the second only `x = 1`. The planner
accepts the two tables and plans two dimensions; the join succeeds, and its output keeps the gauge
`x = 2` as the first table had it, with one dimension (`lookup_apply_of_unmatched`). The key hash
is a parameter: any hash that tells the two field sets apart will do. -/

namespace Join

variable (alignmentDebug : Alignment → String) (hash : List (String × FieldValue) → Nat)

/-- A gauge's points carry no start times, so their length condition holds vacuously. -/
theorem forall_mem_none_length :
    ∀ s ∈ (none : Option (List Int)), s.length = [(0 : Int)].length := by
  simp

/-- A gauge with the field `x = v` and the one point `1` at time `0`. -/
def gaugeAt (v : Int64) : Timeseries where
  fields := (∅ : Finmap _).insert "x" (.i64 v)
  points :=
    { startTimes := none
      timestamps := [0]
      values := [⟨.integer [some 1], .gauge, fun h => by cases h⟩]
      values_ne_nil := by simp
      length_values := by simp [Values.len, ValueArray.length]
      length_startTimes := forall_mem_none_length
      isSome_startTimes := by simp [MetricType.hasStartTime] }

/-- The planner's view of a table of such gauges, aligned by `mean_within` to `period`. -/
def gaugeSchema (name : String) (period : Nat) : TableOpData where
  schema :=
    { name
      fields := (∅ : Finmap _).insert "x" .i64
      metricTypes := [.gauge]
      dataTypes := [.integer] }
  alignment := some ⟨.meanWithin, period⟩

theorem fromTimeseries_gaugeAt_pair (hne : (gaugeAt 1).key hash ≠ (gaugeAt 2).key hash) :
    Table.fromTimeseries hash "a" [gaugeAt 1, gaugeAt 2] =
      .ok ⟨"a", ((∅ : Finmap _).insert ((gaugeAt 1).key hash) (gaugeAt 1)).insert
        ((gaugeAt 2).key hash) (gaugeAt 2)⟩ := by
  have hm : (gaugeAt 1).matchesSchema (gaugeAt 2) = true := by decide
  simp only [Table.fromTimeseries, List.foldlM_cons, Table.insert_new]
  simp [Table.insert, Table.matchesSchema, hm, hne.symm, Finmap.notMem_empty, bind, Except.bind,
    pure, Except.pure]

theorem new_gaugeSchema (durationDebug : Nat → String) (period : Nat) :
    (Plan.Join.new durationDebug [gaugeSchema "a" period, gaugeSchema "b" period]).run =
      some (.ok ⟨⟨"a,b", (∅ : Finmap _).insert "x" .i64, [.gauge, .gauge], [.integer, .integer]⟩,
        some ⟨.meanWithin, period⟩⟩) := by
  unfold Plan.Join.new
  simp [Plan.Join.step, gaugeSchema]

/-- The join of the two tables succeeds, whichever order their keys have. -/
theorem apply_gaugeAt_isOk (alignment : Alignment)
    (hne : (gaugeAt 1).key hash ≠ (gaugeAt 2).key hash) :
    ∃ t, (apply (fun _ => some alignment) alignmentDebug hash
      [⟨"a", ((∅ : Finmap _).insert ((gaugeAt 1).key hash) (gaugeAt 1)).insert
        ((gaugeAt 2).key hash) (gaugeAt 2)⟩,
       ⟨"b", (∅ : Finmap _).insert ((gaugeAt 1).key hash) (gaugeAt 1)⟩]).run = some (.ok [t]) := by
  have hjoin : ((gaugeAt 1).points.innerJoin (gaugeAt 1).points).isSome = true := by decide
  obtain ⟨p, hp⟩ := Option.isSome_iff_exists.mp hjoin
  have hmt : ∀ v, (gaugeAt v).points.metricTypes = [.gauge] := fun _ => rfl
  -- the first table iterates by key upward
  rcases Nat.lt_or_gt_of_ne hne with hlt | hgt
  · have hl := Finmap.sortedEntries_insert_insert_of_lt hlt (gaugeAt 1) (gaugeAt 2)
    simp [apply, Table.len, Table.iter, Finmap.sortedValues, hl, Table.isAligned, Table.alignment,
      ensureAllMetricTypes, joinTable, joinTimeseries, hp, hmt]
    exact ⟨_, rfl⟩
  · have hl := Finmap.sortedEntries_insert_insert_of_lt hgt (gaugeAt 2) (gaugeAt 1)
    rw [Finmap.insert_insert_of_ne _ hne.symm] at hl
    simp [apply, Table.len, Table.iter, Finmap.sortedValues, hl, Table.isAligned, Table.alignment,
      ensureAllMetricTypes, joinTable, joinTimeseries, hp, hmt, hne.symm]
    exact ⟨_, rfl⟩

/-- **A key of the first table that the second lacks survives the join with one dimension**,
    where the planner promised two. -/
theorem apply_keeps_unmatched_timeseries (durationDebug : Nat → String) (alignment : Alignment)
    (hne : (gaugeAt 1).key hash ≠ (gaugeAt 2).key hash) :
    ∃ left right planned t,
      Table.fromTimeseries hash "a" [gaugeAt 1, gaugeAt 2] = .ok left ∧
      Table.fromTimeseries hash "b" [gaugeAt 1] = .ok right ∧
      (Plan.Join.new durationDebug
        [gaugeSchema "a" alignment.period, gaugeSchema "b" alignment.period]).run =
          some (.ok planned) ∧
      planned.schema.metricTypes.length = 2 ∧
      (apply (fun _ => some alignment) alignmentDebug hash [left, right]).run = some (.ok [t]) ∧
      (gaugeAt 2).key hash ∉ right.timeseries ∧
      t.timeseries.lookup ((gaugeAt 2).key hash) = some (gaugeAt 2) ∧
      (gaugeAt 2).points.dimensionality = 1 := by
  obtain ⟨t, ht⟩ := apply_gaugeAt_isOk alignmentDebug hash alignment hne
  refine ⟨_, _, _, t, fromTimeseries_gaugeAt_pair hash hne,
    Table.fromTimeseries_singleton hash "b" _, new_gaugeSchema durationDebug _, rfl, ht, ?_, ?_, rfl⟩
  -- the second table has the key of `x = 1` only
  · simp [Finmap.mem_insert, Finmap.notMem_empty, hne.symm]
  · refine lookup_apply_of_unmatched _ alignmentDebug hash ht (by simp [Finmap.lookup_insert]) ?_
    simp [Table.iter_insert_empty, hne]

/-- A key hash that tells the two gauges apart. -/
def xHash (fields : List (String × FieldValue)) : Nat :=
  if fields = (gaugeAt 1).fields.sortedEntries then 0 else 1

theorem apply_keeps_unmatched_timeseries_xHash :
    (gaugeAt 1).key xHash ≠ (gaugeAt 2).key xHash ∧
      ∃ left right planned t,
        Table.fromTimeseries xHash "a" [gaugeAt 1, gaugeAt 2] = .ok left ∧
        Table.fromTimeseries xHash "b" [gaugeAt 1] = .ok right ∧
        (Plan.Join.new (fun _ => "") [gaugeSchema "a" 10, gaugeSchema "b" 10]).run =
          some (.ok planned) ∧
        planned.schema.metricTypes.length = 2 ∧
        (apply (fun _ => some ⟨0, 10⟩) (fun _ => "") xHash [left, right]).run = some (.ok [t]) ∧
        (gaugeAt 2).key xHash ∉ right.timeseries ∧
        t.timeseries.lookup ((gaugeAt 2).key xHash) = some (gaugeAt 2) ∧
        (gaugeAt 2).points.dimensionality = 1 :=
  have hne : (gaugeAt 1).key xHash ≠ (gaugeAt 2).key xHash := by decide
  ⟨hne, apply_keeps_unmatched_timeseries (fun _ => "") xHash (fun _ => "") ⟨0, 10⟩ hne⟩

end Join

end Omicron.Oxql
