import Omicron.Oxql.Ast
import Omicron.Oxql.Table

/-!
# OxQL: the filter table operation

`Filter::apply` (`table_ops::filter`) runs a filter over tables in two passes per timeseries:

* the fields: `filter_field` gives each field `None` when the filter does not mention it, and
  otherwise the filter's verdict on it; the first field judged `false` drops the timeseries;
* the points: `filter_points_inner` gives each point a verdict, where an atom on `timestamp`
  compares the point's timestamp, an atom on `datum` its value, and an atom on a field the
  constant `!negated`; the kept points replace the timeseries' points, and a timeseries left
  with none is dropped.

Before either, every identifier of the filter must be a field of the first table's first
timeseries or one of the names its data implies (`implicit_field_names_for_timeseries`).

A missing datum is never kept, whatever the atom's negation (`unwrap_or(false)`). A negated
atom on a field keeps no point at all (`applyToTimeseries_negated_field_atom`), so `!(a == 1)`
drops the timeseries it holds for (`apply_drops_negated_field_match`).
-/

namespace Omicron.Oxql

/-- The comparisons of `filter_points_by_datum` on booleans, written as the source writes them:
    `>` is `b & !lit` and `<` is `!b & lit`. -/
def Comparison.holdsBool (cmp : Comparison) (h : cmp ≠ .like) (b lit : Bool) : Bool :=
  match cmp, h with
  | .eq, _ => b == lit
  | .ne, _ => b != lit
  | .gt, _ => b && !lit
  | .ge, _ => decide (b ≥ lit)
  | .lt, _ => !b && lit
  | .le, _ => decide (b ≤ lit)
  | .like, h => absurd rfl h

/-- The boolean arm's `b & !lit` and `!b & lit` are the order of `bool`, `false < true`. -/
theorem Comparison.holdsBool_eq_holds (cmp : Comparison) (h : cmp ≠ .like) (b lit : Bool) :
    cmp.holdsBool h b lit = cmp.holds h b lit := by
  cases cmp <;> first | exact absurd rfl h | cases b <;> cases lit <;> rfl

namespace SimpleFilter

variable (regex : String → Except String (String → Bool))

/-- `SimpleFilter::filter_field`: `none` for a field the atom does not name. -/
def filterField (f : SimpleFilter) (name : String) (value : FieldValue) :
    Except String (Option Bool) :=
  if f.ident ≠ name then .ok none else f.value.compareField regex value f.cmp

/-- `SimpleFilter::filter_points_by_timestamp`. -/
def filterPointsByTimestamp (f : SimpleFilter) (negated : Bool) (timestamps : List Int) :
    Except String (List Bool) :=
  match hv : f.value with
  | .timestamp timestamp =>
    .ok (timestamps.map fun t =>
      negated ^^ f.cmp.holds (f.cmp_ne_like (by simp [hv, Literal.isString])) t timestamp)
  | _ => .error "Cannot compare non-timestamp filter against a timestamp"

/-- `SimpleFilter::filter_points_by_datum`: a missing value is not kept. -/
def filterPointsByDatum (f : SimpleFilter) (negated : Bool) (values : ValueArray) :
    Except String (List Bool) :=
  match hv : f.value, values with
  | .integer int, .integer ints =>
    .ok (ints.map fun maybeInt =>
      (maybeInt.map fun i =>
        negated ^^ f.cmp.holds (f.cmp_ne_like (by simp [hv, Literal.isString])) i int).getD false)
  | .string string, .string strings =>
    if hl : f.cmp = .like then
      match regex string with
      | .ok re => .ok (strings.map fun maybeString => (maybeString.map fun s => negated ^^ re s).getD false)
      | .error e => .error e
    else
      .ok (strings.map fun maybeString =>
        (maybeString.map fun s => negated ^^ f.cmp.holds hl s string).getD false)
  | .boolean boolean, .boolean booleans =>
    .ok (booleans.map fun maybeBoolean =>
      (maybeBoolean.map fun b =>
        negated ^^ f.cmp.holdsBool (f.cmp_ne_like (by simp [hv, Literal.isString])) b boolean).getD
          false)
  | _, _ =>
    .error ("Cannot compare " ++ f.value.typeName ++ " literal against values of type " ++
      values.dataType.text)

/-- `SimpleFilter::filter_points`: an atom on a field keeps every point unless negated. -/
def filterPoints (f : SimpleFilter) (negated : Bool) (points : Points) :
    Except String (List Bool) :=
  if f.ident = "timestamp" then f.filterPointsByTimestamp negated points.timestamps
  else if f.ident = "datum" then
    if points.dimensionality = 1 then
      f.filterPointsByDatum regex negated (points.values.head points.values_ne_nil).values
    else .error "Filtering multidimensional values by datum is not yet supported"
  else .ok (List.replicate points.len (!negated))

end SimpleFilter

namespace Filter

variable (regex : String → Except String (String → Bool))

/-- `Filter::filter_field`, with `CompoundFilter::filter_field` for a compound: a side that does
    not apply gives way to the other, and the filter's own negation applies last. -/
def filterField (name : String) (value : FieldValue) :
    Filter SimpleFilter → Except String (Option Bool)
  | .simple negated atom => (atom.filterField regex name value).map (Option.map (negated ^^ ·))
  | .compound negated left op right => do
    let l ← left.filterField name value
    let r ← right.filterField name value
    let keep := match l, r with
      | none, none => none
      | some x, none => some x
      | none, some x => some x
      | some a, some b => some (op.apply a b)
    pure (keep.map (negated ^^ ·))

/-- `Filter::filter_points_inner`, with `CompoundFilter::filter_points`. The source combines the
    two sides index by index over the left one; both have the points' length
    (`length_filterPointsInner`), so `zipWith` pairs every index. -/
def filterPointsInner (points : Points) : Filter SimpleFilter → Except String (List Bool)
  | .simple negated atom => atom.filterPoints regex negated points
  | .compound negated left op right => do
    let l ← left.filterPointsInner points
    let r ← right.filterPointsInner points
    pure (List.zipWith (fun a b => negated ^^ op.apply a b) l r)

/-- `Filter::filter_points`. -/
def filterPoints (f : Filter SimpleFilter) (points : Points) : Except String Points := do
  let toKeep ← f.filterPointsInner regex points
  points.filter toKeep

/-- `Filter::ident_names`. -/
def identNames : Filter SimpleFilter → Finset String
  | .simple _ atom => {atom.ident}
  | .compound _ left _ right => left.identNames ∪ right.identNames

end Filter

/-! ## The names a timeseries' data implies -/

/-- `special_idents::DISTRIBUTION_IDENTS`. -/
def distributionIdents : Finset String :=
  {"bins", "counts", "min", "max", "sum_of_samples", "squared_mean", "p50_marker_heights",
    "p50_marker_positions", "p50_desired_marker_positions", "p90_marker_heights",
    "p90_marker_positions", "p90_desired_marker_positions", "p99_marker_heights",
    "p99_marker_positions", "p99_desired_marker_positions"}

/-- One dimension's names in `implicit_field_names_for_types`; `none` is the `unreachable!()` of
    a delta or cumulative boolean or string. -/
def implicitFieldNamesStep (out : Finset String) : MetricType × DataType → Option (Finset String)
  | (.gauge, .integer) | (.gauge, .boolean) | (.gauge, .double) | (.gauge, .string) =>
    some (insert "datum" out)
  | (.gauge, .integerDistribution) | (.gauge, .doubleDistribution) =>
    some (out ∪ distributionIdents)
  | (.delta, .integer) | (.delta, .double) | (.cumulative, .integer) | (.cumulative, .double) =>
    some (insert "start_time" (insert "datum" out))
  | (.delta, .integerDistribution) | (.delta, .doubleDistribution)
  | (.cumulative, .integerDistribution) | (.cumulative, .doubleDistribution) =>
    some (insert "start_time" (out ∪ distributionIdents))
  | (.delta, .boolean) | (.delta, .string) | (.cumulative, .boolean) | (.cumulative, .string) =>
    none

/-- `implicit_field_names_for_types`: `timestamp`, and the names of each dimension. -/
def implicitFieldNamesForTypes (typeInfo : List (MetricType × DataType)) :
    Option (Finset String) :=
  typeInfo.foldlM implicitFieldNamesStep {"timestamp"}

/-- A dimension with start times holds integers, so its step is defined. -/
theorem implicitFieldNamesStep_isSome (out : Finset String) {mt : MetricType} {dt : DataType}
    (h : mt.hasStartTime = true → dt = .integer) : (implicitFieldNamesStep out (mt, dt)).isSome := by
  cases mt <;> cases dt <;> simp_all [implicitFieldNamesStep, MetricType.hasStartTime]

theorem foldlM_implicitFieldNamesStep_isSome {typeInfo : List (MetricType × DataType)}
    (h : ∀ p ∈ typeInfo, p.1.hasStartTime = true → p.2 = .integer) (out : Finset String) :
    (typeInfo.foldlM implicitFieldNamesStep out).isSome := by
  induction typeInfo generalizing out with
  | nil => rfl
  | cons p ps ih =>
    obtain ⟨next, hnext⟩ := Option.isSome_iff_exists.mp
      (implicitFieldNamesStep_isSome out (h p (by simp)))
    rw [List.foldlM_cons, hnext]
    exact ih (fun q hq => h q (List.mem_cons_of_mem p hq)) next

/-- The types of a timeseries' points never reach the `unreachable!()`. -/
theorem implicitFieldNamesForTypes_isSome (p : Points) :
    (implicitFieldNamesForTypes (p.metricTypes.zip p.dataTypes)).isSome := by
  refine foldlM_implicitFieldNamesStep_isSome (fun q hq => ?_) _
  obtain ⟨v, hv, rfl⟩ : ∃ v ∈ p.values, (v.metricType, v.values.dataType) = q := by
    simpa [Points.metricTypes, Points.dataTypes, List.zip_map', List.mem_map] using hq
  exact v.numeric_of_hasStartTime

/-- `implicit_field_names_for_timeseries`. -/
def implicitFieldNamesForTimeseries (firstTimeseries : Timeseries) : Finset String :=
  (implicitFieldNamesForTypes
    (firstTimeseries.points.metricTypes.zip firstTimeseries.points.dataTypes)).get
    (implicitFieldNamesForTypes_isSome firstTimeseries.points)

/-! ## The operation -/

/-- Rust's `Debug` of a list of names, `["a", "b"]`. -/
def debugNames (names : List String) : String :=
  "[" ++ ", ".intercalate (names.map fun s => "\"" ++ s ++ "\"") ++ "]"

/-- Rust's `Debug` of a set of names, with braces. -/
def debugNameSet (names : Finset String) : String :=
  "\x7b" ++ ", ".intercalate (names.ascending.map fun s => "\"" ++ s ++ "\"") ++ "\x7d"

namespace Filter

variable (regex : String → Except String (String → Bool)) (hash : List (String × FieldValue) → Nat)

/-- The field loop of `Filter::apply`: whether some field, taken by name upward, is judged
    `false` (`continue 'timeseries`); the fields after it are not looked at. -/
def rejectsField (f : Filter SimpleFilter) : List (String × FieldValue) → Except String Bool
  | [] => .ok false
  | (name, value) :: rest => do
    match ← f.filterField regex name value with
    | some false => pure true
    | _ => f.rejectsField rest

/-- The body of the loop over one table's timeseries in `Filter::apply`: the timeseries with the
    points the filter keeps, or `none` when it is dropped. -/
def applyToTimeseries (f : Filter SimpleFilter) (input : Timeseries) :
    Except String (Option Timeseries) := do
  if ← f.rejectsField regex input.fields.sortedEntries then pure none
  else
    let points ← f.filterPoints regex input.points
    pure (input.copyWithPoints points)

/-- `Filter::apply`. -/
def apply (f : Filter SimpleFilter) (tables : List Table) : Except String (List Table) :=
  match tables with
  | [] => .error "Filtering operations require at least one table"
  | first :: _ =>
    match first.iter.head? with
    | none => .ok tables
    | some firstTimeseries =>
      let extras := implicitFieldNamesForTimeseries firstTimeseries
      let notValid := f.identNames.ascending.filter fun name =>
        !(decide (name ∈ firstTimeseries.fields) || decide (name ∈ extras))
      if notValid.isEmpty then
        tables.mapM fun table => do
          let timeseries ← table.iter.filterMapM (f.applyToTimeseries regex)
          Table.fromTimeseries hash table.name timeseries
      else
        .error ("The filter expression contains identifiers that are not valid for its input " ++
          "timeseries. Invalid identifiers: " ++ debugNames notValid ++ ", timeseries fields: " ++
          debugNameSet (firstTimeseries.fields.keys ∪ extras))

/-- The identifiers of the filter are fields of the timeseries or names its data implies: what
    `Filter::apply` checks of the first timeseries. -/
def IdentsValid (f : Filter SimpleFilter) (ts : Timeseries) : Prop :=
  f.identNames ⊆ ts.fields.keys ∪ implicitFieldNamesForTimeseries ts

instance (f : Filter SimpleFilter) (ts : Timeseries) : Decidable (f.IdentsValid ts) :=
  inferInstanceAs (Decidable (f.identNames ⊆ ts.fields.keys ∪ implicitFieldNamesForTimeseries ts))

/-- Valid identifiers leave nothing to complain of. -/
theorem notValid_eq_nil {f : Filter SimpleFilter} {ts : Timeseries} (h : f.IdentsValid ts) :
    f.identNames.ascending.filter (fun name =>
      !(decide (name ∈ ts.fields) || decide (name ∈ implicitFieldNamesForTimeseries ts))) = [] := by
  rw [List.filter_eq_nil_iff]
  intro name hname
  have hmem := h (Finset.mem_ascending.mp hname)
  rw [Finset.mem_union, Finmap.mem_keys] at hmem
  rcases hmem with hm | hm <;> simp [hm]

/-- On a table of one timeseries whose identifiers are valid, the filter is its loop body. -/
theorem apply_singleton (f : Filter SimpleFilter) (name : String) (k : Nat) (ts : Timeseries)
    (h : f.IdentsValid ts) :
    f.apply regex hash [⟨name, (∅ : Finmap _).insert k ts⟩] =
      (f.applyToTimeseries regex ts >>= fun kept =>
        (fun t => [t]) <$> Table.fromTimeseries hash name kept.toList) := by
  simp only [apply, Table.iter_insert_empty, List.head?_cons, notValid_eq_nil h,
    List.isEmpty_nil, if_true, List.mapM_cons, List.mapM_nil, List.filterMapM_cons,
    List.filterMapM_nil]
  cases f.applyToTimeseries regex ts with
  | error e => rfl
  | ok kept =>
    cases kept with
    | none => rfl
    | some t => rfl

/-! ## A negated atom on a field -/

/-- **A negated atom on a field keeps no timeseries.** The point pass gives every point the
    constant `!negated`, here `false`, whatever the field pass found. -/
theorem applyToTimeseries_negated_field_atom {atom : SimpleFilter}
    (ht : atom.ident ≠ "timestamp") (hd : atom.ident ≠ "datum") (ts kept : Timeseries) :
    (Filter.simple true atom).applyToTimeseries regex ts ≠ .ok (some kept) := by
  intro h
  obtain ⟨q, hq, hempty⟩ := ts.points.filter_replicate_false
  have hpoints : (Filter.simple true atom).filterPoints regex ts.points = .ok q := by
    simp only [filterPoints, filterPointsInner, SimpleFilter.filterPoints, if_neg ht, if_neg hd,
      Bool.not_true]
    exact hq
  have hcopy : ts.copyWithPoints q = none := by simp [Timeseries.copyWithPoints, hempty]
  unfold applyToTimeseries at h
  cases hr : (Filter.simple true atom).rejectsField regex ts.fields.sortedEntries with
  | error e => simp [hr, bind, Except.bind] at h
  | ok rejected =>
    cases rejected with
    | true => simp [hr, bind, Except.bind, pure, Except.pure] at h
    | false => simp [hr, bind, Except.bind, hpoints, hcopy, pure, Except.pure] at h

/-- The atom `a == 1`. -/
def aEqOne : SimpleFilter := ⟨"a", .eq, .integer 1, fun h => by cases h⟩

/-- A gauge with the field `a = 2` and the one point `3` at time `0`. -/
def fieldTwoGauge : Timeseries where
  fields := (∅ : Finmap _).insert "a" (.i64 2)
  points :=
    { startTimes := none
      timestamps := [0]
      values := [⟨.integer [some 3], .gauge, fun h => by cases h⟩]
      values_ne_nil := by simp
      length_values := by simp [Values.len, ValueArray.length]
      length_startTimes := by simp
      isSome_startTimes := by simp [MetricType.hasStartTime] }

/-- **`!(a == 1)` drops a timeseries it holds for.** On the field `a = 2` the atom `a == 1` is
    false, so the filter `!(a == 1)` (`negated: true`, as the grammar's `factor` builds it) is
    true at every point; yet `Filter::apply` returns the table without the timeseries, as the
    point pass keeps no point (`applyToTimeseries_negated_field_atom`). -/
theorem apply_drops_negated_field_match (k : Nat) :
    aEqOne.filterField regex "a" (.i64 2) = .ok (some false) ∧
      (Filter.simple true aEqOne).eval (fun _ => false) = true ∧
      (Filter.simple true aEqOne).apply regex hash [⟨"t", (∅ : Finmap _).insert k fieldTwoGauge⟩] =
        .ok [Table.new "t"] := by
  refine ⟨rfl, rfl, ?_⟩
  rw [apply_singleton regex hash _ _ _ _ (by decide)]
  rfl

end Filter

end Omicron.Oxql
