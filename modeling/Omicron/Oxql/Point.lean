import Mathlib

/-!
# OxQL: data points

The column-major array of the data points of one timeseries (`oxql_types::point`): the start
times (for delta and cumulative data), the timestamps, and one array of values per dimension.

* `ValueArray`, `Values` -- one dimension's values, each possibly missing, and its metric type;
* `Points` -- the arrays together. Its fields carry what the source keeps true of it: at least one
  dimension ("the length of `values` is ... always at least 1"), arrays of one length, and start
  times exactly when some dimension is delta or cumulative (`Points::with_capacity`);
* `Points.filter` -- `Points::filter`, keeping the points a mask selects;
* `Points.limit` -- the slicing done by `Timeseries::limit`.

A value array of doubles or of distributions is left out: nothing modelled here computes with one.
-/

namespace Omicron.Oxql

/-! ## 1. Lists under a mask and in a range -/

section ListOps

variable {β : Type}

/-- The elements of `xs` where `toKeep` is true: the source's loops that push `existing[ix]` for
    each index `ix` that `to_keep` selects. -/
def selectByMask (toKeep : List Bool) (xs : List β) : List β :=
  (xs.zip toKeep).filterMap fun (x, keep) => if keep then some x else none

/-- `xs[start..end].to_vec()`, for `start ≤ end ≤ xs.len()`. -/
def slice (start stop : Nat) (xs : List β) : List β :=
  (xs.drop start).take (stop - start)

@[simp] theorem selectByMask_nil (xs : List β) : selectByMask [] xs = [] := by
  simp [selectByMask]

@[simp] theorem selectByMask_cons_cons (k : Bool) (ks : List Bool) (x : β) (xs : List β) :
    selectByMask (k :: ks) (x :: xs) = if k then x :: selectByMask ks xs else selectByMask ks xs := by
  cases k <;> simp [selectByMask]

/-- Under a mask of its own length, a list keeps as many elements as the mask has `true`s. -/
theorem length_selectByMask {toKeep : List Bool} {xs : List β} (h : xs.length = toKeep.length) :
    (selectByMask toKeep xs).length = toKeep.count true := by
  induction toKeep generalizing xs with
  | nil => simp
  | cons k ks ih =>
    cases xs with
    | nil => simp at h
    | cons x xs =>
      have hxs : xs.length = ks.length := by simpa using h
      cases k <;> simp [ih hxs]

/-- A mask of nothing but `false` keeps nothing. -/
@[simp] theorem selectByMask_replicate_false (n : Nat) (xs : List β) :
    selectByMask (List.replicate n false) xs = [] := by
  induction n generalizing xs with
  | zero => simp
  | succ n ih =>
    cases xs with
    | nil => simp [selectByMask]
    | cons x xs => simp [List.replicate_succ, ih]

@[simp] theorem length_slice (start stop : Nat) (xs : List β) :
    (slice start stop xs).length = min (stop - start) (xs.length - start) := by
  simp [slice]

end ListOps

/-! ## 2. Value arrays -/

/-- `DataType`. -/
inductive DataType where
  | integer
  | double
  | boolean
  | string
  | integerDistribution
  | doubleDistribution
  deriving DecidableEq, Repr

/-- `DataType`'s `Display`, its `Debug` text: the variant's name. -/
def DataType.text : DataType → String
  | .integer => "Integer"
  | .double => "Double"
  | .boolean => "Boolean"
  | .string => "String"
  | .integerDistribution => "IntegerDistribution"
  | .doubleDistribution => "DoubleDistribution"

/-- `MetricType`. -/
inductive MetricType where
  | gauge
  | delta
  | cumulative
  deriving DecidableEq, Repr

/-- Whether data of this metric type carries start times (`Delta | Cumulative`). -/
def MetricType.hasStartTime : MetricType → Bool
  | .gauge => false
  | .delta | .cumulative => true

/-- `ValueArray`, for integer, boolean and string data. A value is `none` where the sample is
    missing; an `i64` is an `Int`. -/
inductive ValueArray where
  | integer (values : List (Option Int))
  | boolean (values : List (Option Bool))
  | string (values : List (Option String))
  deriving DecidableEq, Repr

namespace ValueArray

/-- `ValueArray::data_type`. -/
def dataType : ValueArray → DataType
  | .integer _ => .integer
  | .boolean _ => .boolean
  | .string _ => .string

/-- `ValueArray::len`. -/
def length : ValueArray → Nat
  | .integer vs => vs.length
  | .boolean vs => vs.length
  | .string vs => vs.length

/-- The values a mask selects, in an array of the same type (the `match` of `Points::filter`). -/
def select (toKeep : List Bool) : ValueArray → ValueArray
  | .integer vs => .integer (selectByMask toKeep vs)
  | .boolean vs => .boolean (selectByMask toKeep vs)
  | .string vs => .string (selectByMask toKeep vs)

/-- The values in `[start, stop)` (the `match` of `Timeseries::limit`). -/
def slice (start stop : Nat) : ValueArray → ValueArray
  | .integer vs => .integer (Oxql.slice start stop vs)
  | .boolean vs => .boolean (Oxql.slice start stop vs)
  | .string vs => .string (Oxql.slice start stop vs)

@[simp] theorem dataType_select (toKeep : List Bool) (v : ValueArray) :
    (v.select toKeep).dataType = v.dataType := by
  cases v <;> rfl

@[simp] theorem dataType_slice (start stop : Nat) (v : ValueArray) :
    (v.slice start stop).dataType = v.dataType := by
  cases v <;> rfl

theorem length_select {toKeep : List Bool} {v : ValueArray} (h : v.length = toKeep.length) :
    (v.select toKeep).length = toKeep.count true := by
  cases v <;> exact length_selectByMask h

@[simp] theorem length_slice (start stop : Nat) (v : ValueArray) :
    (v.slice start stop).length = min (stop - start) (v.length - start) := by
  cases v <;> simp [slice, length]

end ValueArray

/-- `Values`: one dimension's data and its metric type. Delta and cumulative data are numbers:
    `implicit_field_names_for_types` calls a delta or cumulative boolean or string impossible. -/
structure Values where
  values : ValueArray
  metricType : MetricType
  numeric_of_hasStartTime : metricType.hasStartTime = true → values.dataType = .integer
  deriving DecidableEq

namespace Values

/-- `Values::len`. -/
def len (v : Values) : Nat := v.values.length

/-- The dimension under a mask. -/
def select (toKeep : List Bool) (v : Values) : Values where
  values := v.values.select toKeep
  metricType := v.metricType
  numeric_of_hasStartTime h := by simpa using v.numeric_of_hasStartTime h

/-- The dimension in `[start, stop)`. -/
def slice (start stop : Nat) (v : Values) : Values where
  values := v.values.slice start stop
  metricType := v.metricType
  numeric_of_hasStartTime h := by simpa using v.numeric_of_hasStartTime h

@[simp] theorem metricType_select (toKeep : List Bool) (v : Values) :
    (v.select toKeep).metricType = v.metricType := rfl

@[simp] theorem metricType_slice (start stop : Nat) (v : Values) :
    (v.slice start stop).metricType = v.metricType := rfl

@[simp] theorem dataType_select (toKeep : List Bool) (v : Values) :
    (v.select toKeep).values.dataType = v.values.dataType := by
  simp [select]

@[simp] theorem dataType_slice (start stop : Nat) (v : Values) :
    (v.slice start stop).values.dataType = v.values.dataType := by
  simp [slice]

end Values

/-! ## 3. Points -/

/-- `Points`: start times (delta and cumulative data only), timestamps in nanoseconds, and the
    values of each dimension, all of one length. -/
structure Points where
  startTimes : Option (List Int)
  timestamps : List Int
  values : List Values
  values_ne_nil : values ≠ []
  length_values : ∀ v ∈ values, v.len = timestamps.length
  length_startTimes : ∀ s ∈ startTimes, s.length = timestamps.length
  isSome_startTimes : startTimes.isSome = values.any (·.metricType.hasStartTime)
  deriving DecidableEq

namespace Points

/-- `Points::dimensionality`. -/
def dimensionality (p : Points) : Nat := p.values.length

/-- `Points::len`: the length of the first dimension. -/
def len (p : Points) : Nat := (p.values.head p.values_ne_nil).len

/-- `Points::is_empty`. -/
def isEmpty (p : Points) : Bool := p.len == 0

/-- `Points::values`, the array of one dimension. -/
def valuesAt (p : Points) (dim : Nat) : Option ValueArray := p.values[dim]?.map (·.values)

/-- `Points::data_types`. -/
def dataTypes (p : Points) : List DataType := p.values.map (·.values.dataType)

/-- `Points::metric_types`. -/
def metricTypes (p : Points) : List MetricType := p.values.map (·.metricType)

theorem len_eq_length (p : Points) : p.len = p.timestamps.length :=
  p.length_values _ (List.head_mem p.values_ne_nil)

theorem isEmpty_iff (p : Points) : p.isEmpty = true ↔ p.timestamps = [] := by
  simp [isEmpty, len_eq_length]

/-- `Points::filter`. Under the fields' invariant the output has start times exactly when the
    input does, so the source's `unreachable!()` on a missing output array is never reached. -/
def filter (p : Points) (toKeep : List Bool) : Except String Points :=
  if h : toKeep.length = p.len then
    .ok
      { startTimes := p.startTimes.map (selectByMask toKeep)
        timestamps := selectByMask toKeep p.timestamps
        values := p.values.map (Values.select toKeep)
        values_ne_nil := by simpa using p.values_ne_nil
        length_values := by
          intro v hv
          obtain ⟨w, hw, rfl⟩ := List.mem_map.mp hv
          have hl : p.timestamps.length = toKeep.length := by rw [h, len_eq_length]
          rw [length_selectByMask hl]
          exact ValueArray.length_select ((p.length_values w hw).trans hl)
        length_startTimes := by
          intro s hs
          obtain ⟨s₀, hs₀, rfl⟩ := Option.map_eq_some_iff.mp hs
          have hl : p.timestamps.length = toKeep.length := by rw [h, len_eq_length]
          rw [length_selectByMask hl, length_selectByMask ((p.length_startTimes s₀ hs₀).trans hl)]
        isSome_startTimes := by simpa [Function.comp_def] using p.isSome_startTimes }
  else .error "Filter array must be the same length as self"

/-- The points in `[start, stop)`: the slices of `Timeseries::limit`. -/
def limit (p : Points) (start stop : Nat) : Points where
  startTimes := p.startTimes.map (slice start stop)
  timestamps := slice start stop p.timestamps
  values := p.values.map (Values.slice start stop)
  values_ne_nil := by simpa using p.values_ne_nil
  length_values := by
    intro v hv
    obtain ⟨w, hw, rfl⟩ := List.mem_map.mp hv
    have hw' : w.values.length = p.timestamps.length := p.length_values w hw
    simp [Values.slice, Values.len, hw']
  length_startTimes := by
    intro s hs
    obtain ⟨s₀, hs₀, rfl⟩ := Option.map_eq_some_iff.mp hs
    simp [p.length_startTimes s₀ hs₀]
  isSome_startTimes := by simpa [Function.comp_def] using p.isSome_startTimes

@[simp] theorem timestamps_limit (p : Points) (start stop : Nat) :
    (p.limit start stop).timestamps = slice start stop p.timestamps := rfl

@[simp] theorem len_limit (p : Points) (start stop : Nat) :
    (p.limit start stop).len = min (stop - start) (p.len - start) := by
  simp [len_eq_length]

/-- What a successful filter keeps: the masked timestamps, and the mask had the points' length. -/
theorem filter_eq_ok {p q : Points} {toKeep : List Bool} (h : p.filter toKeep = .ok q) :
    toKeep.length = p.len ∧ q.timestamps = selectByMask toKeep p.timestamps ∧
      q.values = p.values.map (Values.select toKeep) ∧
      q.startTimes = p.startTimes.map (selectByMask toKeep) := by
  unfold filter at h
  split at h
  · rename_i hlen
    cases h
    exact ⟨hlen, rfl, rfl, rfl⟩
  · cases h

/-- A mask that keeps no point filters the points down to none. -/
theorem filter_replicate_false (p : Points) :
    ∃ q, p.filter (List.replicate p.len false) = .ok q ∧ q.isEmpty = true := by
  unfold filter
  rw [dif_pos (List.length_replicate ..)]
  exact ⟨_, rfl, (isEmpty_iff _).mpr (selectByMask_replicate_false _ _)⟩

end Points

end Omicron.Oxql
