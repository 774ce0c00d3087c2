import Omicron.Oxql.FilterOp

/-!
# OxQL: limits, and moving a filter across one

`Limit::apply` (`table_ops::limit`) keeps the first or last `k` points of every timeseries. The
planner moves a filter across a limit when `Filter::can_reorder_around` approves, which it does
for every atom not on `timestamp`: an atom on `datum` included. A filter on values does not
commute with taking the first points, so the approved move changes the answer.
-/

namespace Omicron.Oxql

/-- `LimitKind`. -/
inductive LimitKind where
  | first
  | last
  deriving DecidableEq, Repr

/-- `Limit`: its count is a `NonZeroUsize`. -/
structure Limit where
  kind : LimitKind
  count : Nat
  count_pos : 0 < count
  deriving DecidableEq

namespace Limit

variable (hash : List (String × FieldValue) → Nat)

/-- The slice indices of `Limit::apply` for a timeseries of `len` points: `[0, min(len, k))` for
    the first `k`, `[len - k, len)` (saturating) for the last `k`. -/
def sliceIndices (l : Limit) (len : Nat) : Nat × Nat :=
  match l.kind with
  | .first => (0, min len l.count)
  | .last => (len - l.count, len)

/-- `Limit::apply`. -/
def apply (l : Limit) (tables : List Table) : Except String (List Table) :=
  if tables.isEmpty then .ok []
  else
    tables.mapM fun table =>
      Table.fromTimeseries hash table.name (table.iter.map fun timeseries =>
        let (start, stop) := l.sliceIndices timeseries.points.len
        timeseries.limit start stop)

/-- The indices are a range of the points. -/
theorem sliceIndices_le (l : Limit) (len : Nat) :
    (l.sliceIndices len).1 ≤ (l.sliceIndices len).2 ∧ (l.sliceIndices len).2 ≤ len := by
  unfold sliceIndices
  cases l.kind <;> simp

/-- On a table of one timeseries, the limit slices it. -/
theorem apply_singleton (l : Limit) (name : String) (k : Nat) (ts : Timeseries) :
    l.apply hash [⟨name, (∅ : Finmap _).insert k ts⟩] =
      .ok [⟨name, (∅ : Finmap _).insert (ts.key hash)
        (ts.limit (l.sliceIndices ts.points.len).1 (l.sliceIndices ts.points.len).2)⟩] := by
  simp [apply, Table.fromTimeseries_singleton]

end Limit

/-- `Filter::can_reorder_around`: an atom not on `timestamp` always may move; one on
    `timestamp` may when it bounds in the limit's direction (`<`, `<=` for the first points, `>`,
    `>=` for the last), flipped by its negation; a compound when both sides may, flipped by its
    negation, whatever its operator. -/
def Filter.canReorderAround (limit : Limit) : Filter SimpleFilter → Bool
  | .simple negated atom =>
    if atom.ident ≠ "timestamp" then true
    else
      let isCompatible := match limit.kind with
        | .first => atom.cmp == .lt || atom.cmp == .le
        | .last => atom.cmp == .gt || atom.cmp == .ge
      negated ^^ isCompatible
  | .compound negated left _ right =>
    negated ^^ (left.canReorderAround limit && right.canReorderAround limit)

/-! ## A datum filter across `first 1` -/

/-- A gauge of integers, with the values 1 at time 1 and 5 at time 2. -/
def risingGauge : Points where
  startTimes := none
  timestamps := [1, 2]
  values := [⟨.integer [some 1, some 5], .gauge, nofun⟩]
  values_ne_nil := by simp
  length_values := by decide
  length_startTimes := by simp
  isSome_startTimes := rfl

/-- The point at time 2 alone. -/
def risingGaugeLast : Points where
  startTimes := none
  timestamps := [2]
  values := [⟨.integer [some 5], .gauge, nofun⟩]
  values_ne_nil := by simp
  length_values := by decide
  length_startTimes := by simp
  isSome_startTimes := rfl

/-- The timeseries of `risingGauge`, with one field. -/
def risingSeries : Timeseries := ⟨(∅ : Finmap _).insert "sled" (.string "s0"), risingGauge⟩

/-- A table holding `risingSeries`. -/
def risingTable : Table := ⟨"gauge", (∅ : Finmap _).insert 0 risingSeries⟩

/-- `filter datum > 3`. -/
def datumAbove3 : Filter SimpleFilter := .simple false ⟨"datum", .gt, .integer 3, nofun⟩

/-- `first 1`. -/
def firstOne : Limit := ⟨.first, 1, Nat.one_pos⟩

section DatumAcrossFirst

variable (regex : String → Except String (String → Bool)) (hash : List (String × FieldValue) → Nat)

/-- **Moving `filter datum > 3` across `first 1` changes the answer**, though
    `can_reorder_around` approves the move. The input meets the premises of the move: the filter's
    one identifier is implied by the gauge, and the timestamps increase. Filtering first keeps the
    point at time 2, which the limit then keeps; limiting first keeps the point at time 1, which
    the filter rejects, and the timeseries is dropped. -/
theorem canReorderAround_unsound :
    datumAbove3.canReorderAround firstOne = true ∧
    datumAbove3.IdentsValid risingSeries ∧
    risingGauge.timestamps.Pairwise (· < ·) ∧
    (datumAbove3.apply regex hash [risingTable] >>= firstOne.apply hash) =
      .ok [⟨"gauge", (∅ : Finmap _).insert (risingSeries.key hash)
        { risingSeries with points := risingGaugeLast }⟩] ∧
    (firstOne.apply hash [risingTable] >>= datumAbove3.apply regex hash) =
      .ok [Table.new "gauge"] := by
  -- the filter keeps the later point, the limit the earlier one
  have hfilter : datumAbove3.apply regex hash [risingTable] =
      .ok [⟨"gauge", (∅ : Finmap _).insert (risingSeries.key hash)
        { risingSeries with points := risingGaugeLast }⟩] := rfl
  have hlimit : firstOne.apply hash [risingTable] =
      .ok [⟨"gauge", (∅ : Finmap _).insert (risingSeries.key hash) (risingSeries.limit 0 1)⟩] :=
    rfl
  refine ⟨rfl, by decide, by decide, ?_, ?_⟩
  · -- one point is left, and `first 1` keeps it
    rw [hfilter]
    exact Limit.apply_singleton hash firstOne "gauge" _ _
  · -- the limited series is valid for the filter, which then drops it
    rw [hlimit]
    show datumAbove3.apply regex hash
      [⟨"gauge", (∅ : Finmap _).insert (risingSeries.key hash) (risingSeries.limit 0 1)⟩] = _
    rw [Filter.apply_singleton regex hash _ _ _ _ (by decide)]
    rfl

end DatumAcrossFirst

end Omicron.Oxql
