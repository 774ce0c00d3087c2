import Omicron.Lib.SortedFinmap
import Omicron.Lib.ExceptRun
import Omicron.Oxql.Point
import Omicron.Oxql.Value

/-!
# OxQL: timeseries and tables

`oxql_types::table`: a timeseries is its fields (an ordered map from name to value) and its
points; a table is a name and an ordered map from each timeseries' key to the timeseries.

* `Timeseries.copyWithPoints`, `Timeseries.limit` -- a timeseries with other points, the first
  refusing to build one without points;
* `Table.insert`, `Table.fromTimeseries` -- a table grows one timeseries at a time, each with the
  schema of the table's first timeseries and a key the table does not hold yet.

The key of a timeseries is a hash of its fields in name order (`Timeseries::key`, a
`HighwayHasher`). That hash is outside this development: the functions that compute a key take
it as the parameter `hash`, and every result here holds for every hash.
The alignment a timeseries may carry is left out, as no modelled function reads it.
-/

namespace Omicron.Oxql

/-- The fields of a timeseries, a `BTreeMap<String, FieldValue>`. -/
abbrev Fields := Finmap fun _ : String => FieldValue

/-- `Timeseries`. -/
structure Timeseries where
  fields : Fields
  points : Points
  deriving DecidableEq

namespace Timeseries

/-- `Timeseries::key`: the hash of the fields, name by name upward. -/
def key (hash : List (String × FieldValue) → Nat) (ts : Timeseries) : Nat :=
  hash ts.fields.sortedEntries

/-- `Timeseries::copy_with_points`: `none` when there are no points to keep. -/
def copyWithPoints (ts : Timeseries) (keptPoints : Points) : Option Timeseries :=
  if keptPoints.isEmpty then none else some { ts with points := keptPoints }

/-- `Timeseries::limit`: the points in `[start, stop)`. -/
def limit (ts : Timeseries) (start stop : Nat) : Timeseries :=
  { ts with points := ts.points.limit start stop }

/-- `Timeseries::matches_schema`: the same field names and types, in order, and the same data and
    metric types (compared as far as both go, as `zip` does). -/
def matchesSchema (self other : Timeseries) : Bool :=
  self.fields.sortedEntries.length == other.fields.sortedEntries.length &&
    ((self.fields.sortedEntries.zip other.fields.sortedEntries).all fun (f0, f1) =>
      f0.1 == f1.1 && f0.2.fieldType == f1.2.fieldType) &&
    ((self.points.dataTypes.zip other.points.dataTypes).all fun (x, y) => x == y) &&
    ((self.points.metricTypes.zip other.points.metricTypes).all fun (x, y) => x == y)

@[simp] theorem fields_limit (ts : Timeseries) (start stop : Nat) :
    (ts.limit start stop).fields = ts.fields := rfl

@[simp] theorem points_limit (ts : Timeseries) (start stop : Nat) :
    (ts.limit start stop).points = ts.points.limit start stop := rfl

@[simp] theorem key_limit (hash : List (String × FieldValue) → Nat) (ts : Timeseries)
    (start stop : Nat) : (ts.limit start stop).key hash = ts.key hash := rfl

theorem copyWithPoints_eq_some {ts ts' : Timeseries} {p : Points}
    (h : ts.copyWithPoints p = some ts') : ts' = { ts with points := p } ∧ p.isEmpty = false := by
  unfold copyWithPoints at h
  split at h
  · cases h
  · rename_i hp
    cases h
    simpa using hp

end Timeseries

/-- `Table`: its name and its timeseries by key. -/
structure Table where
  name : String
  timeseries : Finmap fun _ : Nat => Timeseries
  deriving DecidableEq

namespace Table

variable (hash : List (String × FieldValue) → Nat)

/-- `Table::new`: no timeseries. -/
def new (name : String) : Table := ⟨name, ∅⟩

/-- `Table::iter`: the timeseries by key upward. -/
def iter (t : Table) : List Timeseries := t.timeseries.sortedValues

/-- `Table::matches_schema`: the schema of the first timeseries, if there is one. -/
def matchesSchema (t : Table) (other : Timeseries) : Bool :=
  match t.iter.head? with
  | some first => first.matchesSchema other
  | none => true

/-- `Table::insert`. -/
def insert (t : Table) (ts : Timeseries) : Except String Table :=
  if t.matchesSchema ts then
    let key := ts.key hash
    if key ∈ t.timeseries then .error ("Timeseries with key " ++ toString key ++ " already exists")
    else .ok { t with timeseries := t.timeseries.insert key ts }
  else .error "Timeseries in a table must have the same schema"

/-- `Table::from_timeseries`: the timeseries inserted one after the other. -/
def fromTimeseries (name : String) (ts : List Timeseries) : Except String Table :=
  ts.foldlM (insert hash) (new name)

@[simp] theorem iter_new (name : String) : (new name).iter = [] := by
  simp [new, iter, Finmap.sortedValues, Finmap.sortedEntries]

/-- A table of one timeseries iterates over it. -/
@[simp] theorem iter_insert_empty (name : String) (k : Nat) (ts : Timeseries) :
    (⟨name, (∅ : Finmap _).insert k ts⟩ : Table).iter = [ts] :=
  Finmap.sortedValues_insert_empty k ts

@[simp] theorem fromTimeseries_nil (name : String) : fromTimeseries hash name [] = .ok (new name) :=
  rfl

/-- A timeseries goes into an empty table. -/
theorem insert_new (name : String) (ts : Timeseries) :
    (new name).insert hash ts = .ok ⟨name, (∅ : Finmap _).insert (ts.key hash) ts⟩ := by
  have hm : (new name).matchesSchema ts = true := by simp [matchesSchema]
  simp only [insert, hm, if_true]
  simp [new, Finmap.notMem_empty]

theorem fromTimeseries_singleton (name : String) (ts : Timeseries) :
    fromTimeseries hash name [ts] = .ok ⟨name, (∅ : Finmap _).insert (ts.key hash) ts⟩ := by
  simp [fromTimeseries, insert_new]

end Table

end Omicron.Oxql
