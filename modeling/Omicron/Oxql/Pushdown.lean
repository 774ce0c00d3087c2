import Omicron.Oxql.Align
import Omicron.Oxql.Dnf

/-!
# OxQL: splitting a filter around an alignment

The planner moves the filter that follows an `align` in front of it where it can
(`Predicates::split_around_align`, `plan::predicates`). Against the schema of the alignment's
output it first checks the filter (`ensure_filter_expr_application_is_valid`), rewrites it
towards disjunctive normal form, and cuts it at its top-level `||`s. It then splits each
disjunct with two visitors of the filter tree (`Filter::visit_fields`):

* `removeDatum` -- the part that goes in front of the alignment: the atoms on fields, the
  timestamp and the start time, with each atom on the datum dropped;
* `onlyDatum` -- the part left behind it: the atoms on the datum;
* `shiftTimestampBy` -- applied to the pushed part: a bound `timestamp > t` or `timestamp >= t`
  moves back one period, and every other atom stays as it is.

`visitFields` drops a compound whose two sides are dropped, and when only one side is dropped
it keeps the other side alone, without the compound's operator and negation.

`splitAroundAlign_timestamp_eq` is a run of the planner that moves `timestamp == t` wholly in
front of the alignment. The data at `t` in the aligned output comes from the window
`(t - period, t]`, so the pushed filter drops exactly the raw points that the aligned point at
`t` was computed from.
-/

namespace Omicron.Oxql

/-- `TableSchema`: a table's name, its fields' types, and per dimension the metric type and the
    data type. -/
structure TableSchema where
  name : String
  fields : Finmap fun _ : String => FieldType
  metricTypes : List MetricType
  dataTypes : List DataType

/-- `Literal::is_compatible_with_datum`. -/
def Literal.isCompatibleWithDatum : Literal → DataType → Bool
  | .integer _, .integer | .double _, .double | .string _, .string | .boolean _, .boolean
  | .duration _, .integer | .duration _, .double | .timestamp _, .integer
  | .timestamp _, .double => true
  | _, _ => false

/-- Whether the literal is a timestamp (`matches!(value, Literal::Timestamp(_))`). -/
def Literal.isTimestamp : Literal → Bool
  | .timestamp _ => true
  | _ => false

/-- `AlignmentMethod`. -/
inductive AlignmentMethod where
  | interpolate
  | meanWithin
  deriving DecidableEq, Repr

/-- `align_input_schema`: the schema an alignment outputs. The metric types stay as they are,
    and the numeric data types become `Double` under `MeanWithin`. -/
def alignInputSchema (schema : TableSchema) (method : AlignmentMethod) :
    Except String TableSchema := do
  if schema.metricTypes.contains .cumulative then
    throw ("Only gauge or delta metric types may be aligned, but table '" ++ schema.name ++
      "' has cumulative metric type")
  let dataTypes ← schema.dataTypes.mapM fun dataType =>
    match dataType, method with
    | .integer, .meanWithin | .double, .meanWithin => pure DataType.double
    | .integer, .interpolate | .double, .interpolate =>
      throw "Alignment via interpolation is not yet implemented"
    | _, _ => throw ("Tables with '" ++ dataType.text ++ "' data types cannot be aligned")
  pure { schema with dataTypes }

/-! ## 1. The check of a filter against a schema -/

/-- `FilterErrorKind`. -/
inductive FilterErrorKind where
  | incompatibleExpression (identifier expectedType expressionType : String)
  | invalidIdentifier (identifier table : String) (validIdentifiers : Finset String)
  | identifierInvalidForNDTables (identifier table : String) (nDims : Nat)
  | filteringNotSupported (identifier : String)
  deriving DecidableEq

/-- `implicit_field_names_for_table_schema`: `none` is its `unreachable!()`. -/
def implicitFieldNamesForTableSchema (schema : TableSchema) : Option (Finset String) :=
  implicitFieldNamesForTypes (schema.metricTypes.zip schema.dataTypes)

/-- `Filter::ensure_special_ident_is_compatible`. -/
def ensureSpecialIdentIsCompatible (ident : String) (value : Literal) (schema : TableSchema) :
    Except FilterErrorKind Unit :=
  if ident = "timestamp" ∨ ident = "start_time" then
    if value.isTimestamp then .ok ()
    else .error (.incompatibleExpression ident "timestamp" value.typeName)
  else if ident = "datum" then
    match schema.dataTypes with
    | [dataType] =>
      if value.isCompatibleWithDatum dataType then .ok ()
      else .error (.incompatibleExpression ident dataType.text value.typeName)
    | dataTypes => .error (.identifierInvalidForNDTables ident schema.name dataTypes.length)
  else .error (.filteringNotSupported ident)

/-- `Filter::ensure_filter_expr_application_is_valid_impl`: the errors of every atom, left to
    right, given the names the schema implies. -/
def ensureFilterExprApplicationIsValidImpl (schema : TableSchema) (implicitFields : Finset String) :
    Filter SimpleFilter → List FilterErrorKind
  | .simple _ simple =>
    match schema.fields.lookup simple.ident with
    | some type =>
      if simple.value.isCompatibleWithField type then []
      else [.incompatibleExpression simple.ident type.text simple.value.typeName]
    | none =>
      if simple.ident ∈ implicitFields then
        match ensureSpecialIdentIsCompatible simple.ident simple.value schema with
        | .ok () => []
        | .error e => [e]
      else [.invalidIdentifier simple.ident schema.name (schema.fields.keys ∪ implicitFields)]
  | .compound _ left _ right =>
    ensureFilterExprApplicationIsValidImpl schema implicitFields left ++
      ensureFilterExprApplicationIsValidImpl schema implicitFields right

/-- `Filter::ensure_filter_expr_application_is_valid`: the list of errors, if there is one. -/
def ensureFilterExprApplicationIsValid (f : Filter SimpleFilter) (schema : TableSchema) :
    Option (Except (List FilterErrorKind) Unit) :=
  (implicitFieldNamesForTableSchema schema).map fun implicitFields =>
    match ensureFilterExprApplicationIsValidImpl schema implicitFields f with
    | [] => .ok ()
    | errors => .error errors

/-! ## 2. The visitors -/

/-- What a visitor makes of one atom: a filter to keep, `none` to drop the atom, an error, or a
    panic. -/
abbrev VisitResult := ExceptT String Option (Option (Filter SimpleFilter))

namespace Filter

/-- `Filter::visit_fields`, with `default_combine_impl`: a compound of two kept sides is kept
    with its negation and operator; a compound with one side dropped is the other side. -/
def visitFields (visitSimple : Bool → SimpleFilter → VisitResult) :
    Filter SimpleFilter → VisitResult
  | .simple negated atom => visitSimple negated atom
  | .compound negated left op right => do
    let l ← visitFields visitSimple left
    let r ← visitFields visitSimple right
    pure <| match l, r with
      | none, none => none
      | none, some single | some single, none => some single
      | some l, some r => some (.compound negated l op r)

end Filter

/-- `RemoveDatum::visit_simple`: the atoms on a field, the timestamp and the start time are kept
    once their literal is checked, those on the datum are dropped; any other identifier is the
    source's `unreachable!()`. -/
def RemoveDatum.visitSimple (schema : TableSchema) (negated : Bool) (filter : SimpleFilter) :
    VisitResult :=
  match schema.fields.lookup filter.ident with
  | some fieldType =>
    if filter.value.isCompatibleWithField fieldType then pure (some (.simple negated filter))
    else throw ("Expression for field '" ++ filter.ident ++ "' is not compatible with its type (" ++
      fieldType.text ++ ")")
  | none =>
    if filter.ident = "timestamp" then
      if filter.value.isTimestamp then pure (some (.simple negated filter))
      else throw "Expression cannot be compared with a timestamp"
    else if filter.ident = "start_time" then
      match schema.metricTypes[0]? with
      | none => ExceptT.lift none
      | some metricType =>
        if metricType ≠ .cumulative then
          throw ("Start time can only be compared if the metric is cumulative, but table '" ++
            schema.name ++ "' has metric type " ++ metricType.text)
        else if filter.value.isTimestamp then pure (some (.simple negated filter))
        else throw "Expression cannot be compared with a timestamp"
    else if filter.ident = "datum" then pure none
    else ExceptT.lift none

/-- `OnlyDatum::visit_simple`: an atom on the datum is kept once its literal is checked against
    every data type of the schema; every other atom is dropped. -/
def OnlyDatum.visitSimple (schema : TableSchema) (negated : Bool) (filter : SimpleFilter) :
    VisitResult :=
  if filter.ident = "datum" then
    match schema.dataTypes.find? fun ty => !filter.value.isCompatibleWithDatum ty with
    | some ty =>
      throw ("Expression for datum on table '" ++ schema.name ++
        "' is not compatible with its type (" ++ ty.text ++ ")")
    | none => pure (some (.simple negated filter))
  else pure none

/-- The new bound of `ShiftTimestamps`: `>` and `>=` move back one period. -/
def Comparison.shiftTimestamp (cmp : Comparison) (h : cmp ≠ .like) (timestamp : Int)
    (period : Nat) : Int :=
  match cmp, h with
  | .eq, _ | .ne, _ | .lt, _ | .le, _ => timestamp
  | .gt, _ | .ge, _ => timestamp - period
  | .like, h => absurd rfl h

/-- `ShiftTimestamps::visit_simple`: an atom on the timestamp gets its shifted bound, with the
    negation it had; every other atom is kept as it is. -/
def ShiftTimestamps.visitSimple (period : Nat) (negated : Bool) (filter : SimpleFilter) :
    VisitResult :=
  if filter.ident = "timestamp" then
    match hv : filter.value with
    | .timestamp timestamp =>
      have hne : filter.cmp ≠ .like := SimpleFilter.cmp_ne_like_of_timestamp hv
      pure (some (.simple negated
        { filter with
          value := .timestamp (filter.cmp.shiftTimestamp hne timestamp period)
          like_isString := fun hl => absurd hl hne }))
    | _ => throw "Filter expression is not a timestamp"
  else pure (some (.simple negated filter))

namespace Filter

/-- `Filter::remove_datum`. -/
def removeDatum (f : Filter SimpleFilter) (schema : TableSchema) : VisitResult :=
  f.visitFields (RemoveDatum.visitSimple schema)

/-- `Filter::only_datum`. -/
def onlyDatum (f : Filter SimpleFilter) (schema : TableSchema) : VisitResult :=
  f.visitFields (OnlyDatum.visitSimple schema)

/-- `Filter::shift_timestamp_by`: the two `unwrap`s are `none`. -/
def shiftTimestampBy (f : Filter SimpleFilter) (period : Nat) : Option (Filter SimpleFilter) :=
  match (f.visitFields (ShiftTimestamps.visitSimple period)).run with
  | some (.ok (some g)) => some g
  | _ => none

end Filter

namespace Filter

/-- What `visitFields` keeps is built of what the visitor keeps of the atoms: a property of the
    names of every atom the visitor keeps holds of every name of the result. -/
theorem visitFields_identNames {visitSimple : Bool → SimpleFilter → VisitResult}
    {P : String → Prop}
    (hP : ∀ negated atom g, (visitSimple negated atom).run = some (.ok (some g)) →
      ∀ x ∈ g.identNames, P x) :
    ∀ (f g : Filter SimpleFilter), (f.visitFields visitSimple).run = some (.ok (some g)) →
      ∀ x ∈ g.identNames, P x
  | .simple negated atom, g, h => hP negated atom g h
  | .compound negated left op right, g, h => by
    obtain ⟨l, hl, h⟩ := ExceptT.run_bind_eq_some_ok_iff.mp h
    obtain ⟨r, hr, h⟩ := ExceptT.run_bind_eq_some_ok_iff.mp h
    rw [ExceptT.run_pure_eq_some_ok_iff] at h
    -- a side that is kept is kept whole, with the names it had
    cases l with
    | none =>
      cases r with
      | none => cases h
      | some b =>
        cases h
        exact visitFields_identNames hP right g hr
    | some a =>
      cases r with
      | none =>
        cases h
        exact visitFields_identNames hP left g hl
      | some b =>
        cases h
        intro x hx
        rcases Finset.mem_union.mp hx with hx | hx
        · exact visitFields_identNames hP left a hl x hx
        · exact visitFields_identNames hP right b hr x hx

end Filter

/-- `RemoveDatum` keeps an atom as it is, and never one on the datum unless the table has a field
    of that name. -/
theorem RemoveDatum.visitSimple_eq_some {schema : TableSchema} {negated : Bool}
    {filter : SimpleFilter} {g : Filter SimpleFilter}
    (h : (RemoveDatum.visitSimple schema negated filter).run = some (.ok (some g))) :
    g = .simple negated filter ∧ (filter.ident ∈ schema.fields ∨ filter.ident ≠ "datum") := by
  unfold RemoveDatum.visitSimple at h
  split at h
  · rename_i fieldType hlookup
    split at h
    · simp at h
      exact ⟨h.symm, .inl (Finmap.mem_of_lookup_eq_some hlookup)⟩
    · simp [throw, throwThe, MonadExceptOf.throw, ExceptT.mk, ExceptT.run] at h
  · have hthrow : ∀ e : String, (throw e : VisitResult).run ≠ some (.ok (some g)) := by
      simp [throw, throwThe, MonadExceptOf.throw, ExceptT.mk, ExceptT.run]
    have hpanic : (ExceptT.lift none : VisitResult).run ≠ some (.ok (some g)) := by
      simp [ExceptT.lift, ExceptT.mk, ExceptT.run]
    -- the atom is kept, unchanged, only on the timestamp or the start time
    split at h
    · rename_i hts
      split at h
      · simp at h
        exact ⟨h.symm, .inr (by simp [hts])⟩
      · exact absurd h (hthrow _)
    · split at h
      · rename_i hst
        split at h
        · exact absurd h hpanic
        · split at h
          · exact absurd h (hthrow _)
          · split at h
            · simp at h
              exact ⟨h.symm, .inr (by simp [hst])⟩
            · exact absurd h (hthrow _)
      · split at h
        · simp at h
        · exact absurd h hpanic

/-- `OnlyDatum` keeps an atom as it is, and only one on the datum. -/
theorem OnlyDatum.visitSimple_eq_some {schema : TableSchema} {negated : Bool}
    {filter : SimpleFilter} {g : Filter SimpleFilter}
    (h : (OnlyDatum.visitSimple schema negated filter).run = some (.ok (some g))) :
    g = .simple negated filter ∧ filter.ident = "datum" := by
  unfold OnlyDatum.visitSimple at h
  split at h
  · rename_i hd
    split at h
    · simp [throw, throwThe, MonadExceptOf.throw, ExceptT.mk, ExceptT.run] at h
    · simp at h
      exact ⟨h.symm, hd⟩
  · simp at h

/-- **The part moved in front of the alignment names no datum**, unless the table has a field of
    that name. -/
theorem removeDatum_identNames {f g : Filter SimpleFilter} {schema : TableSchema}
    (h : (f.removeDatum schema).run = some (.ok (some g))) :
    ∀ x ∈ g.identNames, x ∈ schema.fields ∨ x ≠ "datum" := by
  refine Filter.visitFields_identNames (fun negated atom g' hv x hx => ?_) f g h
  obtain ⟨rfl, hkept⟩ := RemoveDatum.visitSimple_eq_some hv
  rw [Finset.mem_singleton.mp hx]
  exact hkept

/-- **The part left behind the alignment names only the datum.** -/
theorem onlyDatum_identNames {f g : Filter SimpleFilter} {schema : TableSchema}
    (h : (f.onlyDatum schema).run = some (.ok (some g))) : ∀ x ∈ g.identNames, x = "datum" := by
  refine Filter.visitFields_identNames (fun negated atom g' hv x hx => ?_) f g h
  obtain ⟨rfl, hdatum⟩ := OnlyDatum.visitSimple_eq_some hv
  rw [Finset.mem_singleton.mp hx]
  exact hdatum

/-! ## 3. The split -/

/-- `Predicates`: one filter, or disjuncts of which some may be absent. -/
inductive Predicates where
  | single (filter : Filter SimpleFilter)
  | disjunctions (disjuncts : List (Option (Filter SimpleFilter)))
  deriving DecidableEq

/-- `SplitPredicates`: the predicates moved in front of a table operation, and those left
    behind it. -/
structure SplitPredicates where
  pushed : Option Predicates
  notPushed : Option Predicates
  deriving DecidableEq

/-- `SplitPredicates::compress_from`: a side whose disjuncts are all absent is absent. -/
def SplitPredicates.compressFrom (pushed notPushed : List (Option (Filter SimpleFilter))) :
    SplitPredicates where
  pushed := if pushed.all Option.isNone then none else some (.disjunctions pushed)
  notPushed := if notPushed.all Option.isNone then none else some (.disjunctions notPushed)

/-- The errors of `split_around_align`: a failed check of the filter with its list, or the text
    of any other error. -/
inductive SplitError where
  | invalidFilter (errors : List FilterErrorKind)
  | message (text : String)
  deriving DecidableEq

/-- The part of a disjunct moved in front of the alignment: `remove_datum`, then
    `shift_timestamp_by`. -/
def pushedDisjunct (schema : TableSchema) (period : Nat) (disjunct : Filter SimpleFilter) :
    ExceptT SplitError Option (Option (Filter SimpleFilter)) := do
  match ← (disjunct.removeDatum schema).adapt SplitError.message with
  | none => pure none
  | some f => ExceptT.lift ((f.shiftTimestampBy period).map some)

/-- `Predicates::split_around_align` against the schema of the alignment's output, with the
    alignment's period. -/
def Predicates.splitAroundAlign (self : Predicates) (schema : TableSchema) (period : Nat) :
    ExceptT SplitError Option SplitPredicates := do
  let .single filter := self
    | throw (.message "Cannot split a filter with disjunctions around an alignment table operation")
  match ensureFilterExprApplicationIsValid filter schema with
  | none => ExceptT.lift none
  | some (.error errors) => throw (.invalidFilter errors)
  | some (.ok ()) =>
    let dnf ← (ExceptT.mk (some filter.simplifyToDnf) : ExceptT String Option _).adapt
      SplitError.message
    match dnf.flattenDisjunctions with
    | [disjunct] =>
      let pushed ← pushedDisjunct schema period disjunct
      let notPushed ← (disjunct.onlyDatum schema).adapt SplitError.message
      pure ⟨pushed.map .single, notPushed.map .single⟩
    | disjuncts =>
      let parts ← disjuncts.mapM fun disjunct => do
        let pushed ← pushedDisjunct schema period disjunct
        let notPushed ← (disjunct.onlyDatum schema).adapt SplitError.message
        pure (pushed, notPushed)
      pure (SplitPredicates.compressFrom (parts.map Prod.fst) (parts.map Prod.snd))

/-! ## 4. The filter on either side of the alignment -/

section AroundAlign

variable {δ : Type} (F : F64 δ) (regex : String → Except String (String → Bool))
  (hash : List (String × FieldValue) → Nat) (queryEnd : Int) (period : Nat)

/-- `align mean_within(period) | filter f`, the query as written. -/
def alignThenFilter (f : Filter SimpleFilter) (tables : List Table) :
    ExceptT String Option (List (AlignedTable δ)) := do
  let aligned ← alignApply F hash tables queryEnd period
  ExceptT.mk (some (f.applyAligned F hash regex aligned))

/-- The same query with the filter split around the alignment: the pushed part on the raw
    tables, the alignment, then the part left behind on its output. An absent part filters
    nothing. -/
def filterAroundAlign (pushed notPushed : Option (Filter SimpleFilter)) (tables : List Table) :
    ExceptT String Option (List (AlignedTable δ)) := do
  let before ← ExceptT.mk (some (match pushed with
    | none => .ok tables
    | some f => f.apply regex hash tables))
  let aligned ← alignApply F hash before queryEnd period
  match notPushed with
  | none => pure aligned
  | some f => ExceptT.mk (some (f.applyAligned F hash regex aligned))

end AroundAlign

/-- The atom `timestamp == t`. -/
def timestampEq (t : Int) : SimpleFilter := ⟨"timestamp", .eq, .timestamp t, nofun⟩

/-- A gauge of integers without fields, with the one point `value` at `t`. -/
def gaugePoint (t value : Int) : Timeseries where
  fields := ∅
  points :=
    { startTimes := none
      timestamps := [t]
      values := [⟨.integer [some value], .gauge, fun h => by cases h⟩]
      values_ne_nil := by simp
      length_values := by simp [Values.len, ValueArray.length]
      length_startTimes := by simp
      isSome_startTimes := by simp [MetricType.hasStartTime] }

/-- **The split moves `timestamp == t` in front of the alignment, and that changes the answer.**
    A table holds one gauge with the one point `3` at time `5`; the query aligns it by the mean
    over periods of `10` up to `10`, then keeps `timestamp == 10`. The planner moves the whole
    filter in front of the alignment, where it drops the raw point, and the table comes out
    empty. Aligned first, the table has the point at `10`, the mean of the window `(0, 10]`,
    and the filter keeps it. -/
theorem splitAroundAlign_timestamp_eq {δ : Type} (F : F64 δ)
    (regex : String → Except String (String → Bool)) (hash : List (String × FieldValue) → Nat) :
    alignInputSchema ⟨"t", ∅, [.gauge], [.integer]⟩ .meanWithin = .ok ⟨"t", ∅, [.gauge], [.double]⟩ ∧
    ((Predicates.single (.simple false (timestampEq 10))).splitAroundAlign
        ⟨"t", ∅, [.gauge], [.double]⟩ 10).run =
      some (.ok ⟨some (.single (.simple false (timestampEq 10))), none⟩) ∧
    (filterAroundAlign F regex hash 10 10 (some (.simple false (timestampEq 10))) none
        [⟨"t", (∅ : Finmap _).insert ((gaugePoint 5 3).key hash) (gaugePoint 5 3)⟩]).run =
      some (.ok [AlignedTable.new "t"]) ∧
    ∃ out, (alignThenFilter F regex hash 10 10 (.simple false (timestampEq 10))
        [⟨"t", (∅ : Finmap _).insert ((gaugePoint 5 3).key hash) (gaugePoint 5 3)⟩]).run =
      some (.ok [out]) ∧
      out.iter.map (fun ts => (ts.points.timestamps, ts.points.values)) =
        [([10], [some (F.div (F.add F.zero (F.ofInt 3)) (F.ofNat 1))])] := by
  refine ⟨rfl, rfl, ?_, ?_⟩
  · -- pushed: the raw point at 5 fails `timestamp == 10`, and nothing is left to align
    have hvalid : (Filter.simple false (timestampEq 10)).IdentsValid (gaugePoint 5 3) := by decide
    simp only [filterAroundAlign, Filter.apply_singleton regex hash _ _ _ _ hvalid]
    rfl
  · -- aligned first: one output at 10, from the window (0, 10] holding the point at 5
    let aligned : AlignedTimeseries δ :=
      ⟨∅, ⟨[10], [some (F.div (F.add F.zero (F.ofInt 3)) (F.ofNat 1))], rfl⟩⟩
    have halign : alignTimeseries F 10 10 (gaugePoint 5 3) = pure aligned := rfl
    have hvalid : (Filter.simple false (timestampEq 10)).identNames ⊆
        (∅ : Fields).keys ∪ Filter.alignedImplicitFieldNames := by decide
    refine ⟨⟨"t", (∅ : Finmap _).insert (aligned.key hash) aligned⟩, ?_, ?_⟩
    · simp only [alignThenFilter, alignApply, List.mapM_cons, List.mapM_nil,
        alignMeanWithin_singleton, halign, map_pure, pure_bind,
        Filter.applyAligned_singleton F hash regex _ "t" _ aligned hvalid]
      rfl
    · rw [AlignedTable.iter_insert_empty]
      rfl

end Omicron.Oxql
