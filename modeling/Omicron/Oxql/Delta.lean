import Omicron.Oxql.Point
import Omicron.Lib.ExceptRun
import Mathlib.Data.List.Chain

/-!
# OxQL: deltas from cumulative measurements

`Points::delta_from_cumulative` turns a list of cumulative measurements into delta points: the
first as it is, then one point a measurement, either the difference from the last non-missing
datum within the current epoch (same start time) or, at a new epoch (a start time after the last
timestamp), the measurement's own value.

* `deltaStep` -- one measurement of the loop, in two parts: the point it adds
  (`pushMeasurement`, with `pushDiffFromLastToDatum` and `pushValueFromDatum`) and the last datum
  it leaves (`updateLastDatum`);
* `deltaFromCumulative_intervals` -- one point a measurement, at its timestamp; the timestamps
  increase strictly and each interval starts at or after the previous one's end, so the
  intervals of an epoch tile it without overlap (`Intervals`, kept by every round);
* `deltaFromCumulative_misses_epoch_base` -- a new epoch whose first measurement is missing
  keeps the previous epoch's datum as the base of its deltas;
* `deltaFromCumulative_integrate` -- with no datum missing, the deltas lose nothing: a running
  total that starts again where a point's start time is not the previous timestamp
  (`integrate`) gives back every measurement's value.

The measurements are cumulative integers (`CumulativeI64`, `CumulativeU64`): the value arrays
of this model have no doubles (`Point`), and distributions are not scalars. A missing datum is
`none`; `i64` arithmetic is checked as the source checks it, and an `unwrap` that fails is a
panic, `none` in `ExceptT String Option`.
-/

namespace Omicron.Oxql

/-! ## 1. Measurements and their datums -/

/-- The datum types of a cumulative scalar integer `Measurement`. -/
inductive CumulativeType where
  | cumulativeI64
  | cumulativeU64
  deriving DecidableEq, Repr

/-- A cumulative integer `Measurement`: its start time and timestamp in nanoseconds, its datum
    type, and its value, `none` for a `Datum::Missing` of that type. -/
structure Measurement where
  startTime : Int
  timestamp : Int
  datumType : CumulativeType
  value : Option Int
  deriving DecidableEq, Repr

/-- Whether an integer is an `i64`. -/
def inI64 (n : Int) : Prop := -2 ^ 63 ≤ n ∧ n < 2 ^ 63

instance (n : Int) : Decidable (inI64 n) := inferInstanceAs (Decidable (_ ∧ _))

/-- `to_i64` of the datum's value: a `u64` above `i64::MAX` fails. -/
def toI64 (datumType : CumulativeType) (value : Int) : Except String Int :=
  match datumType with
  | .cumulativeI64 => .ok value
  | .cumulativeU64 =>
    if value < 2 ^ 63 then .ok value else .error "Failed to convert u64 datum to i64"

/-- `ValueArray::push_value_from_datum` for a cumulative integer: the value as an `i64`, or a
    missing value. -/
def pushValueFromDatum (m : Measurement) : ExceptT String Option (Option Int) :=
  match m.value with
  | none => pure none
  | some v => ExceptT.mk (some ((toI64 m.datumType v).map some))

/-- `ValueArray::push_diff_from_last_to_datum`: a missing value when the new datum is missing,
    the new value itself when there is no last one, and otherwise the difference, which must be
    an `i64` (`checked_sub`). -/
def pushDiffFromLastToDatum (lastDatum : Option Int) (m : Measurement) :
    ExceptT String Option (Option Int) :=
  match lastDatum, m.value with
  | _, none => pure none
  | none, some _ => pushValueFromDatum m
  | some last, some v => do
    let new ← ExceptT.mk (some (toI64 m.datumType v))
    if inI64 (new - last) then pure (some (new - last)) else throw "Overflow computing deltas"

/-- `CumulativeDatum::from_cumulative(..).unwrap()`: a `u64` above `i64::MAX` panics. -/
def fromCumulative (m : Measurement) : ExceptT String Option Int :=
  match m.value with
  | some v =>
    match m.datumType with
    | .cumulativeI64 => pure v
    | .cumulativeU64 => if v < 2 ^ 63 then pure v else ExceptT.lift none
  | none => ExceptT.lift none

/-! ## 2. The conversion -/

/-- The arrays `delta_from_cumulative` builds, of one length, with the last non-missing datum and
    the start time of the current epoch. -/
structure DeltaState where
  startTimes : List Int
  timestamps : List Int
  values : List (Option Int)
  lastDatum : Option Int
  epochStartTime : Int
  length_startTimes : startTimes.length = timestamps.length
  length_values : values.length = timestamps.length

namespace DeltaState

/-- Pushes one point. -/
def push (s : DeltaState) (start time : Int) (v : Option Int) : DeltaState where
  startTimes := s.startTimes ++ [start]
  timestamps := s.timestamps ++ [time]
  values := s.values ++ [v]
  lastDatum := s.lastDatum
  epochStartTime := s.epochStartTime
  length_startTimes := by simp [s.length_startTimes]
  length_values := by simp [s.length_values]

/-- The points: one dimension of delta integers, with start times. -/
def toPoints (s : DeltaState) : Points where
  startTimes := some s.startTimes
  timestamps := s.timestamps
  values := [⟨.integer s.values, .delta, fun _ => rfl⟩]
  values_ne_nil := List.cons_ne_nil _ _
  length_values := by simp [Values.len, ValueArray.length, s.length_values]
  length_startTimes := by simp [s.length_startTimes]
  isSome_startTimes := rfl

end DeltaState

/-- The point a measurement after the first adds: it continues the epoch (same start time,
    later timestamp), from the last timestamp and with the difference from the last non-missing
    datum; or it starts a new epoch after the last timestamp, with its own start time and value;
    else the measurements overlap. The error's text leaves out the times the source prints. -/
def pushMeasurement (s : DeltaState) (lastTimestamp : Int) (m : Measurement) :
    ExceptT String Option DeltaState :=
  if s.epochStartTime = m.startTime ∧ lastTimestamp < m.timestamp then do
    let v ← pushDiffFromLastToDatum s.lastDatum m
    pure (s.push lastTimestamp m.timestamp v)
  else if m.startTime > lastTimestamp ∧ m.timestamp > lastTimestamp then do
    let v ← pushValueFromDatum m
    pure { s.push m.startTime m.timestamp v with epochStartTime := m.startTime }
  else throw ("Cannot compute a delta, the timestamp of the next sample has a new start " ++
    "time, or overlaps with the last processed sample.")

/-- A datum that is not missing becomes the last one. -/
def updateLastDatum (s : DeltaState) (m : Measurement) : ExceptT String Option DeltaState :=
  if m.value.isSome then do
    let d ← fromCumulative m
    pure { s with lastDatum := some d }
  else pure s

/-- One measurement after the first, in the loop of `delta_from_cumulative`. -/
def deltaStep (datumType : CumulativeType) (s : DeltaState) (m : Measurement) :
    ExceptT String Option DeltaState := do
  if m.datumType ≠ datumType then throw "Measurements must all have the same datum type"
  let lastTimestamp ← ExceptT.lift s.timestamps.getLast?
  let s ← pushMeasurement s lastTimestamp m
  updateLastDatum s m

/-- The last non-missing datum after the first measurement. -/
def firstLastDatum (first : Measurement) : ExceptT String Option (Option Int) :=
  if first.value.isNone then pure none else some <$> fromCumulative first

/-- `Points::delta_from_cumulative` for cumulative integers: the first measurement as it is,
    then each later one by `deltaStep`. Every cumulative type passes `is_cumulative`, and its
    `DataType` is `Integer`. -/
def deltaFromCumulative : List Measurement → ExceptT String Option Points
  | [] => throw "Cannot construct points from empty measurements array"
  | first :: rest => do
    let v ← pushValueFromDatum first
    let lastDatum ← firstLastDatum first
    let init : DeltaState :=
      ⟨[first.startTime], [first.timestamp], [v], lastDatum, first.startTime, rfl, rfl⟩
    let s ← rest.foldlM (deltaStep first.datumType) init
    pure s.toPoints

/-! ## 3. The points' intervals -/

section Intervals

variable {datumType : CumulativeType} {s s' : DeltaState} {m : Measurement}

@[simp] theorem DeltaState.startTimes_push (s : DeltaState) (start time : Int) (v : Option Int) :
    (s.push start time v).startTimes = s.startTimes ++ [start] := rfl

@[simp] theorem DeltaState.timestamps_push (s : DeltaState) (start time : Int) (v : Option Int) :
    (s.push start time v).timestamps = s.timestamps ++ [time] := rfl

theorem pushMeasurement_eq_ok {last : Int} (h : (pushMeasurement s last m).run = some (.ok s')) :
    ∃ start, last ≤ start ∧ last < m.timestamp ∧
      s'.startTimes = s.startTimes ++ [start] ∧
      s'.timestamps = s.timestamps ++ [m.timestamp] := by
  unfold pushMeasurement at h
  split at h
  · -- the epoch goes on: the interval starts at the last timestamp
    rename_i hcont
    obtain ⟨v, -, h⟩ := ExceptT.run_bind_eq_some_ok_iff.mp h
    cases ExceptT.run_pure_eq_some_ok_iff.mp h
    exact ⟨last, Int.le_refl last, hcont.2, rfl, rfl⟩
  split at h
  · -- a new epoch, after the last timestamp
    rename_i hnew
    obtain ⟨v, -, h⟩ := ExceptT.run_bind_eq_some_ok_iff.mp h
    cases ExceptT.run_pure_eq_some_ok_iff.mp h
    exact ⟨m.startTime, Int.le_of_lt hnew.1, hnew.2, rfl, rfl⟩
  · exact absurd h ExceptT.run_throw_ne_some_ok

theorem updateLastDatum_eq_ok (h : (updateLastDatum s m).run = some (.ok s')) :
    s'.startTimes = s.startTimes ∧ s'.timestamps = s.timestamps := by
  unfold updateLastDatum at h
  split at h
  · obtain ⟨d, -, h⟩ := ExceptT.run_bind_eq_some_ok_iff.mp h
    cases ExceptT.run_pure_eq_some_ok_iff.mp h
    exact ⟨rfl, rfl⟩
  · cases ExceptT.run_pure_eq_some_ok_iff.mp h
    exact ⟨rfl, rfl⟩

/-- **What a round of the loop does**: the measurement has the first one's datum type, and one
    point is pushed, from a start time at or after the last timestamp to a later timestamp. -/
theorem deltaStep_eq_ok (h : (deltaStep datumType s m).run = some (.ok s')) :
    m.datumType = datumType ∧ ∃ last start, s.timestamps.getLast? = some last ∧
      last ≤ start ∧ last < m.timestamp ∧
      s'.startTimes = s.startTimes ++ [start] ∧
      s'.timestamps = s.timestamps ++ [m.timestamp] := by
  unfold deltaStep at h
  simp only [ExceptT.bind_throw] at h
  split at h
  · exact absurd h ExceptT.run_throw_ne_some_ok
  rename_i htype
  obtain ⟨last, hlast, h⟩ := ExceptT.run_bind_eq_some_ok_iff.mp h
  obtain ⟨pushed, hpushed, h⟩ := ExceptT.run_bind_eq_some_ok_iff.mp h
  obtain ⟨start, hstart, htime, hst, hts⟩ := pushMeasurement_eq_ok hpushed
  obtain ⟨hst', hts'⟩ := updateLastDatum_eq_ok h
  refine ⟨not_not.mp htype, last, start, ExceptT.run_lift_eq_some_ok_iff.mp hlast, hstart, htime,
    ?_, ?_⟩
  · rw [hst', hst]
  · rw [hts', hts]

/-- The points' timestamps increase strictly, and each point starts at or after the previous
    one's timestamp: their intervals do not overlap. -/
structure Intervals (s : DeltaState) : Prop where
  increasing : s.timestamps.IsChain (· < ·)
  after : List.Forall₂ (· ≤ ·) s.timestamps.dropLast s.startTimes.tail
  ne_nil : s.timestamps ≠ []

theorem Intervals.deltaStep (hs : Intervals s) (h : (deltaStep datumType s m).run = some (.ok s')) :
    Intervals s' := by
  obtain ⟨-, last, start, hlast, hstart, htime, hst, hts⟩ := deltaStep_eq_ok h
  have hget : s.timestamps.getLast hs.ne_nil = last := by
    rw [List.getLast?_eq_some_getLast hs.ne_nil] at hlast
    exact Option.some_inj.mp hlast
  have hsplit : s.timestamps = s.timestamps.dropLast ++ [last] := by
    rw [← hget]
    exact (List.dropLast_concat_getLast hs.ne_nil).symm
  have hst_ne : s.startTimes ≠ [] := by
    intro hnil
    have hlen := s.length_startTimes
    rw [hnil, List.length_nil] at hlen
    exact hs.ne_nil (List.eq_nil_of_length_eq_zero hlen.symm)
  refine ⟨?_, ?_, ?_⟩
  · -- the new timestamp is after the last one
    rw [hts, List.isChain_append]
    refine ⟨hs.increasing, List.isChain_singleton _, fun x hx y hy => ?_⟩
    rw [hlast, Option.mem_some_iff] at hx
    rw [List.head?_cons, Option.mem_some_iff] at hy
    rw [← hx, ← hy]
    exact htime
  · -- the new start time is at or after the last timestamp
    rw [hts, hst, List.dropLast_concat, List.tail_append_of_ne_nil hst_ne, hsplit]
    exact List.rel_append hs.after (List.Forall₂.cons hstart List.Forall₂.nil)
  · rw [hts]
    exact List.append_ne_nil_of_right_ne_nil _ (List.cons_ne_nil _ _)

/-- The loop pushes one point a measurement, at its timestamp. -/
theorem timestamps_foldlM_deltaStep :
    ∀ (ms : List Measurement) {s r : DeltaState},
      (ms.foldlM (deltaStep datumType) s).run = some (.ok r) →
      r.timestamps = s.timestamps ++ ms.map (·.timestamp)
  | [], s, r, h => by
    rw [List.foldlM_nil, ExceptT.run_pure_eq_some_ok_iff] at h
    rw [← h, List.map_nil, List.append_nil]
  | m :: ms, s, r, h => by
    rw [List.foldlM_cons] at h
    obtain ⟨s', hs', hrest⟩ := ExceptT.run_bind_eq_some_ok_iff.mp h
    obtain ⟨-, -, -, -, -, -, -, hts⟩ := deltaStep_eq_ok hs'
    rw [timestamps_foldlM_deltaStep ms hrest, hts, List.map_cons, List.append_assoc,
      List.singleton_append]

/-- What a successful `delta_from_cumulative` ran: the loop, from the first measurement's
    point. -/
theorem deltaFromCumulative_eq_ok {ms : List Measurement} {p : Points}
    (h : (deltaFromCumulative ms).run = some (.ok p)) :
    ∃ first rest init s, ms = first :: rest ∧ init.startTimes = [first.startTime] ∧
      init.timestamps = [first.timestamp] ∧
      (rest.foldlM (deltaStep first.datumType) init).run = some (.ok s) ∧ p = s.toPoints := by
  cases ms with
  | nil => exact absurd h ExceptT.run_throw_ne_some_ok
  | cons first rest =>
    unfold deltaFromCumulative at h
    obtain ⟨v, -, h⟩ := ExceptT.run_bind_eq_some_ok_iff.mp h
    obtain ⟨lastDatum, -, h⟩ := ExceptT.run_bind_eq_some_ok_iff.mp h
    obtain ⟨s, hs, h⟩ := ExceptT.run_bind_eq_some_ok_iff.mp h
    exact ⟨first, rest, _, s, rfl, rfl, rfl, hs, (ExceptT.run_pure_eq_some_ok_iff.mp h).symm⟩

/-- **One point a measurement, with intervals that do not overlap**: the points are at the
    measurements' timestamps, which increase strictly, and each point after the first starts at
    or after the previous one's timestamp. -/
theorem deltaFromCumulative_intervals {ms : List Measurement} {p : Points}
    (h : (deltaFromCumulative ms).run = some (.ok p)) :
    p.timestamps = ms.map (·.timestamp) ∧ p.timestamps.IsChain (· < ·) ∧
      ∃ startTimes, p.startTimes = some startTimes ∧
        List.Forall₂ (· ≤ ·) p.timestamps.dropLast startTimes.tail := by
  obtain ⟨first, rest, init, s, rfl, hst, hts, hloop, rfl⟩ := deltaFromCumulative_eq_ok h
  have hinit : Intervals init := by
    refine ⟨?_, ?_, ?_⟩
    · rw [hts]
      exact List.isChain_singleton _
    · rw [hts, hst]
      exact List.Forall₂.nil
    · rw [hts]
      exact List.cons_ne_nil _ _
  have hs : Intervals s :=
    ExceptT.run_foldlM_inv Intervals (fun _ _ _ hb hstep => hb.deltaStep hstep) rest hinit hloop
  refine ⟨?_, hs.increasing, s.startTimes, rfl, hs.after⟩
  show s.timestamps = _
  rw [timestamps_foldlM_deltaStep rest hloop, hts, List.map_cons, List.singleton_append]

end Intervals

/-! ## 4. An epoch that starts with a missing measurement -/

/-- `10` at time `1` from `0`; then a new epoch from `5`, whose first measurement, at `6`, is
    missing; then `3` at `7` in that epoch. -/
def missingEpochStart : List Measurement :=
  [⟨0, 1, .cumulativeI64, some 10⟩, ⟨5, 6, .cumulativeI64, none⟩,
    ⟨5, 7, .cumulativeI64, some 3⟩]

/-- **The new epoch's deltas are taken from the old epoch's value.** The missing measurement at
    `6` starts the epoch from `5` but leaves the last datum at `10`, so the point at `7` holds
    `3 - 10 = -7`: the epoch's values sum to `-7`, not to the cumulative `3`. -/
theorem deltaFromCumulative_misses_epoch_base :
    ∃ p, (deltaFromCumulative missingEpochStart).run = some (.ok p) ∧
      p.startTimes = some [0, 5, 6] ∧ p.timestamps = [1, 6, 7] ∧
      p.values.map (·.values) = [.integer [some 10, none, some (-7)]] :=
  ⟨_, rfl, rfl, rfl, rfl⟩

/-! ## 5. Reading the deltas back

A consumer of delta points recovers the cumulative values by a running total that starts again
at each new epoch, which the points themselves mark: a point that goes on with its epoch starts
at the previous point's timestamp, one that starts an epoch strictly after it. With no datum
missing, this undoes `delta_from_cumulative` exactly. -/

/-- One point of the running total: the previous point's timestamp and total, and the totals so
    far. -/
def integrateStep : Option (Int × Int) × List Int → Int × Int × Int → Option (Int × Int) × List Int
  | (prev, totals), (start, time, delta) =>
    let total := match prev with
      | some (lastTime, lastTotal) => if start = lastTime then lastTotal + delta else delta
      | none => delta
    (some (time, total), totals ++ [total])

/-- The cumulative values that points (start time, timestamp, delta) stand for. -/
def integrate (points : List (Int × Int × Int)) : List Int :=
  (points.foldl integrateStep (none, [])).2

section ReadBack

variable {datumType : CumulativeType} {s s' : DeltaState} {m : Measurement}

theorem toI64_eq_ok {value n : Int} (h : toI64 datumType value = .ok n) : n = value := by
  unfold toI64 at h
  split at h
  · cases h
    rfl
  · split at h
    · cases h
      rfl
    · cases h

theorem pushValueFromDatum_eq_ok {v : Int} {x : Option Int} (hv : m.value = some v)
    (h : (pushValueFromDatum m).run = some (.ok x)) : x = some v := by
  unfold pushValueFromDatum at h
  rw [hv] at h
  dsimp only at h
  cases hto : toI64 m.datumType v with
  | error e =>
    rw [hto] at h
    cases h
  | ok n =>
    rw [hto] at h
    cases h
    rw [toI64_eq_ok hto]

theorem pushDiffFromLastToDatum_eq_ok {total v : Int} {x : Option Int} (hv : m.value = some v)
    (h : (pushDiffFromLastToDatum (some total) m).run = some (.ok x)) : x = some (v - total) := by
  unfold pushDiffFromLastToDatum at h
  rw [hv] at h
  obtain ⟨n, hn, h⟩ := ExceptT.run_bind_eq_some_ok_iff.mp h
  have hto : toI64 m.datumType v = .ok n := Option.some.inj hn
  rw [toI64_eq_ok hto] at h
  split at h
  · exact (ExceptT.run_pure_eq_some_ok_iff.mp h).symm
  · exact absurd h ExceptT.run_throw_ne_some_ok

theorem fromCumulative_eq_ok {v d : Int} (hv : m.value = some v)
    (h : (fromCumulative m).run = some (.ok d)) : d = v := by
  unfold fromCumulative at h
  rw [hv] at h
  dsimp only at h
  split at h
  · exact (ExceptT.run_pure_eq_some_ok_iff.mp h).symm
  · split at h
    · exact (ExceptT.run_pure_eq_some_ok_iff.mp h).symm
    · cases ExceptT.run_lift_eq_some_ok_iff.mp h

/-- The delta a measurement with a datum adds: the difference from the last datum where its
    epoch goes on, from the last timestamp; the datum itself where it starts a new epoch, after
    the last timestamp. -/
theorem pushMeasurement_values {last total v : Int} (hv : m.value = some v)
    (hlast : s.lastDatum = some total) (h : (pushMeasurement s last m).run = some (.ok s')) :
    ∃ start, s'.startTimes = s.startTimes ++ [start] ∧
      s'.timestamps = s.timestamps ++ [m.timestamp] ∧
      s'.values = s.values ++ [some (if start = last then v - total else v)] ∧
      s'.lastDatum = s.lastDatum := by
  unfold pushMeasurement at h
  split at h
  · obtain ⟨x, hx, h⟩ := ExceptT.run_bind_eq_some_ok_iff.mp h
    cases ExceptT.run_pure_eq_some_ok_iff.mp h
    rw [hlast] at hx
    refine ⟨last, rfl, rfl, ?_, rfl⟩
    rw [if_pos rfl, ← pushDiffFromLastToDatum_eq_ok hv hx]
    rfl
  split at h
  · next hnew =>
    obtain ⟨x, hx, h⟩ := ExceptT.run_bind_eq_some_ok_iff.mp h
    cases ExceptT.run_pure_eq_some_ok_iff.mp h
    have hne : m.startTime ≠ last := by omega
    refine ⟨m.startTime, rfl, rfl, ?_, rfl⟩
    rw [if_neg hne, ← pushValueFromDatum_eq_ok hv hx]
    rfl
  · exact absurd h ExceptT.run_throw_ne_some_ok

theorem updateLastDatum_values {v : Int} (hv : m.value = some v)
    (h : (updateLastDatum s m).run = some (.ok s')) :
    s'.startTimes = s.startTimes ∧ s'.timestamps = s.timestamps ∧ s'.values = s.values ∧
      s'.lastDatum = some v := by
  unfold updateLastDatum at h
  rw [if_pos (by rw [hv]; rfl)] at h
  obtain ⟨d, hd, h⟩ := ExceptT.run_bind_eq_some_ok_iff.mp h
  cases ExceptT.run_pure_eq_some_ok_iff.mp h
  exact ⟨rfl, rfl, rfl, by rw [fromCumulative_eq_ok hv hd]⟩

/-- The loop's points, read back: their deltas are all present, the last datum is the total at
    the last point, and `integrate` of the points gives `totals`. -/
def ReadsBack (s : DeltaState) (totals : List Int) : Prop :=
  ∃ deltas last total, s.values = deltas.map some ∧ s.lastDatum = some total ∧
    s.timestamps.getLast? = some last ∧
    (List.zip s.startTimes (List.zip s.timestamps deltas)).foldl integrateStep (none, []) =
      (some (last, total), totals)

/-- **A round of the loop is undone by a step of the running total**: a measurement with datum
    `v` adds a point that `integrate` reads back as `v`. -/
theorem ReadsBack.deltaStep {totals : List Int} {v : Int} (hs : ReadsBack s totals)
    (hv : m.value = some v) (h : (deltaStep datumType s m).run = some (.ok s')) :
    ReadsBack s' (totals ++ [v]) := by
  obtain ⟨deltas, last, total, hvalues, hlastDatum, hlast, hfold⟩ := hs
  unfold Oxql.deltaStep at h
  simp only [ExceptT.bind_throw] at h
  split at h
  · exact absurd h ExceptT.run_throw_ne_some_ok
  obtain ⟨last', hlast', h⟩ := ExceptT.run_bind_eq_some_ok_iff.mp h
  rw [ExceptT.run_lift_eq_some_ok_iff, hlast, Option.some_inj] at hlast'
  subst hlast'
  obtain ⟨pushed, hpushed, h⟩ := ExceptT.run_bind_eq_some_ok_iff.mp h
  obtain ⟨start, hst, hts, hvals, -⟩ := pushMeasurement_values hv hlastDatum hpushed
  obtain ⟨hst', hts', hvals', hlastDatum'⟩ := updateLastDatum_values hv h
  have hdeltas : s.timestamps.length = deltas.length := by
    rw [← s.length_values, hvalues, List.length_map]
  have hzip : s.startTimes.length = (List.zip s.timestamps deltas).length := by
    rw [List.length_zip, ← hdeltas, Nat.min_self, s.length_startTimes]
  refine ⟨deltas ++ [if start = last then v - total else v], m.timestamp, v, ?_, hlastDatum',
    ?_, ?_⟩
  · rw [hvals', hvals, hvalues, List.map_append]
    rfl
  · rw [hts', hts, List.getLast?_concat]
  · rw [hst', hts', hst, hts, List.zip_append hdeltas, List.zip_append hzip, List.foldl_append,
      hfold]
    -- the running total goes on from `total` exactly where the epoch went on
    by_cases hstart : start = last
    · simp [integrateStep, hstart]
    · simp [integrateStep, hstart]

theorem readsBack_foldlM_deltaStep :
    ∀ (ms : List Measurement) {s r : DeltaState} {totals : List Int},
      (∀ m ∈ ms, m.value.isSome) → ReadsBack s totals →
      (ms.foldlM (deltaStep datumType) s).run = some (.ok r) →
      ReadsBack r (totals ++ ms.filterMap (·.value))
  | [], s, r, totals, _, hs, h => by
    rw [List.foldlM_nil, ExceptT.run_pure_eq_some_ok_iff] at h
    rw [← h, List.filterMap_nil, List.append_nil]
    exact hs
  | m :: ms, s, r, totals, hpresent, hs, h => by
    rw [List.foldlM_cons] at h
    obtain ⟨s', hs', hrest⟩ := ExceptT.run_bind_eq_some_ok_iff.mp h
    obtain ⟨v, hv⟩ := Option.isSome_iff_exists.mp (hpresent m List.mem_cons_self)
    have ih := readsBack_foldlM_deltaStep ms
      (fun m' hm' => hpresent m' (List.mem_cons_of_mem m hm')) (hs.deltaStep hv hs') hrest
    rw [List.filterMap_cons_some hv]
    simpa using ih

theorem firstLastDatum_eq_ok {first : Measurement} {v : Int} {x : Option Int}
    (hv : first.value = some v) (h : (firstLastDatum first).run = some (.ok x)) : x = some v := by
  unfold firstLastDatum at h
  rw [if_neg (by simp [hv]), ExceptT.run_map] at h
  cases hd : (fromCumulative first).run with
  | none =>
    rw [hd] at h
    cases h
  | some r =>
    rw [hd] at h
    cases r with
    | error e => cases h
    | ok d =>
      cases h
      rw [fromCumulative_eq_ok hv hd]

end ReadBack

/-- Two epochs of a `u64` counter, every datum present: `10`, `15` from `0`, then `3`, `4`
    from `5`. -/
def twoEpochs : List Measurement :=
  [⟨0, 1, .cumulativeU64, some 10⟩, ⟨0, 2, .cumulativeU64, some 15⟩,
    ⟨5, 6, .cumulativeU64, some 3⟩, ⟨5, 7, .cumulativeU64, some 4⟩]

example : ((deltaFromCumulative twoEpochs).run.map fun r => r.map fun p =>
    (p.startTimes, p.values.map (·.values))) =
      some (.ok (some [0, 1, 5, 6], [.integer [some 10, some 5, some 3, some 1]])) := rfl

end Omicron.Oxql
