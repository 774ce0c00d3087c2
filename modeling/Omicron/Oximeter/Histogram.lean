import Omicron.Lib.BinarySearch
import Mathlib

/-!
# Oximeter: histograms over an integer support

`histogram.rs` builds a histogram's bins either from left edges (`Histogram::new`, through
`Bins::try_from`) or from ranges (`Histogram::with_bins`), and records a sample by finding its bin
with `binary_search_by` and `unwrap`. The model is over one integer type at a time (`IntType`,
`i8` to `u64` by their bounds); the sum of the samples is the `i64` of `HistogramSupport::Width`,
with the source's `value as i64` and `saturating_add`.

* `new_isOk_of_pairwise` -- `Histogram::new` accepts every increasing, non-empty list of edges;
* `sampleAll_stats` -- over a type whose values are `i64`s and not negative, a run of samples keeps
  the count, the least and greatest sample, and the saturating sum;
* `sample_max_panics` -- `Bins::try_from` adds the last bin `current..` only when `current` is
  below the type's maximum, so a histogram whose edges end at the maximum (or start at the
  minimum with nothing after it) has no bin for the maximum, and sampling it panics; and
  `with_bins` accepts a range that runs backwards, after which a value lies in two bins;
* `sumOfSamples_wraps` -- a `u64` sample of `2 ^ 63` or more is cast to a negative `i64`.

The floating-point statistics (`squared_mean`, the three quantiles) and the start time are left
out: nothing modelled reads them, and they never fail for an integer sample.
-/

namespace Omicron.Oximeter

/-- An integer support type of a histogram, by its least and greatest values (`Bounded`). -/
structure IntType where
  minValue : Int
  maxValue : Int
  deriving DecidableEq, Repr

namespace IntType

def i8 : IntType := ⟨-2 ^ 7, 2 ^ 7 - 1⟩
def u8 : IntType := ⟨0, 2 ^ 8 - 1⟩
def i16 : IntType := ⟨-2 ^ 15, 2 ^ 15 - 1⟩
def u16 : IntType := ⟨0, 2 ^ 16 - 1⟩
def i32 : IntType := ⟨-2 ^ 31, 2 ^ 31 - 1⟩
def u32 : IntType := ⟨0, 2 ^ 32 - 1⟩
def i64 : IntType := ⟨-2 ^ 63, 2 ^ 63 - 1⟩
def u64 : IntType := ⟨0, 2 ^ 64 - 1⟩

end IntType

/-! ## 1. Bins -/

/-- `BinRange`: `..end`, `start..end` and `start..`, the end always excluded (`end` is `stop`). -/
inductive BinRange where
  | rangeTo (stop : Int)
  | range (start stop : Int)
  | rangeFrom (start : Int)
  deriving DecidableEq, Repr

namespace BinRange

/-- `RangeBounds::start_bound`: `none` is `Unbounded`, a start is `Included`. -/
def startBound : BinRange → Option Int
  | .rangeTo _ => none
  | .range start _ | .rangeFrom start => some start

/-- `RangeBounds::end_bound`: `none` is `Unbounded`, an end is `Excluded`. -/
def endBound : BinRange → Option Int
  | .rangeTo stop | .range _ stop => some stop
  | .rangeFrom _ => none

/-- `RangeBounds::contains`. -/
def contains (r : BinRange) (value : Int) : Bool :=
  (r.startBound.all fun start => start ≤ value) && (r.endBound.all fun stop => value < stop)

/-- `BinRange::cmp`: where the value lies relative to the bin, `Less` to its left. -/
def cmp (r : BinRange) (value : Int) : Ordering :=
  if r.contains value then .eq
  else match r with
    | .rangeTo _ => .gt
    | .rangeFrom _ => .lt
    | .range start _ => if value < start then .lt else .gt

end BinRange

/-- `Bin`. -/
structure Bin where
  range : BinRange
  count : Nat
  deriving DecidableEq, Repr

/-- The errors of `HistogramError` that building integer bins can return. -/
inductive HistogramError where
  | emptyBins
  | nonmonotonicBins
  | nonAdjoiningBins (left right : Bin)
  deriving DecidableEq, Repr

/-- The loop of `Bins::try_from` over the edges left after the first bin: each edge must be above
    the last one, and closes a bin. -/
def tryFromLoop : Int → List Int → List Bin → Except HistogramError (Int × List Bin)
  | current, [], bins => .ok (current, bins)
  | current, next :: items, bins =>
    if current < next then tryFromLoop next items (bins ++ [⟨.range current next, 0⟩])
    else .error .nonmonotonicBins

/-- `Bins::try_from`: a first bin from the type's minimum, a bin between consecutive edges, and
    a last bin `current..` when `current` is below the maximum. An edge at the minimum is taken
    with the next one, or with the maximum when there is none. `ensure_finite` holds of every
    integer, so its checks are left out. -/
def binsTryFrom (t : IntType) : List Int → Except HistogramError (List Bin)
  | [] => .error .emptyBins
  | current :: items => do
    let (current, items, bins) :=
      if t.minValue < current then (current, items, [⟨.range t.minValue current, 0⟩])
      else if current = t.minValue then
        let next := items.head?.getD t.maxValue
        (next, items.tail, [⟨.range t.minValue next, 0⟩])
      else (current, items, [])
    let (current, bins) ← tryFromLoop current items bins
    pure (if current < t.maxValue then bins ++ [⟨.rangeFrom current, 0⟩] else bins)

/-- The check of `Histogram::with_bins` that neighbouring bins share an edge: `none` where it
    reaches `unreachable!()`, a pair that is not an excluded end followed by an included start. -/
def checkAdjoining : List Bin → Option (Except HistogramError Unit)
  | first :: second :: rest =>
    match first.range.endBound, second.range.startBound with
    | some stop, some start =>
      if stop ≠ start then some (.error (.nonAdjoiningBins first second))
      else checkAdjoining (second :: rest)
    | _, _ => none
  | _ => some (.ok ())

/-! ## 2. The histogram -/

/-- `Histogram`, for an integer support: the bins, the number of samples, the least and greatest
    sample, and their sum as an `i64`. -/
structure Histogram where
  bins : List Bin
  nSamples : Nat
  min : Int
  max : Int
  sumOfSamples : Int
  deriving DecidableEq, Repr

/-- `value as i64`: a `u64` at or above `2 ^ 63` wraps to a negative number. -/
def asI64 (value : Int) : Int := (value + 2 ^ 63) % 2 ^ 64 - 2 ^ 63

/-- `i64::saturating_add`. -/
def saturatingAddI64 (a b : Int) : Int := max (-2 ^ 63) (min (2 ^ 63 - 1) (a + b))

namespace Histogram

/-- A histogram with no samples over the given bins. -/
def empty (bins : List Bin) : Histogram := ⟨bins, 0, 0, 0, 0⟩

/-- `Histogram::new`. -/
def new (t : IntType) (leftEdges : List Int) : Except HistogramError Histogram :=
  (binsTryFrom t leftEdges).map empty

/-- `Histogram::with_bins`: a bin `MIN..start` before a first bin that starts above the minimum
    (a first `..end` becomes `MIN..end`), a bin `end..` after a last bin that ends at or below the
    maximum, then the check that neighbours share an edge. `none` is the `unreachable!()`. -/
def withBins (t : IntType) : List BinRange → Option (Except HistogramError Histogram)
  | [] => some (.error .emptyBins)
  | first :: rest =>
    let (pre, kept) : List Bin × List BinRange := match first with
      | .rangeTo stop => ([⟨.range t.minValue stop, 0⟩], rest)
      | .range start _ | .rangeFrom start =>
        (if t.minValue < start then [⟨.range t.minValue start, 0⟩] else [], first :: rest)
    let bins : List Bin := pre ++ kept.map fun range => ⟨range, 0⟩
    let bins : List Bin := match bins.getLast?.bind (·.range.endBound) with
      | some stop => if stop ≤ t.maxValue then bins ++ [⟨.rangeFrom stop, 0⟩] else bins
      | none => bins
    (checkAdjoining bins).map fun checked => checked.map fun _ => empty bins

/-- `Record::sample` for an integer type: the bin `binary_search_by` finds gets one more count,
    and the count, the least and greatest sample and the sum are updated, the least and greatest
    reset first when there are no samples yet. `none` is the panic of `unwrap` when the search
    finds no bin. -/
def sample (t : IntType) (h : Histogram) (value : Int) : Option Histogram :=
  let lo := if h.nSamples = 0 then t.maxValue else h.min
  let hi := if h.nSamples = 0 then t.minValue else h.max
  match binarySearchBy h.bins (fun bin => (bin.range.cmp value).swap) with
  | .error _ => none
  | .ok index =>
    some
      { bins := h.bins.modify index fun bin => { bin with count := bin.count + 1 }
        nSamples := h.nSamples + 1
        min := Min.min lo value
        max := Max.max hi value
        sumOfSamples := saturatingAddI64 h.sumOfSamples (asI64 value) }

/-- Samples recorded one after the other, `none` when one panics. -/
def sampleAll (t : IntType) (h : Histogram) : List Int → Option Histogram
  | [] => some h
  | v :: vs => (h.sample t v).bind fun h' => h'.sampleAll t vs

/-! ## 3. Increasing edges make a histogram -/

/-- The loop of `Bins::try_from` accepts every increasing run of edges. -/
theorem tryFromLoop_isOk {current : Int} {items : List Int} {bins : List Bin}
    (h : (current :: items).Pairwise (· < ·)) : ∃ r, tryFromLoop current items bins = .ok r := by
  induction items generalizing current bins with
  | nil => exact ⟨_, rfl⟩
  | cons next items ih =>
    have hlt : current < next := List.rel_of_pairwise_cons h List.mem_cons_self
    rw [tryFromLoop, if_pos hlt]
    exact ih (List.Pairwise.of_cons h)

/-- Nor is the first edge ever refused: it is above, at or below the minimum. -/
theorem binsTryFrom_isOk {t : IntType} {edges : List Int} (hne : edges ≠ [])
    (h : edges.Pairwise (· < ·)) : ∃ bins, binsTryFrom t edges = .ok bins := by
  obtain ⟨current, items, rfl⟩ := List.exists_cons_of_ne_nil hne
  have hitems : items.Pairwise (· < ·) := List.Pairwise.of_cons h
  rw [binsTryFrom]
  by_cases hmin : t.minValue < current
  · -- a first bin from the minimum, then every edge
    obtain ⟨r, hr⟩ := @tryFromLoop_isOk current items [⟨.range t.minValue current, 0⟩] h
    rw [if_pos hmin]
    simp only [hr]
    exact ⟨_, rfl⟩
  by_cases heq : current = t.minValue
  · -- the first edge is the minimum: the first bin runs to the next edge
    rw [if_neg hmin, if_pos heq]
    cases items with
    | nil => exact ⟨_, rfl⟩
    | cons next rest =>
      obtain ⟨r, hr⟩ := @tryFromLoop_isOk next rest [⟨.range t.minValue next, 0⟩] hitems
      simp only [List.head?_cons, Option.getD_some, List.tail_cons, hr]
      exact ⟨_, rfl⟩
  · -- the first edge is below the minimum
    obtain ⟨r, hr⟩ := @tryFromLoop_isOk current items [] h
    rw [if_neg hmin, if_neg heq]
    simp only [hr]
    exact ⟨_, rfl⟩

/-- **`Histogram::new` accepts every increasing, non-empty list of edges.** -/
theorem new_isOk_of_pairwise {t : IntType} {edges : List Int} (hne : edges ≠ [])
    (h : edges.Pairwise (· < ·)) : ∃ hist, Histogram.new t edges = .ok hist := by
  obtain ⟨bins, hbins⟩ := binsTryFrom_isOk hne h
  exact ⟨empty bins, by rw [new, hbins]; rfl⟩

/-! ## 4. Recording a sample -/

/-- The search's comparison: a bin is `Equal` to a value exactly when it holds it. -/
theorem cmp_swap_eq_iff (r : BinRange) (value : Int) :
    (r.cmp value).swap = .eq ↔ r.contains value = true := by
  unfold BinRange.cmp
  split
  · simp_all
  · rename_i hc
    refine ⟨fun h => ?_, fun h => absurd h hc⟩
    split at h <;> (try split at h) <;> cases h

/-- **A value no bin holds panics**, whatever the order of the bins. -/
theorem sample_eq_none {t : IntType} {h : Histogram} {value : Int}
    (hnone : ∀ bin ∈ h.bins, bin.range.contains value = false) : h.sample t value = none := by
  unfold sample
  dsimp only
  split
  · rfl
  · rename_i index hsearch
    obtain ⟨hi, hfi⟩ := binarySearchBy_sound hsearch
    have := hnone _ (List.getElem_mem hi)
    rw [(cmp_swap_eq_iff _ _).mp hfi] at this
    cases this

/-- **On bins ordered around the value, a value some bin holds is recorded.** -/
theorem sample_isSome {t : IntType} {h : Histogram} {value : Int}
    (hsorted : SortedBy h.bins fun bin => (bin.range.cmp value).swap) {bin : Bin}
    (hbin : bin ∈ h.bins) (hc : bin.range.contains value = true) : (h.sample t value).isSome := by
  obtain ⟨k, hk, rfl⟩ := List.getElem_of_mem hbin
  obtain ⟨index, hsearch⟩ := binarySearchBy_complete hsorted hk ((cmp_swap_eq_iff _ _).mpr hc)
  unfold sample
  rw [hsearch]
  rfl

/-- What one recorded sample does to the statistics, whichever bin it lands in. -/
theorem sample_eq_some {t : IntType} {h h' : Histogram} {value : Int}
    (hs : h.sample t value = some h') :
    h'.nSamples = h.nSamples + 1 ∧
      h'.min = Min.min (if h.nSamples = 0 then t.maxValue else h.min) value ∧
      h'.max = Max.max (if h.nSamples = 0 then t.minValue else h.max) value ∧
      h'.sumOfSamples = saturatingAddI64 h.sumOfSamples (asI64 value) := by
  unfold sample at hs
  dsimp only at hs
  split at hs
  · cases hs
  · cases hs
    exact ⟨rfl, rfl, rfl, rfl⟩

/-- The statistics of a histogram are those of the samples `p`: their number, their least and
    greatest, and their sum saturated at `i64::MAX`. -/
structure Summarizes (h : Histogram) (p : List Int) : Prop where
  nSamples : h.nSamples = p.length
  sum : h.sumOfSamples = Min.min p.sum (2 ^ 63 - 1)
  min_mem : p ≠ [] → h.min ∈ p
  min_le : ∀ v ∈ p, h.min ≤ v
  max_mem : p ≠ [] → h.max ∈ p
  le_max : ∀ v ∈ p, v ≤ h.max

/-- A value that is an `i64` and not negative is its own `value as i64`. -/
theorem asI64_of_lt {value : Int} (h0 : 0 ≤ value) (h : value < 2 ^ 63) : asI64 value = value := by
  unfold asI64
  rw [Int.emod_eq_of_lt (by omega) (by omega)]
  omega

theorem Summarizes.empty (bins : List Bin) : Summarizes (Histogram.empty bins) [] where
  nSamples := rfl
  sum := rfl
  min_mem h := absurd rfl h
  min_le _ h := absurd h List.not_mem_nil
  max_mem h := absurd rfl h
  le_max _ h := absurd h List.not_mem_nil

/-- **One sample keeps the statistics**, for a value of a type of nonnegative `i64`s. -/
theorem Summarizes.sample {t : IntType} {h h' : Histogram} {p : List Int} {value : Int}
    (hsum : Summarizes h p) (hp : ∀ v ∈ p, 0 ≤ v) (hv : t.minValue ≤ value ∧ value ≤ t.maxValue)
    (ht : 0 ≤ t.minValue ∧ t.maxValue < 2 ^ 63) (hs : h.sample t value = some h') :
    Summarizes h' (p ++ [value]) := by
  obtain ⟨hn, hmin, hmax, hsat⟩ := sample_eq_some hs
  have hpsum : 0 ≤ p.sum := List.sum_nonneg hp
  -- the sum saturates the same way whatever came before
  have hsum' : h'.sumOfSamples = Min.min (p ++ [value]).sum (2 ^ 63 - 1) := by
    rw [hsat, hsum.sum, asI64_of_lt (by omega) (by omega), List.sum_append, List.sum_singleton,
      saturatingAddI64]
    omega
  have hmem : ∀ v, v ∈ p ++ [value] ↔ v ∈ p ∨ v = value := fun v => by simp
  by_cases hp0 : p = []
  · -- the first sample: the least and greatest were reset to the type's bounds
    subst hp0
    have h0 : h.nSamples = 0 := hsum.nSamples
    rw [if_pos h0] at hmin hmax
    have hmin' : h'.min = value := by rw [hmin]; exact Int.min_eq_right hv.2
    have hmax' : h'.max = value := by rw [hmax]; exact Int.max_eq_right hv.1
    exact
      { nSamples := by rw [hn, h0]; rfl
        sum := hsum'
        min_mem := fun _ => by simp [hmin']
        min_le := fun v hv' => by simp_all
        max_mem := fun _ => by simp [hmax']
        le_max := fun v hv' => by simp_all }
  · have hn0 : h.nSamples ≠ 0 := by rw [hsum.nSamples]; simpa using hp0
    rw [if_neg hn0] at hmin hmax
    refine
      { nSamples := by rw [hn, hsum.nSamples, List.length_append, List.length_singleton]
        sum := hsum'
        min_mem := fun _ => ?_
        min_le := fun v hv' => ?_
        max_mem := fun _ => ?_
        le_max := fun v hv' => ?_ }
    · rw [hmin, hmem]
      by_cases hle : h.min ≤ value
      · exact .inl (by rw [Int.min_eq_left hle]; exact hsum.min_mem hp0)
      · exact .inr (Int.min_eq_right (by omega))
    · rw [hmin]
      rcases (hmem v).mp hv' with hv' | rfl
      · exact (Int.min_le_left _ _).trans (hsum.min_le v hv')
      · exact Int.min_le_right _ _
    · rw [hmax, hmem]
      by_cases hle : value ≤ h.max
      · exact .inl (by rw [Int.max_eq_left hle]; exact hsum.max_mem hp0)
      · exact .inr (Int.max_eq_right (by omega))
    · rw [hmax]
      rcases (hmem v).mp hv' with hv' | rfl
      · exact (hsum.le_max v hv').trans (Int.le_max_left _ _)
      · exact Int.le_max_right _ _

/-- **A run of samples keeps the statistics**: over a type whose values are nonnegative `i64`s
    (`u8`, `u16`, `u32`), the count is the number of samples, the least and greatest are the
    least and greatest sample, and the sum is `min (Σ samples) i64::MAX`. -/
theorem sampleAll_stats {t : IntType} (ht : 0 ≤ t.minValue ∧ t.maxValue < 2 ^ 63) :
    ∀ (vs : List Int) {h h' : Histogram} {p : List Int}, Summarizes h p → (∀ v ∈ p, 0 ≤ v) →
      (∀ v ∈ vs, t.minValue ≤ v ∧ v ≤ t.maxValue) → h.sampleAll t vs = some h' →
        Summarizes h' (p ++ vs)
  | [], _, _, _, hsum, _, _, hrun => by
    cases hrun
    simpa using hsum
  | v :: vs, h, h', p, hsum, hp, hvs, hrun => by
    obtain ⟨h₁, hs, hrest⟩ := Option.bind_eq_some_iff.mp hrun
    have hv := hvs v List.mem_cons_self
    have h₁sum := hsum.sample hp hv ht hs
    have := sampleAll_stats ht vs h₁sum
      (fun w hw => by
        rcases List.mem_append.mp hw with hw | hw
        · exact hp w hw
        · rw [List.mem_singleton.mp hw]; omega)
      (fun w hw => hvs w (List.mem_cons_of_mem v hw)) hrest
    simpa using this

end Histogram

/-! ## 5. Where the bins or the sum go wrong -/

/-- **The greatest value can fall outside every bin.** `Histogram::new(&[i64::MIN])` builds the
    one bin `[i64::MIN, i64::MAX)`, as the source's own test expects, and recording `i64::MAX`
    then finds no bin and panics. `Histogram::with_bins(&[5..3])` is accepted, and `4` lies in
    both `[i64::MIN, 5)` and `[3, ..)`. -/
theorem sample_max_panics :
    (∃ h, Histogram.new IntType.i64 [IntType.i64.minValue] = .ok h ∧
      h.bins = [⟨.range IntType.i64.minValue IntType.i64.maxValue, 0⟩] ∧
      h.sample IntType.i64 IntType.i64.maxValue = none) ∧
    (∃ h, Histogram.withBins IntType.i64 [.range 5 3] = some (.ok h) ∧
      (h.bins.filter fun bin => bin.range.contains 4).length = 2) :=
  ⟨⟨_, rfl, rfl, rfl⟩, ⟨_, rfl, rfl⟩⟩

/-- **A `u64` sample of `2 ^ 63` makes the sum negative**: `value as i64` wraps it to
    `i64::MIN`, where the saturating sum of the samples would be `i64::MAX`. -/
theorem sumOfSamples_wraps :
    ∃ h h', Histogram.new IntType.u64 [0] = .ok h ∧ h.sample IntType.u64 (2 ^ 63) = some h' ∧
      h'.nSamples = 1 ∧ h'.sumOfSamples = -2 ^ 63 :=
  ⟨_, _, rfl, rfl, rfl, rfl⟩

end Omicron.Oximeter
