import Omicron.Oxql.Align
import Mathlib.Data.Fin.VecNotation
import Mathlib.Data.Rat.Floor

/-!
# Oximeter: the P² quantile estimator

`Quantile` (`impls::quantile`) estimates a quantile of a stream of samples with five markers,
after the P² algorithm. The first five samples fill the marker heights; at the fifth they are
sorted and the inner markers placed by `adaptive_init`. From then on each sample moves the
markers it lies below (`find_cell`), and each inner marker that is off its desired position by a
whole step is moved by one, its height predicted by a parabola, or a line where the parabola
leaves the neighbours' heights (`adjust_heights`).

* `Quantile.new`, `Quantile.append`, `Quantile.estimate` -- the estimator, with `appendFilled`,
  `findCell`, `cell`, `adjustHeights`, `parabolic`, `linear` and `adaptiveInit` as in the
  source;
* `markerPositions_appendAll_new` -- **the first marker stays at position `1` and the last
  counts the samples**, over every run of appends;
* `estimate_one_sample_eq_zero` -- with fewer than five samples the estimate is read from the
  heights sorted with the `0.0`s not yet overwritten: one positive sample estimates `0.0`.

The arithmetic of `f64` is left abstract (`QuantileFloat`): the results hold for every
implementation of it, with the IEEE facts a run needs stated as hypotheses. A `u64` is a `Nat`,
and its subtraction panics below zero (`subU64`), as with overflow checks on.
-/

namespace Omicron.Oximeter

/-- `f64` as the estimator uses it: `as f64` of a count and of an `i64` (and the integer
    literals), the four operations, the comparisons, `float_ord`'s total order, `signum`,
    `round() as u64` (and `as usize`), and `is_finite`. -/
structure QuantileFloat (φ : Type) where
  ofNat : Nat → φ
  ofInt : Int → φ
  add : φ → φ → φ
  sub : φ → φ → φ
  mul : φ → φ → φ
  div : φ → φ → φ
  lt : φ → φ → Bool
  le : φ → φ → Bool
  totalLe : φ → φ → Bool
  signum : φ → φ
  roundToNat : φ → Nat
  isFinite : φ → Bool

/-- `QuantileError`. -/
inductive QuantileError where
  | invalidPValue
  | insufficientSampleSize
  | nonFiniteValue
  deriving DecidableEq, Repr

/-- `FILLED_MARKER_LEN`. -/
def filledMarkerLen : Nat := 5

/-- `Quantile`: the p value and the five markers' heights, positions and desired positions. The
    last position counts the samples. -/
structure Quantile (φ : Type) where
  p : φ
  markerHeights : Fin 5 → φ
  markerPositions : Fin 5 → Nat
  desiredMarkerPositions : Fin 5 → φ

/-- An index into a marker array, which panics past the end. -/
def getMarker {α : Type} (a : Fin 5 → α) (n : Nat) : Option α :=
  if h : n < 5 then some (a ⟨n, h⟩) else none

variable {φ : Type} (F : QuantileFloat φ)

namespace Quantile

/-! ## 1. The estimator -/

/-- The subtraction of `u64`s (and of `usize`s), which panics below zero. -/
def subU64 (a b : Nat) : Option Nat := if b ≤ a then some (a - b) else none

/-- `Quantile::new`. -/
def new (p : φ) : Except QuantileError (Quantile φ) :=
  if F.lt p (F.ofNat 0) || F.lt (F.ofNat 1) p then .error .invalidPValue
  else .ok
    { p
      markerHeights := fun _ => F.ofNat 0
      -- 1-indexed, the last counting the samples
      markerPositions := ![1, 2, 3, 4, 0]
      desiredMarkerPositions :=
        ![F.ofNat 1, F.add (F.ofNat 1) (F.mul (F.ofNat 2) p),
          F.add (F.ofNat 1) (F.mul (F.ofNat 4) p), F.add (F.ofNat 3) (F.mul (F.ofNat 2) p),
          F.ofNat 5] }

/-- `Quantile::len`: the sample size. -/
def len (q : Quantile φ) : Nat := q.markerPositions 4

/-- `Quantile::is_empty`. -/
def isEmpty (q : Quantile φ) : Bool := q.len == 0

/-- `float_ord::sort` of the heights. `FloatOrd` is a total order, under which a sorted
    permutation is unique, so any sort computes it; this is insertion sort. -/
def sortHeights (heights : Fin 5 → φ) : Fin 5 → φ :=
  fun i => ((List.ofFn heights).insertionSort (fun a b => F.totalLe a b = true)).get
    ⟨i, by rw [List.length_insertionSort, List.length_ofFn]; exact i.isLt⟩

/-- `Quantile::estimate`. Below five samples it sorts the heights, the `0.0`s not yet
    overwritten among them, and reads the one at `round((5 - 1) * p)`. -/
def estimate (q : Quantile φ) : ExceptT QuantileError Option φ :=
  if q.isEmpty then throw .insufficientSampleSize
  else if filledMarkerLen ≤ q.len then pure (q.markerHeights 2)
  else
    let heights := sortHeights F q.markerHeights
    let idx := F.mul (F.sub (F.ofNat filledMarkerLen) (F.ofNat 1)) q.p
    match getMarker heights (F.roundToNat idx) with
    | some height => pure height
    | none => ExceptT.lift none

/-- `Quantile::find_cell`: the last marker whose height is at most the value, `None` below the
    first. -/
def findCell (heights : Fin 5 → φ) (value : φ) : Option Nat :=
  if F.lt value (heights 0) then none
  else some (Oxql.partitionPoint (List.ofFn heights) (fun height => F.le height value) - 1)

/-- The inner marker `i + 1` (of `1..4`), and the markers below and above it. -/
def below (i : Fin 3) : Fin 5 := ⟨i.val, by omega⟩

/-- The inner marker `i + 1`. -/
def marker (i : Fin 3) : Fin 5 := ⟨i.val + 1, by omega⟩

/-- The marker above the inner marker `i + 1`. -/
def above (i : Fin 3) : Fin 5 := ⟨i.val + 2, by omega⟩

/-- `Quantile::parabolic`. -/
def parabolic (q : Quantile φ) (i : Fin 3) (dSignum : φ) : Option φ := do
  let pos := q.markerPositions
  let h := q.markerHeights
  let posDiff1 := F.ofInt ((pos (above i) : Int) - pos (below i))
  let posDiff2 := F.ofInt ((pos (above i) : Int) - pos (marker i))
  let posDiff3 := F.ofInt ((pos (marker i) : Int) - pos (below i))
  let term1 := F.div dSignum posDiff1
  let gapBelow ← subU64 (pos (marker i)) (pos (below i))
  let term2 := F.div (F.mul (F.add (F.ofNat gapBelow) dSignum)
    (F.sub (h (above i)) (h (marker i)))) posDiff2
  let gapAbove ← subU64 (pos (above i)) (pos (marker i))
  let term3 := F.div (F.mul (F.sub (F.ofNat gapAbove) dSignum)
    (F.sub (h (marker i)) (h (below i)))) posDiff3
  pure (F.add (h (marker i)) (F.mul term1 (F.add term2 term3)))

/-- `Quantile::linear`: towards the neighbour on the side of the move. -/
def linear (q : Quantile φ) (i : Fin 3) (dSignum : φ) : φ :=
  let idx := if F.lt dSignum (F.ofNat 0) then below i else above i
  F.add (q.markerHeights (marker i))
    (F.div (F.mul dSignum (F.sub (q.markerHeights idx) (q.markerHeights (marker i))))
      (F.ofInt ((q.markerPositions idx : Int) - q.markerPositions (marker i))))

/-- `Quantile::adjust_heights` of the inner marker `i + 1`: a marker a whole step off its desired
    position, with room to move, moves one step, to the parabola's height or else the line's. -/
def adjustHeights (q : Quantile φ) (i : Fin 3) : Option (Quantile φ) := do
  let pos := q.markerPositions
  let d := F.sub (q.desiredMarkerPositions (marker i)) (F.ofNat (pos (marker i)))
  -- the second disjunct, and its `marker_positions[i] - 1`, only when the first fails
  let moves ←
    (if F.le (F.ofNat 1) d && pos (marker i) + 1 < pos (above i) then some true
    else if F.le d (F.ofInt (-1)) then
      (subU64 (pos (marker i)) 1).map fun lower => decide (pos (below i) < lower)
    else some false)
  if moves then
    let dSignum := F.signum d
    let qPrime ← q.parabolic F i dSignum
    let height :=
      if F.lt (q.markerHeights (below i)) qPrime && F.lt qPrime (q.markerHeights (above i)) then
        qPrime
      else q.linear F i dSignum
    let position ←
      (if F.lt dSignum (F.ofNat 0) then subU64 (pos (marker i)) 1 else some (pos (marker i) + 1))
    pure { q with
      markerHeights := Function.update q.markerHeights (marker i) height
      markerPositions := Function.update pos (marker i) position }
  else pure q

/-- `Quantile::adaptive_init`: the desired positions take the (sorted) heights, the inner
    positions are placed by `p`, and the inner heights read from the desired positions there. -/
def adaptiveInit (q : Quantile φ) : Option (Quantile φ) := do
  let desired := q.markerHeights
  let p := q.p
  let pos1 := F.roundToNat (F.add (F.ofNat 1) (F.mul (F.ofNat 2) p))
  let pos2 := F.roundToNat (F.add (F.ofNat 1) (F.mul (F.ofNat 4) p))
  let pos3 := F.roundToNat (F.add (F.ofNat 3) (F.mul (F.ofNat 2) p))
  let height1 ← getMarker desired (← subU64 pos1 1)
  let height2 ← getMarker desired (← subU64 pos2 1)
  let height3 ← getMarker desired (← subU64 pos3 1)
  pure
    { p
      markerHeights := ![q.markerHeights 0, height1, height2, height3, q.markerHeights 4]
      markerPositions := ![q.markerPositions 0, pos1, pos2, pos3, q.markerPositions 4]
      desiredMarkerPositions := desired }

/-- One more sample at each marker from `i` up (the loop `for i in k + 1..FILLED_MARKER_LEN`). -/
def bumpPosition (positions : Fin 5 → Nat) (i : Nat) : Fin 5 → Nat :=
  if h : i < 5 then Function.update positions ⟨i, h⟩ (positions ⟨i, h⟩ + 1) else positions

/-- The cell `k` of a value, the `match` on `find_cell`: a value above the last height or below
    the first replaces it. -/
def cell (q : Quantile φ) (value : φ) : (Fin 5 → φ) × Nat :=
  match findCell F q.markerHeights value with
  | some 4 => (Function.update q.markerHeights 4 value, 3)
  | some i => (q.markerHeights, i)
  | none => (Function.update q.markerHeights 0 value, 0)

/-- The part of `Quantile::append` once the five heights are filled: the cell of the value (an
    extreme value replaces the extreme height), the desired positions for one more sample, the
    positions above the cell, and the three inner markers adjusted, from the bottom when
    `p >= 0.5` and from the top otherwise. -/
def appendFilled (q : Quantile φ) (value : φ) : Option (Quantile φ) := do
  let (heights, k) := cell F q value
  let count := F.ofNat q.len
  let p := q.p
  let two := F.ofNat 2
  let one := F.ofNat 1
  let desired := Function.update (Function.update (Function.update (Function.update
    q.desiredMarkerPositions
    1 (F.add (F.mul count (F.div p two)) one))
    2 (F.add (F.mul count p) one))
    3 (F.add (F.mul count (F.div (F.add one p) two)) one))
    4 (F.add count one)
  let positions :=
    (List.range' (k + 1) (filledMarkerLen - (k + 1))).foldl bumpPosition q.markerPositions
  let q := { q with
    markerHeights := heights
    markerPositions := positions
    desiredMarkerPositions := desired }
  -- `self.p >= 0.5`, with the literal `0.5` as `1 / 2`
  let order : List (Fin 3) := if F.le (F.div one two) p then [0, 1, 2] else [2, 1, 0]
  order.foldlM (adjustHeights F) q

/-- `Quantile::append` of a sample, as an `f64`. -/
def append (q : Quantile φ) (value : φ) : ExceptT QuantileError Option (Quantile φ) := do
  if !F.isFinite value then throw .nonFiniteValue
  if h : q.len < filledMarkerLen then
    let q : Quantile φ := { q with
      markerHeights := Function.update q.markerHeights ⟨q.len, h⟩ value
      markerPositions := Function.update q.markerPositions 4 (q.len + 1) }
    if q.len = filledMarkerLen then
      ExceptT.lift (adaptiveInit F { q with markerHeights := sortHeights F q.markerHeights })
    else pure q
  else ExceptT.lift (appendFilled F q value)

/-- The samples appended one after the other. -/
def appendAll (q : Quantile φ) (xs : List φ) : ExceptT QuantileError Option (Quantile φ) :=
  xs.foldlM (append F) q

/-! ## 2. The positions -/

/-- `adjust_heights` of marker `i + 1` moves that marker's position and no other. -/
theorem markerPositions_adjustHeights {q q' : Quantile φ} {i : Fin 3}
    (h : adjustHeights F q i = some q') :
    ∀ j, j ≠ marker i → q'.markerPositions j = q.markerPositions j := by
  intro j hj
  unfold adjustHeights at h
  obtain ⟨moves, -, h⟩ := Option.bind_eq_some_iff.mp h
  split at h
  · obtain ⟨qPrime, -, h⟩ := Option.bind_eq_some_iff.mp h
    obtain ⟨position, -, h⟩ := Option.bind_eq_some_iff.mp h
    cases h
    exact Function.update_of_ne hj _ _
  · cases h
    rfl

theorem marker_ne_zero (i : Fin 3) : marker i ≠ 0 := by
  intro h
  have := congrArg Fin.val h
  simp [marker] at this

theorem marker_ne_four (i : Fin 3) : marker i ≠ 4 := by
  intro h
  have hval := congrArg Fin.val h
  simp only [marker] at hval
  omega

/-- Adjusting the inner markers keeps the first and the last position. -/
theorem markerPositions_foldlM_adjustHeights {q q' : Quantile φ} {order : List (Fin 3)}
    (h : order.foldlM (adjustHeights F) q = some q') :
    q'.markerPositions 0 = q.markerPositions 0 ∧ q'.len = q.len := by
  refine Option.foldlM_inv (fun r : Quantile φ => r.markerPositions 0 = q.markerPositions 0 ∧
    r.len = q.len) (fun b i b' hb hstep => ?_) order ⟨rfl, rfl⟩ h
  have hkeep := markerPositions_adjustHeights F hstep
  -- the inner markers are `1`, `2`, `3`: neither the first nor the last
  exact ⟨(hkeep 0 (marker_ne_zero i).symm).trans hb.1,
    (hkeep 4 (marker_ne_four i).symm).trans hb.2⟩

/-- `adaptive_init` places the inner markers only. -/
theorem markerPositions_adaptiveInit {q q' : Quantile φ} (h : adaptiveInit F q = some q') :
    q'.markerPositions 0 = q.markerPositions 0 ∧ q'.len = q.len := by
  unfold adaptiveInit at h
  -- three indices and three reads, then the new markers
  obtain ⟨_, -, h⟩ := Option.bind_eq_some_iff.mp h
  obtain ⟨_, -, h⟩ := Option.bind_eq_some_iff.mp h
  obtain ⟨_, -, h⟩ := Option.bind_eq_some_iff.mp h
  obtain ⟨_, -, h⟩ := Option.bind_eq_some_iff.mp h
  obtain ⟨_, -, h⟩ := Option.bind_eq_some_iff.mp h
  obtain ⟨_, -, h⟩ := Option.bind_eq_some_iff.mp h
  cases h
  exact ⟨rfl, rfl⟩

/-- Bumping the positions at a list of indices adds, to each marker, how often it occurs. -/
theorem foldl_bumpPosition (l : List Nat) (positions : Fin 5 → Nat) (j : Fin 5) :
    l.foldl bumpPosition positions j = positions j + l.count j.val := by
  induction l generalizing positions with
  | nil => simp
  | cons i l ih =>
    rw [List.foldl_cons, ih, List.count_cons]
    unfold bumpPosition
    split
    · rename_i hi
      by_cases hij : j = ⟨i, hi⟩
      · subst hij
        simp only [Function.update_self, beq_self_eq_true, if_true]
        omega
      · have hval : j.val ≠ i := fun h => hij (Fin.ext h)
        rw [Function.update_of_ne hij]
        simp [Ne.symm hval]
    -- an index past the end is never a marker's
    · have hval : i ≠ j.val := by omega
      simp [hval]

/-- `find_cell` returns a marker's index. -/
theorem findCell_le {heights : Fin 5 → φ} {value : φ} {i : Nat}
    (h : findCell F heights value = some i) : i ≤ 4 := by
  unfold findCell at h
  split at h
  · cases h
  · cases h
    have hpp := Oxql.partitionPoint_le_length (List.ofFn heights) fun height => F.le height value
    rw [List.length_ofFn] at hpp
    omega

/-- The cell a sample falls in is below the last marker. -/
theorem snd_cell_le (q : Quantile φ) (value : φ) : (cell F q value).2 ≤ 3 := by
  unfold cell
  split
  · exact Nat.le_refl 3
  · rename_i i hne hfind
    exact Nat.le_of_lt_succ (Nat.lt_of_le_of_ne (findCell_le F hfind) hne)
  · exact Nat.zero_le 3

/-- Past five samples an append counts the sample in the last position. -/
theorem markerPositions_appendFilled {q q' : Quantile φ} {value : φ}
    (h : appendFilled F q value = some q') :
    q'.markerPositions 0 = q.markerPositions 0 ∧ q'.len = q.len + 1 := by
  unfold appendFilled at h
  have hk := snd_cell_le F q value
  generalize cell F q value = c at h hk
  obtain ⟨heights, k⟩ := c
  obtain ⟨hfirst, hlast⟩ := markerPositions_foldlM_adjustHeights F h
  dsimp only at hk
  rw [hfirst, len, hlast, len]
  dsimp only
  rw [foldl_bumpPosition, foldl_bumpPosition]
  -- the markers above the cell move up: the last always, the first never
  have hfirstOut : (0 : Nat) ∉ List.range' (k + 1) (filledMarkerLen - (k + 1)) := by
    simp [List.mem_range'_1]
  have hlastIn : (4 : Nat) ∈ List.range' (k + 1) (filledMarkerLen - (k + 1)) := by
    simp only [List.mem_range'_1, filledMarkerLen]
    omega
  refine ⟨?_, ?_⟩
  · rw [Fin.val_zero, List.count_eq_zero_of_not_mem hfirstOut, Nat.add_zero]
  · rw [show ((4 : Fin 5) : Nat) = 4 from rfl, List.count_eq_one_of_mem List.nodup_range' hlastIn]

/-- Every append keeps the first position and counts the sample in the last. -/
theorem markerPositions_append {q q' : Quantile φ} {value : φ}
    (h : (append F q value).run = some (.ok q')) :
    q'.markerPositions 0 = q.markerPositions 0 ∧ q'.len = q.len + 1 := by
  unfold append at h
  simp only [ExceptT.bind_throw] at h
  split at h
  · exact absurd h ExceptT.run_throw_ne_some_ok
  -- a height stored and the sample counted, below five samples
  have hfilled : (Function.update q.markerPositions 4 (q.len + 1)) 0 = q.markerPositions 0 ∧
      (Function.update q.markerPositions 4 (q.len + 1)) 4 = q.len + 1 :=
    ⟨Function.update_of_ne (by decide) _ _, Function.update_self _ _ _⟩
  split at h
  · split at h
    · rw [ExceptT.run_lift_eq_some_ok_iff] at h
      obtain ⟨hfirst, hlast⟩ := markerPositions_adaptiveInit F h
      exact ⟨hfirst.trans hfilled.1, hlast.trans hfilled.2⟩
    · rw [ExceptT.run_pure_eq_some_ok_iff] at h
      subst h
      exact hfilled
  · rw [ExceptT.run_lift_eq_some_ok_iff] at h
    exact markerPositions_appendFilled F h

theorem markerPositions_appendAll {q q' : Quantile φ} {xs : List φ}
    (h : (appendAll F q xs).run = some (.ok q')) :
    q'.markerPositions 0 = q.markerPositions 0 ∧ q'.len = q.len + xs.length := by
  induction xs generalizing q with
  | nil =>
    rw [appendAll, List.foldlM_nil, ExceptT.run_pure_eq_some_ok_iff] at h
    subst h
    exact ⟨rfl, rfl⟩
  | cons x xs ih =>
    rw [appendAll, List.foldlM_cons] at h
    obtain ⟨q₁, h₁, hrest⟩ := ExceptT.run_bind_eq_some_ok_iff.mp h
    obtain ⟨hfirst₁, hlast₁⟩ := markerPositions_append F h₁
    obtain ⟨hfirst, hlast⟩ := ih hrest
    refine ⟨hfirst.trans hfirst₁, ?_⟩
    rw [hlast, hlast₁, List.length_cons]
    omega

/-- **The first marker stays at `1` and the last counts the samples**, after every run of
    appends to a new estimator. -/
theorem markerPositions_appendAll_new {p : φ} {q q' : Quantile φ} {xs : List φ}
    (hnew : new F p = .ok q) (h : (appendAll F q xs).run = some (.ok q')) :
    q'.markerPositions 0 = 1 ∧ q'.len = xs.length := by
  unfold new at hnew
  split at hnew
  · cases hnew
  · cases hnew
    obtain ⟨hfirst, hlast⟩ := markerPositions_appendAll F h
    exact ⟨hfirst, hlast.trans (Nat.zero_add _)⟩

/-! ## 3. One sample -/

/-- The heights after one sample: the sample, then the four `0.0`s of `new`. -/
theorem sortHeights_one_sample {x : φ} (hxz : F.totalLe x (F.ofNat 0) = false)
    (hzz : F.totalLe (F.ofNat 0) (F.ofNat 0) = true)
    {n : Nat} (hn : n < 4) :
    sortHeights F (Function.update (fun _ => F.ofNat 0) 0 x) ⟨n, by omega⟩ = F.ofNat 0 := by
  have hsorted : (List.ofFn (Function.update (fun _ : Fin 5 => F.ofNat 0) 0 x)).insertionSort
      (fun a b => F.totalLe a b = true) = [F.ofNat 0, F.ofNat 0, F.ofNat 0, F.ofNat 0, x] := by
    simp [List.ofFn_succ, List.insertionSort, List.orderedInsert, hxz, hzz]
  unfold sortHeights
  rw [List.get_of_eq hsorted]
  -- the sample is sorted last, past every index below four
  match n, hn with
  | 0, _ | 1, _ | 2, _ | 3, _ => rfl

/-- Below four samples an append only stores the sample and counts it. -/
theorem append_of_len_lt_four {q : Quantile φ} {x : φ} (hfinite : F.isFinite x = true)
    (hlen : q.len < 4) :
    (append F q x).run = some (.ok { q with
      markerHeights := Function.update q.markerHeights ⟨q.len, by omega⟩ x
      markerPositions := Function.update q.markerPositions 4 (q.len + 1) }) := by
  have hlt : q.len < filledMarkerLen := by unfold filledMarkerLen; omega
  have hne : q.len + 1 ≠ filledMarkerLen := by unfold filledMarkerLen; omega
  simp only [append, hfinite, Bool.not_true, dif_pos hlt]
  -- the stored sample is counted, still below five
  have hne' : ¬ ({ q with
      markerHeights := Function.update q.markerHeights ⟨q.len, by omega⟩ x
      markerPositions := Function.update q.markerPositions 4 (q.len + 1) } : Quantile φ).len =
      filledMarkerLen := by simpa [len] using hne
  simp only [if_neg hne']
  rfl

/-- Between one and four samples the estimate reads the sorted heights at
    `round((5 - 1) * p)`. -/
theorem estimate_of_len_lt {q : Quantile φ} (h0 : q.len ≠ 0) (h5 : q.len < filledMarkerLen)
    (hidx : F.roundToNat (F.mul (F.sub (F.ofNat filledMarkerLen) (F.ofNat 1)) q.p) < 5) :
    (estimate F q).run = some (.ok (sortHeights F q.markerHeights ⟨_, hidx⟩)) := by
  have hempty : q.isEmpty = false := by simpa [isEmpty] using h0
  simp [estimate, hempty, Nat.not_le.mpr h5, getMarker, hidx]

/-- **One positive sample estimates `0.0`**, for every p whose index `round((5 - 1) * p)` is
    below the last: the sample is sorted above the four `0.0`s `new` left. -/
theorem estimate_one_sample_eq_zero {p x : φ} (hp0 : F.lt p (F.ofNat 0) = false)
    (hp1 : F.lt (F.ofNat 1) p = false)
    (hidx : F.roundToNat (F.mul (F.sub (F.ofNat filledMarkerLen) (F.ofNat 1)) p) < 4)
    (hfinite : F.isFinite x = true) (hpos : F.lt (F.ofNat 0) x = true)
    (hxz : F.totalLe x (F.ofNat 0) = false) (hzz : F.totalLe (F.ofNat 0) (F.ofNat 0) = true) :
    ∃ q q' v, new F p = .ok q ∧ (append F q x).run = some (.ok q') ∧
      (estimate F q').run = some (.ok v) ∧ F.lt v x = true := by
  have hnew : new F p = .ok
      { p
        markerHeights := fun _ => F.ofNat 0
        markerPositions := ![1, 2, 3, 4, 0]
        desiredMarkerPositions :=
          ![F.ofNat 1, F.add (F.ofNat 1) (F.mul (F.ofNat 2) p),
            F.add (F.ofNat 1) (F.mul (F.ofNat 4) p), F.add (F.ofNat 3) (F.mul (F.ofNat 2) p),
            F.ofNat 5] } := by
    simp [new, hp0, hp1]
  refine ⟨_, _, F.ofNat 0, hnew, append_of_len_lt_four F hfinite (by simp [len]), ?_, hpos⟩
  rw [estimate_of_len_lt F (by simp [len]) (by simp [len, filledMarkerLen]) (Nat.lt_succ_of_lt hidx)]
  exact congrArg (fun v => some (Except.ok v)) (sortHeights_one_sample F hxz hzz hidx)

/-- `f64` over the rationals, exact on the values a run below reads: `0.5`, `5.0` and the
    integers. Rounding is half up, `⌊a + 1/2⌋`, as Rust's away from zero on the non-negative
    values. -/
def exactFloat : QuantileFloat ℚ where
  ofNat n := n
  ofInt i := i
  add := (· + ·)
  sub := (· - ·)
  mul := (· * ·)
  div := (· / ·)
  lt a b := decide (a < b)
  le a b := decide (a ≤ b)
  totalLe a b := decide (a ≤ b)
  signum a := if a < 0 then -1 else 1
  roundToNat a := ⌊a + 1 / 2⌋.toNat
  isFinite _ := true

theorem estimate_one_sample_eq_zero_half :
    exactFloat.lt (1 / 2) (exactFloat.ofNat 0) = false ∧
      exactFloat.lt (exactFloat.ofNat 1) (1 / 2) = false ∧
      exactFloat.roundToNat (exactFloat.mul
        (exactFloat.sub (exactFloat.ofNat filledMarkerLen) (exactFloat.ofNat 1)) (1 / 2)) < 4 ∧
      exactFloat.lt (exactFloat.ofNat 0) 5 = true ∧
      exactFloat.totalLe 5 (exactFloat.ofNat 0) = false ∧
      ∃ q q' v, new exactFloat (1 / 2) = .ok q ∧ (append exactFloat q 5).run = some (.ok q') ∧
        (estimate exactFloat q').run = some (.ok v) ∧ exactFloat.lt v 5 = true :=
  have hp0 : exactFloat.lt (1 / 2) (exactFloat.ofNat 0) = false := by norm_num [exactFloat]
  have hp1 : exactFloat.lt (exactFloat.ofNat 1) (1 / 2) = false := by norm_num [exactFloat]
  -- round((5 - 1) * 0.5) = 2
  have hidx : exactFloat.roundToNat (exactFloat.mul
      (exactFloat.sub (exactFloat.ofNat filledMarkerLen) (exactFloat.ofNat 1)) (1 / 2)) < 4 := by
    norm_num [exactFloat, filledMarkerLen]
  have hpos : exactFloat.lt (exactFloat.ofNat 0) 5 = true := by norm_num [exactFloat]
  have hxz : exactFloat.totalLe 5 (exactFloat.ofNat 0) = false := by norm_num [exactFloat]
  ⟨hp0, hp1, hidx, hpos, hxz, estimate_one_sample_eq_zero exactFloat hp0 hp1 hidx rfl hpos hxz
    (by simp [exactFloat])⟩

end Quantile

end Omicron.Oximeter
