import Omicron.Oximeter.Histogram
import Omicron.Lib.ExceptRun

/-!
# Oximeter: log-linear bin edges

`<u16 as LogLinearBins<T, u16>>::bins` computes the left edges of `count` bins in each power of
a base, from `base ^ lo` up to `base ^ hi`, in `u64` arithmetic, and converts each edge into the
support type `T`. `Histogram::with_log_linear_bins` (and `span_decades`, with base ten and nine
bins) builds a histogram from them with `Histogram::new`.

* `round`, `binsLoop` -- the `while` loop over `power`, `value`, `next_start` and `step`. A round
  adds a positive step (`Step`) to `value`, which `checked_add` keeps below `2 ^ 64`
  (`round_eq_ok`), so the loop is total by that measure;
* `bins_increasing`, `histogramNew_bins` -- when `bins` succeeds its edges increase strictly and
  start at `base ^ lo` (`LoopInv` is the loop's invariant), so `Histogram::new` accepts them;
* `bins_overflows_after_last_power` -- after pushing the last edge `base ^ hi` the loop still
  moves `next_start` to `base ^ (hi + 1)` with `checked_mul`, and fails with `Overflow` when that
  does not fit in a `u64`, although every edge fits in `T`;
* `bins_base_one_panics` -- a base of one passes the checks, and `next_start - value` then goes
  below zero from the second power on.

The arithmetic is that of the crate's tests, with overflow checks: an unchecked `u64`
subtraction below zero panics (`subU64`). `BinsM` is `ExceptT QuantizationError Option`, where
`none` is a panic. The error messages are left out: nothing here reads them.
-/

namespace Omicron.Oximeter

/-! ## 1. `u64` arithmetic and the step -/

/-- `QuantizationError`. -/
inductive QuantizationError where
  | overflow
  | precision
  | invalidBase
  | invalidSteps
  | unevenStepsForBase
  | powersOutOfOrder
  deriving DecidableEq, Repr

/-- A computation of the bins: an error, or `none` for a panic. -/
abbrev BinsM := ExceptT QuantizationError Option

/-- `NonZeroUsize`. -/
structure NonZeroUsize where
  val : Nat
  pos : 0 < val
  lt : val < 2 ^ 64

/-- A `u64` result of a `checked_*` operation, with `ok_or(QuantizationError::Overflow)`. -/
def checkedU64 (n : Nat) : BinsM Nat := if n < 2 ^ 64 then pure n else throw .overflow

/-- `u64` subtraction, which panics below zero (the crate's tests run with overflow checks). -/
def subU64 (a b : Nat) : BinsM Nat := if b ≤ a then pure (a - b) else ExceptT.lift none

/-- `<T as NumCast>::from` of a `u64`: the value when `T` holds it. -/
def IntType.cast (t : IntType) (n : Nat) : Option Int :=
  if t.minValue ≤ n ∧ (n : Int) ≤ t.maxValue then some n else none

/-- `<T as NumCast>::from(value).ok_or(QuantizationError::Overflow)`. -/
def castU64 (t : IntType) (n : Nat) : BinsM Int :=
  match t.cast n with
  | some v => pure v
  | none => throw .overflow

/-- A step of the loop: `next_step` never returns zero. -/
structure Step where
  val : Nat
  pos : 0 < val

/-- `next_step`: the distance to the next power over `count`, and one for a distance not above
    `count`. -/
def nextStep (next count : Nat) : BinsM Step :=
  if h : next > count then
    if hc : count = 0 then throw .precision
    else pure ⟨next / count, Nat.div_pos h.le (Nat.pos_of_ne_zero hc)⟩
  else pure ⟨1, Nat.one_pos⟩

@[simp] theorem run_checkedU64_eq_ok {n m : Nat} :
    (checkedU64 n).run = some (.ok m) ↔ n = m ∧ n < 2 ^ 64 := by
  unfold checkedU64
  split
  · rename_i hn
    rw [ExceptT.run_pure_eq_some_ok_iff]
    exact ⟨fun h => ⟨h, hn⟩, fun h => h.1⟩
  · rename_i hn
    constructor
    · intro h
      simp [ExceptT.run_throw] at h
    · intro h
      exact absurd h.2 hn

theorem checkedU64_of_lt {n : Nat} (h : n < 2 ^ 64) : checkedU64 n = pure n := if_pos h

@[simp] theorem run_castU64_eq_ok {t : IntType} {n : Nat} {v : Int} :
    (castU64 t n).run = some (.ok v) ↔ t.cast n = some v := by
  unfold castU64
  split
  · rename_i hcast
    rw [ExceptT.run_pure_eq_some_ok_iff, hcast, Option.some_inj]
  · rename_i hcast
    rw [hcast]
    simp [ExceptT.run_throw]

theorem IntType.cast_eq_some {t : IntType} {n : Nat} {v : Int} (h : t.cast n = some v) :
    v = n := by
  unfold IntType.cast at h
  split at h
  · exact (Option.some_inj.mp h).symm
  · cases h

/-! ## 2. The loop -/

/-- The variables of the loop: `power`, `value`, `next_start`, `step` and the edges `out`. -/
structure LoopState where
  power : Nat
  value : Nat
  nextStart : Nat
  step : Step
  out : List Int

/-- One round of the loop's body: the edge `value` is pushed; inside the current power `value`
    moves on by `step`, and at its end `next_start` moves to the next power and `value` by that
    power's step. -/
def round (t : IntType) (base count : Nat) (s : LoopState) : BinsM LoopState := do
  let out := s.out ++ [← castU64 t s.value]
  if s.value < s.nextStart then
    let value ← checkedU64 (s.value + s.step.val)
    return { s with value, out }
  else
    let nextStart ← checkedU64 (s.nextStart * base)
    let power ← checkedU64 (s.power + 1)
    let step ← nextStep (← subU64 nextStart s.value) count
    let value ← checkedU64 (s.value + step.val)
    return ⟨power, value, nextStart, step, out⟩

/-- **What a round does**: it pushes `value` and moves it up, below `2 ^ 64`. -/
theorem round_eq_ok {t : IntType} {base count : Nat} {s s' : LoopState}
    (h : (round t base count s).run = some (.ok s')) :
    s'.out = s.out ++ [(s.value : Int)] ∧ s.value < s'.value ∧ s'.value < 2 ^ 64 := by
  unfold round at h
  obtain ⟨edge, hedge, h⟩ := ExceptT.run_bind_eq_some_ok_iff.mp h
  have hedge : edge = s.value := IntType.cast_eq_some (run_castU64_eq_ok.mp hedge)
  subst hedge
  split at h
  · -- inside the current power
    obtain ⟨value, hvalue, h⟩ := ExceptT.run_bind_eq_some_ok_iff.mp h
    obtain ⟨rfl, hlt⟩ := run_checkedU64_eq_ok.mp hvalue
    cases ExceptT.run_pure_eq_some_ok_iff.mp h
    exact ⟨rfl, Nat.lt_add_of_pos_right s.step.pos, hlt⟩
  · -- at the end of the power: the next power's step
    obtain ⟨nextStart, -, h⟩ := ExceptT.run_bind_eq_some_ok_iff.mp h
    obtain ⟨power, -, h⟩ := ExceptT.run_bind_eq_some_ok_iff.mp h
    obtain ⟨distance, -, h⟩ := ExceptT.run_bind_eq_some_ok_iff.mp h
    obtain ⟨step, -, h⟩ := ExceptT.run_bind_eq_some_ok_iff.mp h
    obtain ⟨value, hvalue, h⟩ := ExceptT.run_bind_eq_some_ok_iff.mp h
    obtain ⟨rfl, hlt⟩ := run_checkedU64_eq_ok.mp hvalue
    cases ExceptT.run_pure_eq_some_ok_iff.mp h
    exact ⟨rfl, Nat.lt_add_of_pos_right step.pos, hlt⟩

/-- The `while powers.contains(&power)` loop: rounds until `power` leaves `lo..hi`, the first
    error or panic of a round ending it. Every round moves `value` up below `2 ^ 64`
    (`round_eq_ok`), which bounds the rounds. -/
def binsLoop (t : IntType) (base lo hi count : Nat) (s : LoopState) : BinsM (List Int) :=
  if lo ≤ s.power ∧ s.power < hi then
    match h : (round t base count s).run with
    | some (.ok s') =>
      have := round_eq_ok h
      binsLoop t base lo hi count s'
    | some (.error e) => throw e
    | none => ExceptT.lift none
  else pure s.out
termination_by 2 ^ 64 - s.value
decreasing_by omega

/-- `bin_count_divides_spacing`: `count` divides the width `base ^ (p + 1) - base ^ p` of every
    power `p` of `lo..hi` (the source zips `lo..hi` with `lo + 1..hi + 1`). `is_multiple_of` by
    zero holds of zero alone, as `% 0` does. -/
def binCountDividesSpacing (base lo hi count : Nat) : Bool :=
  (List.range' lo (hi - lo)).all fun p => (base ^ (p + 1) - base ^ p) % count == 0

/-- `<u16 as LogLinearBins<T, u16>>::bins`: the checks, then the loop from `base ^ lo`. The
    capacity `count * (hi - lo)` of the vector is checked for overflow; converting `count` to
    `u64` cannot fail. -/
def bins (t : IntType) (self lo hi : UInt16) (count : NonZeroUsize) : BinsM (List Int) := do
  if self = 0 ∨ self > 32 then throw .invalidBase
  if count.val < 2 then throw .invalidSteps
  if lo ≥ hi then throw .powersOutOfOrder
  if self.toNat > count.val + 1 then throw .invalidSteps
  let base := self.toNat
  let highest ← checkedU64 (base ^ hi.toNat)
  if (t.cast highest).isNone then throw .overflow
  let lo := lo.toNat
  let hi := hi.toNat
  let count := count.val
  if !binCountDividesSpacing base lo hi count then throw .unevenStepsForBase
  let _ ← checkedU64 (count * (hi - lo))
  let value ← checkedU64 (base ^ lo)
  let nextStart ← checkedU64 (base ^ (lo + 1))
  let step ← nextStep (← subU64 nextStart value) count
  binsLoop t base lo hi count ⟨lo, value, nextStart, step, []⟩

section Loop

variable {t : IntType} {base lo hi count : Nat} {s s' : LoopState}

theorem binsLoop_of_round (hp : lo ≤ s.power ∧ s.power < hi)
    (h : (round t base count s).run = some (.ok s')) :
    binsLoop t base lo hi count s = binsLoop t base lo hi count s' := by
  rw [binsLoop, if_pos hp]
  split <;> simp_all

theorem binsLoop_of_round_error {e : QuantizationError} (hp : lo ≤ s.power ∧ s.power < hi)
    (h : (round t base count s).run = some (.error e)) :
    binsLoop t base lo hi count s = throw e := by
  rw [binsLoop, if_pos hp]
  split <;> simp_all

theorem binsLoop_of_round_panic (hp : lo ≤ s.power ∧ s.power < hi)
    (h : (round t base count s).run = none) :
    binsLoop t base lo hi count s = ExceptT.lift none := by
  rw [binsLoop, if_pos hp]
  split <;> simp_all

end Loop

/-- **What a successful `bins` ran**: the checks passed, `lo < hi`, and the loop started at
    `power = lo` and `value = base ^ lo` with no edges. -/
theorem bins_eq_ok {t : IntType} {self lo hi : UInt16} {count : NonZeroUsize} {v : List Int}
    (h : (bins t self lo hi count).run = some (.ok v)) :
    lo.toNat < hi.toNat ∧ ∃ nextStart step, (binsLoop t self.toNat lo.toNat hi.toNat count.val
      ⟨lo.toNat, self.toNat ^ lo.toNat, nextStart, step, []⟩).run = some (.ok v) := by
  unfold bins at h
  simp only [ExceptT.bind_throw] at h
  -- the four checks on the arguments
  split at h
  · exact absurd h ExceptT.run_throw_ne_some_ok
  split at h
  · exact absurd h ExceptT.run_throw_ne_some_ok
  split at h
  · exact absurd h ExceptT.run_throw_ne_some_ok
  rename_i hlohi
  split at h
  · exact absurd h ExceptT.run_throw_ne_some_ok
  -- `highest` in `T`, and the spacing
  obtain ⟨highest, -, h⟩ := ExceptT.run_bind_eq_some_ok_iff.mp h
  split at h
  · exact absurd h ExceptT.run_throw_ne_some_ok
  split at h
  · exact absurd h ExceptT.run_throw_ne_some_ok
  -- the capacity, then the loop's first variables
  obtain ⟨_, -, h⟩ := ExceptT.run_bind_eq_some_ok_iff.mp h
  obtain ⟨value, hvalue, h⟩ := ExceptT.run_bind_eq_some_ok_iff.mp h
  obtain ⟨nextStart, -, h⟩ := ExceptT.run_bind_eq_some_ok_iff.mp h
  obtain ⟨distance, -, h⟩ := ExceptT.run_bind_eq_some_ok_iff.mp h
  obtain ⟨step, -, h⟩ := ExceptT.run_bind_eq_some_ok_iff.mp h
  obtain ⟨rfl, -⟩ := run_checkedU64_eq_ok.mp hvalue
  have hlt : lo.toNat < hi.toNat := by
    rw [ge_iff_le, UInt16.le_iff_toNat_le] at hlohi
    omega
  exact ⟨hlt, nextStart, step, h⟩

/-! ## 3. What the bins are -/

section Invariant

variable {t : IntType} {base lo hi count : Nat} {s s' : LoopState}

/-- What the loop keeps: the edges so far increase, lie below `value`, and start at `first`
    (or `value` will be the first); and there are edges once the loop has left `lo..hi`. -/
structure LoopInv (lo hi first : Nat) (s : LoopState) : Prop where
  increasing : s.out.Pairwise (· < ·)
  lt_value : ∀ e ∈ s.out, e < s.value
  head : (s.out ++ [(s.value : Int)]).head? = some (first : Int)
  started : s.out = [] → lo ≤ s.power ∧ s.power < hi

theorem LoopInv.round {first : Nat} (hinv : LoopInv lo hi first s)
    (h : (round t base count s).run = some (.ok s')) : LoopInv lo hi first s' := by
  obtain ⟨hout, hlt, -⟩ := round_eq_ok h
  have hlt' : (s.value : Int) < s'.value := by exact_mod_cast hlt
  constructor
  · -- the pushed `value` lies above every earlier edge
    rw [hout, List.pairwise_append]
    refine ⟨hinv.increasing, List.pairwise_singleton _ _, fun a ha b hb => ?_⟩
    rw [List.mem_singleton.mp hb]
    exact hinv.lt_value a ha
  · intro e he
    rw [hout, List.mem_append, List.mem_singleton] at he
    rcases he with he | rfl
    · exact lt_trans (hinv.lt_value e he) hlt'
    · exact hlt'
  · rw [hout, List.head?_append_of_ne_nil _ (List.append_ne_nil_of_right_ne_nil _
      (List.cons_ne_nil _ _)), hinv.head]
  · intro hnil
    rw [hout] at hnil
    exact absurd hnil (List.append_ne_nil_of_right_ne_nil _ (List.cons_ne_nil _ _))

/-- **The loop's edges**, when it succeeds: increasing, and starting at `first`. -/
theorem binsLoop_eq_ok {first : Nat} {v : List Int} (hinv : LoopInv lo hi first s)
    (h : (binsLoop t base lo hi count s).run = some (.ok v)) :
    v.Pairwise (· < ·) ∧ v.head? = some (first : Int) := by
  fun_induction binsLoop t base lo hi count s with
  | case1 s hp s' hround _ ih => exact ih (hinv.round hround) h
  | case2 s hp e herr => exact absurd h ExceptT.run_throw_ne_some_ok
  | case3 s hp hnone => simp at h
  | case4 s hp =>
    -- out of `lo..hi`: the edges are `out`, which is not empty
    rw [ExceptT.run_pure_eq_some_ok_iff] at h
    subst h
    have hne : s.out ≠ [] := fun hnil => hp (hinv.started hnil)
    rw [← List.head?_append_of_ne_nil _ hne]
    exact ⟨hinv.increasing, hinv.head⟩

end Invariant

section Bins

variable {t : IntType} {self lo hi : UInt16} {count : NonZeroUsize} {v : List Int}

/-- **What `bins` returns**, when it succeeds: strictly increasing edges, from `base ^ lo`. -/
theorem bins_increasing (h : (bins t self lo hi count).run = some (.ok v)) :
    v.Pairwise (· < ·) ∧ v.head? = some ((self.toNat ^ lo.toNat : Nat) : Int) := by
  obtain ⟨hlt, nextStart, step, hloop⟩ := bins_eq_ok h
  have hinv : LoopInv lo.toNat hi.toNat (self.toNat ^ lo.toNat)
      ⟨lo.toNat, self.toNat ^ lo.toNat, nextStart, step, []⟩ :=
    ⟨List.Pairwise.nil, fun _ he => absurd he List.not_mem_nil, rfl,
      fun _ => ⟨le_refl _, hlt⟩⟩
  exact binsLoop_eq_ok hinv hloop

/-- **`Histogram::new` accepts what `bins` returns.** -/
theorem histogramNew_bins (h : (bins t self lo hi count).run = some (.ok v)) :
    ∃ hist, Histogram.new t v = .ok hist := by
  obtain ⟨hinc, hhead⟩ := bins_increasing h
  have hne : v ≠ [] := by
    rintro rfl
    cases hhead
  exact Histogram.new_isOk_of_pairwise hne hinc

end Bins

/-! ## 4. Where the bins fail -/

/-- The inputs for which the bins are meant to exist: a base from two to 32, at least two bins
    a power and no fewer than the base less one, `lo < hi`, `count` dividing the width of every
    power of `lo..hi`, and `base ^ hi` in `T`. -/
def BinsWellPosed (t : IntType) (base lo hi count : Nat) : Prop :=
  2 ≤ base ∧ base ≤ 32 ∧ 2 ≤ count ∧ base ≤ count + 1 ∧ lo < hi ∧
    (∀ p ∈ List.range' lo (hi - lo), count ∣ base ^ (p + 1) - base ^ p) ∧
    (t.cast (base ^ hi)).isSome

instance (t : IntType) (base lo hi count : Nat) : Decidable (BinsWellPosed t base lo hi count) :=
  inferInstanceAs (Decidable (_ ∧ _ ∧ _ ∧ _ ∧ _ ∧ _ ∧ _))

/-- Two bins a power. -/
def twoBins : NonZeroUsize := ⟨2, by decide, by decide⟩

/-- **Well-posed bins can overflow.** Two bins a power of two from `2 ^ 62` to `2 ^ 63` into
    `u64` meet every condition, and the edges `2 ^ 62`, `3 * 2 ^ 61` and `2 ^ 63` all fit; but
    after pushing `2 ^ 63` the loop computes `next_start = 2 ^ 64` with `checked_mul`, and `bins`
    returns `Overflow`. -/
theorem bins_overflows_after_last_power :
    BinsWellPosed IntType.u64 2 62 63 2 ∧
      (bins IntType.u64 2 62 63 twoBins).run = some (.error .overflow) := by
  refine ⟨by decide, ?_⟩
  have hstart : bins IntType.u64 2 62 63 twoBins =
      binsLoop IntType.u64 2 62 63 2 ⟨62, 2 ^ 62, 2 ^ 63, ⟨2 ^ 61, by decide⟩, []⟩ := rfl
  rw [hstart, binsLoop_of_round (by decide) rfl, binsLoop_of_round (by decide) rfl,
    binsLoop_of_round_error (by decide) rfl]
  rfl

section BaseOne

variable {t : IntType} {lo hi : UInt16} {count : NonZeroUsize}

/-- **A base of one panics** from the second power on: the powers of one are all one, so after
    the first power `value` passes `next_start`, and `next_start - value` goes below zero. -/
theorem bins_base_one_panics (hlohi : lo.toNat + 2 ≤ hi.toNat) (hcount : 2 ≤ count.val)
    (hcap : count.val * (hi.toNat - lo.toNat) < 2 ^ 64) (ht : t.cast 1 = some 1)
    (ht2 : t.cast 2 = some 2) : (bins t 1 lo hi count).run = none := by
  have hstart : bins t 1 lo hi count =
      binsLoop t 1 lo.toNat hi.toNat count.val ⟨lo.toNat, 1, 1, ⟨1, Nat.one_pos⟩, []⟩ := by
    have hc : ¬count.val < 2 := by omega
    have hnot : ¬hi ≤ lo := by
      rw [UInt16.le_iff_toNat_le]
      omega
    unfold bins
    simp [binCountDividesSpacing, checkedU64_of_lt, subU64, nextStep, ht, hc, hnot]
    rw [checkedU64_of_lt hcap, pure_bind]
  -- the first power: `1` is pushed, and `value` moves to `2` past `next_start = 1`
  have hlo : lo.toNat ≤ lo.toNat ∧ lo.toNat < hi.toNat := ⟨le_refl _, by omega⟩
  have hlo1 : lo.toNat ≤ lo.toNat + 1 ∧ lo.toNat + 1 < hi.toNat := ⟨by omega, by omega⟩
  have hpower : lo.toNat + 1 < 2 ^ 64 := by
    have := lo.toNat_lt
    omega
  have hpower2 : lo.toNat + 1 + 1 < 2 ^ 64 := by
    have := lo.toNat_lt
    omega
  have hround1 : (round t 1 count.val ⟨lo.toNat, 1, 1, ⟨1, Nat.one_pos⟩, []⟩).run =
      some (.ok ⟨lo.toNat + 1, 2, 1, ⟨1, Nat.one_pos⟩, [1]⟩) := by
    simp [round, castU64, ht, checkedU64_of_lt, checkedU64_of_lt hpower, subU64, nextStep]
  -- the second power: `2` is pushed, and `next_start - value = 1 - 2` panics
  have hround2 :
      (round t 1 count.val ⟨lo.toNat + 1, 2, 1, ⟨1, Nat.one_pos⟩, [1]⟩).run = none := by
    have hone : (1 : Nat) < 2 ^ 64 := Nat.one_lt_two_pow (by decide)
    simp [round, castU64, ht2, checkedU64_of_lt hone, checkedU64_of_lt hpower2, subU64,
      ExceptT.run_bind_lift]
  rw [hstart, binsLoop_of_round hlo hround1, binsLoop_of_round_panic hlo1 hround2]
  rfl


end BaseOne

end Omicron.Oximeter
