import Omicron.Gfss.Gf256
import Omicron.Lib.XorLinear
import Mathlib.Algebra.Field.Basic

/-!
# GF(2^8) is a field under the operations of `gf256.rs`

The Shamir development interpolates over `Gf256` with the operations as the code computes them:
`+` the bytes' xor, `*` the eight rounds of `mulLoop`, `/` multiplication by `invert`. This file
shows that these operations make `Gf256` a field (`Gf256.instField`), with `invert` its inverse,
so that the interpolation of `Lagrange` applies to them as they stand.

* `mulLoop_xor_left`, `mulLoop_xor_right` -- a round of the loop respects xor in `self` (the
  reduction by `0x1b` included, `xtime_xor`) and in `rhs` (the mask of its low bit,
  `mask_xor`); so the product respects xor in each factor;
* `mulLoop_comm`, `mulLoop_assoc`, `mulLoop_one` -- identities of maps that respect xor in each
  argument, checked on the 64 pairs and the 512 triples of bits (`ext_bits₂`, `ext_bits₃`);
* `toNat_mulLoop` -- the loop on bytes computes what the same loop on their numbers computes
  (`mulLoopNat`), where the kernel evaluates each step on literals;
* `mul_invert_of_ne_zero` -- `invert`'s chain to `self^254` is an inverse, checked on the numbers
  of the 255 nonzero bytes.
-/

namespace Omicron.Gfss.Gf256

/-! ## 1. One round of the loop -/

/-- The update of `self` in a round of `impl Mul`: shifted up, and reduced by `0x1b` when the bit
    shifted out was set. -/
def xtime (s : UInt8) : UInt8 := (s <<< 1) ^^^ (((0 : UInt8) - (s >>> 7)) &&& 0x1b)

/-- The mask of a round of `impl Mul`: all ones when the low bit of `rhs` is set. -/
def mask (r : UInt8) : UInt8 := (0 : UInt8) - (r &&& 1)

theorem mulLoop_succ (i : Nat) (s r p : UInt8) :
    mulLoop (i + 1) s r p = mulLoop i (xtime s) (r >>> 1) (p ^^^ (mask r &&& s)) := rfl

/-- A byte below two is a bit. -/
theorem eq_zero_or_eq_one_of_toNat_lt_two {c : UInt8} (h : c.toNat < 2) : c = 0 ∨ c = 1 := by
  rcases Nat.lt_succ_iff_lt_or_eq.mp h with h0 | h1
  · left
    exact UInt8.toNat_inj.mp (by simpa using h0)
  · right
    exact UInt8.toNat_inj.mp h1

theorem shiftRight_seven (s : UInt8) : s >>> 7 = 0 ∨ s >>> 7 = 1 := by
  apply eq_zero_or_eq_one_of_toNat_lt_two
  have hs := s.toNat_lt
  simp only [UInt8.toNat_shiftRight, UInt8.reduceToNat, Nat.reduceMod, Nat.shiftRight_eq_div_pow]
  omega

theorem and_one (r : UInt8) : r &&& 1 = 0 ∨ r &&& 1 = 1 := by
  apply eq_zero_or_eq_one_of_toNat_lt_two
  rw [UInt8.toNat_and]
  exact Nat.lt_succ_of_le Nat.and_le_right

/-- On bits, the wrapping negation that makes a mask respects xor. -/
theorem neg_xor_of_bit {c d : UInt8} (hc : c = 0 ∨ c = 1) (hd : d = 0 ∨ d = 1) :
    0 - (c ^^^ d) = (0 - c) ^^^ (0 - d) := by
  rcases hc with rfl | rfl <;> rcases hd with rfl | rfl <;> decide

theorem xtime_xor (a b : UInt8) : xtime (a ^^^ b) = xtime a ^^^ xtime b := by
  unfold xtime
  rw [UInt8.shiftLeft_xor, UInt8.shiftRight_xor,
    neg_xor_of_bit (shiftRight_seven a) (shiftRight_seven b), UInt8.and_xor_distrib_right,
    UInt8.xor_xor_xor_comm]

theorem mask_xor (r r' : UInt8) : mask (r ^^^ r') = mask r ^^^ mask r' := by
  unfold mask
  rw [UInt8.and_xor_distrib_right, neg_xor_of_bit (and_one r) (and_one r')]

/-! ## 2. The loop respects xor in each factor -/

/-- **The loop respects xor in `self`**, the accumulators adding up. -/
theorem mulLoop_xor_left (i : Nat) (s t r p q : UInt8) :
    mulLoop i (s ^^^ t) r (p ^^^ q) = mulLoop i s r p ^^^ mulLoop i t r q := by
  induction i generalizing s t r p q with
  | zero => rfl
  | succ i ih =>
    rw [mulLoop_succ, mulLoop_succ, mulLoop_succ, xtime_xor, UInt8.and_xor_distrib_left,
      UInt8.xor_xor_xor_comm, ih]

/-- **The loop respects xor in `rhs`**, the accumulators adding up. -/
theorem mulLoop_xor_right (i : Nat) (s r r' p q : UInt8) :
    mulLoop i s (r ^^^ r') (p ^^^ q) = mulLoop i s r p ^^^ mulLoop i s r' q := by
  induction i generalizing s r r' p q with
  | zero => rfl
  | succ i ih =>
    rw [mulLoop_succ, mulLoop_succ, mulLoop_succ, UInt8.shiftRight_xor, mask_xor,
      UInt8.and_xor_distrib_right, UInt8.xor_xor_xor_comm, ih]

theorem xorLinear_mul_left (b : UInt8) : XorLinear (fun a => mulLoop 8 a b 0) := fun a a' => by
  simpa using mulLoop_xor_left 8 a a' b 0 0

theorem xorLinear_mul_right (a : UInt8) : XorLinear (fun b => mulLoop 8 a b 0) := fun b b' => by
  simpa using mulLoop_xor_right 8 a b b' 0 0

/-! ## 3. The laws of the product -/

set_option maxRecDepth 2000 in
theorem mulLoop_comm (a b : UInt8) : mulLoop 8 a b 0 = mulLoop 8 b a 0 :=
  ext_bits₂ (m := fun a b => mulLoop 8 a b 0) (n := fun a b => mulLoop 8 b a 0)
    xorLinear_mul_left xorLinear_mul_right xorLinear_mul_right xorLinear_mul_left
    (by decide) a b

set_option maxRecDepth 4000 in
theorem mulLoop_assoc (a b c : UInt8) :
    mulLoop 8 (mulLoop 8 a b 0) c 0 = mulLoop 8 a (mulLoop 8 b c 0) 0 :=
  -- both sides respect xor in each factor, through the product's two arguments
  ext_bits₃ (m := fun a b c => mulLoop 8 (mulLoop 8 a b 0) c 0)
    (n := fun a b c => mulLoop 8 a (mulLoop 8 b c 0) 0)
    (fun b c => (xorLinear_mul_left c).comp (xorLinear_mul_left b))
    (fun a c => (xorLinear_mul_left c).comp (xorLinear_mul_right a))
    (fun _ _ => xorLinear_mul_right _)
    (fun _ _ => xorLinear_mul_left _)
    (fun a c => (xorLinear_mul_right a).comp (xorLinear_mul_left c))
    (fun a b => (xorLinear_mul_right a).comp (xorLinear_mul_right b))
    (by decide) a b c

set_option maxRecDepth 2000 in
theorem mulLoop_one (a : UInt8) : mulLoop 8 a 1 0 = a :=
  XorLinear.ext_bits (f := fun a => mulLoop 8 a 1 0) (xorLinear_mul_left 1) XorLinear.id
    (by decide) a

/-! ## 4. The loop on numbers

A check over all bytes evaluates the loop in the kernel. On `UInt8` each step builds the byte's
`BitVec` and `Fin` afresh; on `Nat` each step is one operation on literals. -/

/-- `mulLoop` on the numbers of the bytes: the shift out of the byte and the wrapping
    subtractions taken modulo 256. -/
def mulLoopNat : Nat → Nat → Nat → Nat → Nat
  | 0, _, _, product => product
  | i + 1, self, rhs, product =>
    mulLoopNat i ((self <<< 1) % 256 ^^^ (256 - self >>> 7) % 256 &&& 27) (rhs >>> 1)
      (product ^^^ (256 - (rhs &&& 1)) % 256 &&& self)

/-- **The loop on bytes refines the loop on numbers.** -/
theorem toNat_mulLoop (i : Nat) (s r p : UInt8) :
    (mulLoop i s r p).toNat = mulLoopNat i s.toNat r.toNat p.toNat := by
  induction i generalizing s r p with
  | zero => rfl
  | succ i ih =>
    rw [mulLoop_succ, ih]
    simp [mulLoopNat, xtime, mask, UInt8.toNat_xor, UInt8.toNat_and, UInt8.toNat_shiftRight,
      UInt8.toNat_shiftLeft]

/-- `invert`'s chain on the numbers of the bytes. -/
def invertNat (self : Nat) : Nat :=
  let mul a b := mulLoopNat 8 a b 0
  let result := mul self self
  let temp4 := mul result result
  let result := mul temp4 temp4
  let temp9 := mul result self
  let result := mul result result
  let result := mul result temp9
  let temp50 := mul result result
  let result := mul temp50 temp50
  let result := mul result result
  mul (mul result temp50) temp4

theorem toNat_invert (a : Gf256) : a.invert.val.toNat = invertNat a.val.toNat := by
  simp only [invert, invertNat, mul_val, toNat_mulLoop, UInt8.toNat_zero]

/-- The inverses, checked on the numbers of the 255 nonzero bytes. -/
theorem mulLoopNat_invertNat : ∀ n < 256, n ≠ 0 → mulLoopNat 8 n (invertNat n) 0 = 1 := by
  decide +kernel

/-! ## 5. The field -/

theorem ext {a b : Gf256} (h : a.val = b.val) : a = b := by
  cases a
  cases b
  cases h
  rfl

/-- **`invert` is an inverse**: `self^254` times `self` is one for every nonzero `self`. -/
theorem mul_invert_of_ne_zero (a : Gf256) (h : a ≠ 0) : a * a.invert = 1 := by
  have hn : a.val.toNat ≠ 0 := fun h0 => h (ext (UInt8.toNat_inj.mp h0))
  apply ext
  apply UInt8.toNat_inj.mp
  rw [mul_val, toNat_mulLoop, toNat_invert]
  exact mulLoopNat_invertNat _ a.val.toNat_lt hn

theorem invert_zero : invert 0 = 0 := by decide

/-- In characteristic two negation is the identity (the source defines none). -/
instance : Neg Gf256 := ⟨id⟩

/-- **`Gf256` is a field** under the operations of `gf256.rs`. -/
instance instField : Field Gf256 where
  add := add
  add_assoc _ _ _ := ext (UInt8.xor_assoc _ _ _)
  zero := zero
  zero_add _ := ext UInt8.zero_xor
  add_zero _ := ext UInt8.xor_zero
  nsmul := nsmulRec
  sub := sub
  sub_eq_add_neg _ _ := rfl
  zsmul := zsmulRec
  neg_add_cancel _ := ext UInt8.xor_self
  add_comm _ _ := ext (UInt8.xor_comm _ _)
  mul := mul
  left_distrib a b c := ext (by
    show mulLoop 8 a.val (b.val ^^^ c.val) 0 = mulLoop 8 a.val b.val 0 ^^^ mulLoop 8 a.val c.val 0
    simpa using mulLoop_xor_right 8 a.val b.val c.val 0 0)
  right_distrib a b c := ext (by
    show mulLoop 8 (a.val ^^^ b.val) c.val 0 = mulLoop 8 a.val c.val 0 ^^^ mulLoop 8 b.val c.val 0
    simpa using mulLoop_xor_left 8 a.val b.val c.val 0 0)
  zero_mul a := ext (xorLinear_mul_left a.val).map_zero
  mul_zero a := ext (xorLinear_mul_right a.val).map_zero
  mul_assoc a b c := ext (mulLoop_assoc a.val b.val c.val)
  one := one
  one_mul a := ext (by rw [mul_val, mulLoop_comm]; exact mulLoop_one a.val)
  mul_one a := ext (mulLoop_one a.val)
  mul_comm a b := ext (mulLoop_comm a.val b.val)
  inv := invert
  div := div
  div_eq_mul_inv _ _ := rfl
  exists_pair_ne := ⟨0, 1, by decide⟩
  mul_inv_cancel := mul_invert_of_ne_zero
  inv_zero := invert_zero
  nnqsmul := _
  qsmul := _

theorem inv_eq_invert (a : Gf256) : a⁻¹ = a.invert := rfl

end Omicron.Gfss.Gf256
