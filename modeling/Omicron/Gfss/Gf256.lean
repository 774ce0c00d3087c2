import Mathlib.Data.UInt

/-!
# `gfss::gf256`: the field GF(2^8) of the trust-quorum secret sharing

`Gf256(u8)` is an element of GF(2^8) in the Rijndael (AES) representation, reduction polynomial
`x^8 + x^4 + x^3 + x + 1`. The file embeds the operations of `gf256.rs` exactly as the code
computes them:

* addition and subtraction are the bytes' xor (`impl Add`, `impl Sub`);
* `mulLoop`, `mul` -- the eight rounds of the carry-less multiply-and-reduce loop of `impl Mul`,
  on the same `u8` values, with the same wrapping subtractions as masks;
* `invert` -- the unrolled chain to `self^254` of `Gf256::invert`, and `div` as multiplication by
  the inverse (`impl Div`).

The field laws of these operations belong to the Shamir development built on them.
-/

namespace Omicron.Gfss

/-- `Gf256(u8)`: an element of GF(2^8), the byte of its coefficients over GF(2). -/
structure Gf256 where
  val : UInt8
  deriving DecidableEq, Repr

namespace Gf256

/-- `Gf256::new`. -/
def new (n : UInt8) : Gf256 := ⟨n⟩

/-- `gf256::ZERO`. -/
def zero : Gf256 := ⟨0⟩

/-- `gf256::ONE`. -/
def one : Gf256 := ⟨1⟩

/-- `impl Add for Gf256`: carry-less addition is the bytes' xor. -/
def add (a b : Gf256) : Gf256 := ⟨a.val ^^^ b.val⟩

/-- `impl Sub for Gf256`: identical to addition in characteristic two. -/
def sub (a b : Gf256) : Gf256 := ⟨a.val ^^^ b.val⟩

/-- The loop of `impl Mul for Gf256`, `i` rounds left: `self` is the left factor times the power
    of `x` reached so far (reduced by `0x1b` on a carry), `rhs` the right factor shifted down,
    `product` the accumulator. Each round adds `self` to `product` when the low bit of `rhs` is
    set, through the mask `0 - (rhs & 1)`. -/
def mulLoop : Nat → UInt8 → UInt8 → UInt8 → UInt8
  | 0, _, _, product => product
  | i + 1, self, rhs, product =>
    let product := product ^^^ (((0 : UInt8) - (rhs &&& 1)) &&& self)
    let rhs := rhs >>> 1
    let carry := self >>> 7
    let self := self <<< 1
    let self := self ^^^ (((0 : UInt8) - carry) &&& 0x1b)
    mulLoop i self rhs product

/-- `impl Mul for Gf256`: eight rounds of `mulLoop` from an empty accumulator. -/
def mul (a b : Gf256) : Gf256 := ⟨mulLoop 8 a.val b.val 0⟩

instance : Add Gf256 := ⟨add⟩
instance : Sub Gf256 := ⟨sub⟩
instance : Mul Gf256 := ⟨mul⟩
instance : Zero Gf256 := ⟨zero⟩
instance : One Gf256 := ⟨one⟩

/-- `Gf256::invert`: `self^254` by the unrolled chain of the source (by Fermat, the inverse of a
    nonzero element; `0` goes to `0`). -/
def invert (self : Gf256) : Gf256 :=
  let result := self * self
  let temp4 := result * result
  let result := temp4 * temp4
  let temp9 := result * self
  let result := result * result
  let result := result * temp9
  let temp50 := result * result
  let result := temp50 * temp50
  let result := result * result
  result * temp50 * temp4

/-- `impl Div for Gf256`: multiplication by the inverse. -/
def div (a b : Gf256) : Gf256 := a * b.invert

instance : Div Gf256 := ⟨div⟩

@[simp] theorem add_val (a b : Gf256) : (a + b).val = a.val ^^^ b.val := rfl
@[simp] theorem sub_val (a b : Gf256) : (a - b).val = a.val ^^^ b.val := rfl
@[simp] theorem zero_val : (0 : Gf256).val = 0 := rfl
@[simp] theorem one_val : (1 : Gf256).val = 1 := rfl
theorem mul_val (a b : Gf256) : (a * b).val = mulLoop 8 a.val b.val 0 := rfl
theorem div_def (a b : Gf256) : a / b = a * b.invert := rfl

/-- The worked example of the documentation of `impl Mul` (`test_docs_example`):
    `(x^5 + 1)(x^4 + x) = x^6 + x^5 + x^2`. -/
example : (⟨0x21⟩ : Gf256) * ⟨0x12⟩ = ⟨0x64⟩ := by decide

end Gf256

end Omicron.Gfss
