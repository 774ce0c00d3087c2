import Omicron.Gfss.Gf256

/-!
# `gfss::polynomial`: the random polynomials of a split

A `Polynomial` holds its coefficients from the constant term up; it is never empty, which the
structure carries (`random_with_constant_term` always draws `k ≥ 2` of them), so `eval`'s
`unwrap` of the leading coefficient cannot fail.

* `randomWithConstantTerm` -- the polynomial of one secret byte: the random stream is read as
  `rng`, a function from positions to bytes, and the polynomial takes the `k` samples from
  position `start` on, the first one overwritten by the constant term;
* `eval` -- Horner's rule from the leading coefficient down, as `Polynomial::eval`;
* `pow`, `naiveEval` -- the model evaluation the tests check `eval` against: the sum of each
  coefficient times a power of `x`, the power by repeated multiplication.
-/

namespace Omicron.Gfss

/-- `Polynomial(Box<[Gf256]>)`: coefficients from degree `0` up, at least one of them. -/
structure Polynomial where
  coeffs : List Gf256
  ne_nil : coeffs ≠ []

/-- `ValidThreshold(u8)`: a threshold of at least two (`ValidThreshold::new` also checks it
    against the number of shares, a fact about the pair that the split keeps to itself). -/
structure ValidThreshold where
  inner : UInt8
  two_le : 2 ≤ inner.toNat

namespace Polynomial

/-- `Polynomial::random_with_constant_term`: `degree + 1 = k` samples of the random stream from
    position `start`, the first replaced by the constant term. -/
def randomWithConstantTerm (rng : Nat → UInt8) (start : Nat) (k : ValidThreshold)
    (constantTerm : Gf256) : Polynomial :=
  ⟨constantTerm :: (List.range (k.inner.toNat - 1)).map (fun i => ⟨rng (start + 1 + i)⟩),
    List.cons_ne_nil _ _⟩

/-- One step of Horner's rule: `y = y * x + coefficient`. -/
def hornerStep (x : Gf256) (y c : Gf256) : Gf256 := y * x + c

/-- `Polynomial::eval`: start from the leading coefficient and fold the others in from the top. -/
def eval (p : Polynomial) (x : Gf256) : Gf256 :=
  match h : p.coeffs.reverse with
  | c :: cs => cs.foldl (hornerStep x) c
  | [] => absurd (List.reverse_eq_nil_iff.mp h) p.ne_nil

/-- `pow` of the tests: `result *= base`, `exponent` times from one. -/
def pow (base : Gf256) : Nat → Gf256
  | 0 => 1
  | exponent + 1 => pow base exponent * base

/-- `naive_eval` of the tests: `y += coefficient * pow(x, exponent as u8)` over the coefficients
    and their exponents, from `y = 0`. -/
def naiveEval (p : Polynomial) (x : Gf256) : Gf256 :=
  p.coeffs.zipIdx.foldl (fun y ci => y + ci.1 * pow x (ci.2 % 256)) 0

theorem randomWithConstantTerm_length (rng : Nat → UInt8) (start : Nat) (k : ValidThreshold)
    (c : Gf256) : (randomWithConstantTerm rng start k c).coeffs.length = k.inner.toNat := by
  have := k.two_le
  simp only [randomWithConstantTerm, List.length_cons, List.length_map, List.length_range]
  omega

@[simp] theorem randomWithConstantTerm_head (rng : Nat → UInt8) (start : Nat)
    (k : ValidThreshold) (c : Gf256) :
    (randomWithConstantTerm rng start k c).coeffs.head? = some c := rfl

end Polynomial

end Omicron.Gfss
