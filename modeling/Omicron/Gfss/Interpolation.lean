import Omicron.Gfss.Shamir
import Omicron.Gfss.Field
import Omicron.Lib.Lagrange

/-!
# Interpolation recovers the polynomials of a split

`interpolate_polynomials` evaluates, at `x`, the Lagrange sum of the shares it is given: each
share's basis coefficient at `x` (a product in list order over the other shares), times its
y-coordinates, accumulated per secret byte. Over the field of `Gf256.instField` this is
Lagrange's formula, so shares that lie on polynomials, at distinct x-coordinates and at least as
many as each polynomial has coefficients, interpolate to the polynomials' values:

* `Polynomial.eval_eq_toPoly` -- `Polynomial::eval`'s Horner loop is the evaluation of the
  polynomial with its coefficients (`ofCoeffs`), and so the sum of its terms
  (`Polynomial.eval_eq_sum_coeff_mul_pow`), which the tests' `naive_eval` computes up to 256
  coefficients;
* `validateShares_eq_ok_iff` -- `ValidShares::new` passes exactly for at least two shares of one
  length at distinct x-coordinates;
* `interpolatePolynomials_eq_shareAt` -- **interpolation recovers the polynomials**;
* `computeSecret_of_onPolys`, `computeShare_of_onPolys` -- so `compute_secret` returns the
  constant terms and `compute_share` the share at any nonzero `x`.
-/

namespace Omicron

open Polynomial Finset

/-! ## 1. Evaluation -/

/-- A polynomial of the split as a polynomial over the field: its coefficients from degree `0`
    up. -/
noncomputable def Gfss.Polynomial.toPoly (p : Gfss.Polynomial) : Gfss.Gf256[X] :=
  ofCoeffs p.coeffs

/-- **`Polynomial::eval` evaluates the polynomial**: its Horner loop from the leading
    coefficient down is Horner's rule. -/
theorem Gfss.Polynomial.eval_eq_toPoly (p : Gfss.Polynomial) (x : Gfss.Gf256) :
    p.eval x = p.toPoly.eval x := by
  unfold Gfss.Polynomial.eval
  split
  · rename_i c cs h
    have hstep : Gfss.Polynomial.hornerStep x = fun y a => y * x + a := rfl
    rw [hstep, foldl_horner, ← h, List.reverse_reverse]
    rfl
  · rename_i h
    exact absurd (List.reverse_eq_nil_iff.mp h) p.ne_nil

theorem Gfss.Polynomial.degree_toPoly_lt (p : Gfss.Polynomial) :
    p.toPoly.degree < p.coeffs.length :=
  degree_ofCoeffs_lt p.coeffs

/-- At `0` a polynomial of the split is its constant term. -/
theorem Gfss.Polynomial.eval_zero_randomWithConstantTerm (rng : Nat → UInt8) (start : Nat)
    (k : Gfss.ValidThreshold) (c : Gfss.Gf256) :
    (Gfss.Polynomial.randomWithConstantTerm rng start k c).toPoly.eval 0 = c := by
  simp [Gfss.Polynomial.toPoly, Gfss.Polynomial.randomWithConstantTerm]

/-- The tests' `pow` is the power of the field. -/
theorem Gfss.Polynomial.pow_eq_npow (x : Gfss.Gf256) : ∀ n, Gfss.Polynomial.pow x n = x ^ n
  | 0 => rfl
  | n + 1 => by rw [Gfss.Polynomial.pow, Gfss.Polynomial.pow_eq_npow x n, pow_succ]

/-- **Horner's rule agrees with the sum of the terms**: `Polynomial::eval` is the sum over the
    coefficients of each times `x` to its exponent, with `Gf256`'s `Mul` and `Add`. -/
theorem Gfss.Polynomial.eval_eq_sum_coeff_mul_pow (p : Gfss.Polynomial) (x : Gfss.Gf256) :
    p.eval x = (p.coeffs.zipIdx.map fun ci => ci.1 * Gfss.Polynomial.pow x ci.2).sum := by
  have hsum := eval_ofCoeffs_mul_pow x p.coeffs 0
  rw [pow_zero, mul_one] at hsum
  rw [Gfss.Polynomial.eval_eq_toPoly, Gfss.Polynomial.toPoly, hsum]
  simp only [Gfss.Polynomial.pow_eq_npow]

/-- The tests' `naive_eval` agrees with `eval` up to 256 coefficients, where `exponent as u8`
    keeps every exponent. -/
theorem Gfss.Polynomial.naiveEval_eq_eval (p : Gfss.Polynomial) (x : Gfss.Gf256)
    (hlen : p.coeffs.length ≤ 256) : p.naiveEval x = p.eval x := by
  have hexp : ∀ ci ∈ p.coeffs.zipIdx, ci.2 % 256 = ci.2 := by
    rintro ⟨c, i⟩ hmem
    have hi := (List.mem_zipIdx hmem).2.1
    exact Nat.mod_eq_of_lt (by omega)
  have hmap : p.coeffs.zipIdx.map (fun ci => ci.1 * Gfss.Polynomial.pow x (ci.2 % 256)) =
      p.coeffs.zipIdx.map (fun ci => ci.1 * Gfss.Polynomial.pow x ci.2) :=
    List.map_congr_left fun ci hmem => by rw [hexp ci hmem]
  rw [Gfss.Polynomial.eval_eq_sum_coeff_mul_pow, ← hmap, List.sum_eq_foldl, List.foldl_map]
  rfl

namespace Gfss

/-! ## 2. The Lagrange sum of the code -/

/-- The basis coefficient of share `i` is the product over the other shares. -/
theorem lagrangeBasis_eq_prod (shares : List Share) (i : Fin shares.length) (x : Gf256) :
    lagrangeBasis shares i shares[i].xCoordinate x =
      ∏ j ∈ univ.erase i,
        (x - shares[j].xCoordinate) / (shares[i].xCoordinate - shares[j].xCoordinate) := by
  unfold lagrangeBasis
  -- the code's product, in list order, as a product over the other shares
  refine (foldl_filter_mul (M := Gf256)
    (fun p : Share × Nat => (x - p.1.xCoordinate) / (shares[i].xCoordinate - p.1.xCoordinate))
    _ _ 1).trans ?_
  rw [one_mul, zipIdx_eq_ofFn, List.map_ofFn, List.prod_ofFn, ← Finset.filter_ne',
    Finset.prod_filter]
  refine Finset.prod_congr rfl fun j _ => ?_
  have hne : (j : Nat) ≠ i ↔ j ≠ i := Fin.val_ne_iff
  simp only [Function.comp_apply, decide_eq_true_eq, hne]

theorem accumulate_map {α : Type} (w : Gf256) (l : List α) (f g : α → Gf256) :
    accumulate w (l.map f) (l.map g) = l.map fun a => f a + w * g a := by
  induction l with
  | nil => rfl
  | cons a l ih => simp [accumulate, ih]

/-- The accumulation over shares whose y-coordinates are the values of `polys` adds, per
    polynomial, each share's coefficient times the polynomial's value at its x-coordinate. -/
theorem foldl_accumulate (polys : List Polynomial) (W : Share × Nat → Gf256)
    (L : List (Share × Nat)) (h : Polynomial → Gf256)
    (hL : ∀ p ∈ L, p.1.yCoordinates = polys.map (·.eval p.1.xCoordinate)) :
    L.foldl (fun out p => accumulate (W p) out p.1.yCoordinates) (polys.map h) =
      polys.map fun P => h P + (L.map fun p => W p * P.eval p.1.xCoordinate).sum := by
  induction L generalizing h with
  | nil => simp
  | cons p L ih =>
    rw [List.foldl_cons, hL p List.mem_cons_self, accumulate_map,
      ih _ fun q hq => hL q (List.mem_cons_of_mem p hq)]
    simp [add_assoc]

/-! ## 3. Valid shares -/

/-- **The per-share loop of `ValidShares::new` passes** exactly when every share has length `len`
    and no two have one x-coordinate. -/
theorem validateRest_eq_ok_iff (len : Nat) (shares : List Share) :
    validateRest len shares = .ok () ↔
      (∀ s ∈ shares, s.yCoordinates.length = len) ∧ (shares.map (·.xCoordinate)).Nodup := by
  induction shares with
  | nil => simp [validateRest]
  | cons s rest ih =>
    have hany : rest.any (fun s2 => s.xCoordinate == s2.xCoordinate) = true ↔
        s.xCoordinate ∈ rest.map (·.xCoordinate) := by
      simp only [List.any_eq_true, beq_iff_eq, List.mem_map]
      exact ⟨fun ⟨t, ht, h⟩ => ⟨t, ht, h.symm⟩, fun ⟨t, ht, h⟩ => ⟨t, ht, h.symm⟩⟩
    unfold validateRest
    by_cases hlen : s.yCoordinates.length = len
    · by_cases hdup : s.xCoordinate ∈ rest.map (·.xCoordinate)
      · simp [hlen, hany.mpr hdup, hdup]
      · have : rest.any (fun s2 => s.xCoordinate == s2.xCoordinate) = false :=
          Bool.eq_false_iff.mpr fun h => hdup (hany.mp h)
        simp only [hlen, ne_eq, not_true_eq_false, if_false, this, Bool.false_eq_true, ih,
          List.forall_mem_cons, true_and, List.map_cons, List.nodup_cons, hdup, not_false_eq_true]
    · simp [hlen]

theorem validateShares_eq_ok_iff (shares : List Share) :
    validateShares shares = .ok () ↔ 2 ≤ shares.length ∧
      (∀ s ∈ shares, ∀ t ∈ shares, s.yCoordinates.length = t.yCoordinates.length) ∧
      (shares.map (·.xCoordinate)).Nodup := by
  match shares with
  | [] => simp [validateShares]
  | [_] => simp [validateShares]
  | s :: t :: rest =>
    rw [validateShares, validateRest_eq_ok_iff]
    constructor
    · rintro ⟨hlen, hnd⟩
      exact ⟨by simp, fun a ha b hb => (hlen a ha).trans (hlen b hb).symm, hnd⟩
    · rintro ⟨-, hlen, hnd⟩
      exact ⟨fun a ha => hlen a ha s List.mem_cons_self, hnd⟩

/-! ## 4. Interpolation -/

/-- Shares that lie on the polynomials: each is their values at its x-coordinate. -/
def OnPolys (polys : List Polynomial) (shares : List Share) : Prop :=
  ∀ s ∈ shares, s = shareAt polys s.xCoordinate

theorem numYCoordinates_eq (v : ValidShares) (polys : List Polynomial)
    (hon : OnPolys polys v.shares) :
    v.numYCoordinates = polys.length := by
  unfold ValidShares.numYCoordinates
  split
  · rename_i s rest h
    rw [hon s (h ▸ List.mem_cons_self)]
    simp [shareAt]
  · rename_i h
    have := ((validateShares_eq_ok_iff _).mp v.valid).1
    simp [h] at this

/-- **Interpolation recovers the polynomials**: valid shares that lie on them, at least as many
    as each has coefficients, interpolate at any `x` to their values there. -/
theorem interpolatePolynomials_eq_shareAt (v : ValidShares) (polys : List Polynomial)
    (hon : OnPolys polys v.shares)
    (hdeg : ∀ P ∈ polys, P.coeffs.length ≤ v.shares.length) (x : Gf256) :
    interpolatePolynomials v x = shareAt polys x := by
  obtain ⟨-, -, hnd⟩ := (validateShares_eq_ok_iff _).mp v.valid
  have hinj : Function.Injective fun i : Fin v.shares.length => v.shares[i].xCoordinate := by
    intro i j hij
    have hget := List.nodup_iff_injective_get.mp hnd
    have h' : (v.shares.map (·.xCoordinate)).get (i.cast (by simp)) =
        (v.shares.map (·.xCoordinate)).get (j.cast (by simp)) := by
      simpa using hij
    exact Fin.ext (by simpa using congrArg Fin.val (hget h'))
  have hL : ∀ p ∈ v.shares.zipIdx, p.1.yCoordinates = polys.map (·.eval p.1.xCoordinate) := by
    intro p hp
    rw [hon p.1 (List.fst_mem_of_mem_zipIdx hp)]
    rfl
  unfold interpolatePolynomials
  rw [numYCoordinates_eq v polys hon, ← List.map_const', foldl_accumulate polys _ _ _ hL]
  simp only [shareAt, Share.mk.injEq, true_and]
  refine List.map_congr_left fun P hP => ?_
  -- the Lagrange sum of the code is Lagrange's formula at the shares' x-coordinates
  rw [zero_add, zipIdx_eq_ofFn, List.map_ofFn, List.sum_ofFn, Polynomial.eval_eq_toPoly]
  simp only [Function.comp_apply, lagrangeBasis_eq_prod, Polynomial.eval_eq_toPoly]
  exact sum_basis_mul_eval _ hinj P.toPoly
    (lt_of_lt_of_le P.degree_toPoly_lt (by exact_mod_cast hdeg P hP)) x

/-! ## 5. Combining shares that lie on the polynomials -/

section OnPolys

variable {polys : List Polynomial} {shares : List Share} (hon : OnPolys polys shares)
  (hnd : (shares.map (·.xCoordinate)).Nodup) (htwo : 2 ≤ shares.length)
  (hdeg : ∀ P ∈ polys, P.coeffs.length ≤ shares.length)
include hon hnd htwo hdeg

/-- Shares at distinct points on the polynomials, at least two and as many as each polynomial
    has coefficients, pass `ValidShares::new` and interpolate to the polynomials. -/
theorem combine_of_onPolys :
    ∃ v : ValidShares, ValidShares.new shares = .ok v ∧ v.shares = shares ∧
      ∀ x, interpolatePolynomials v x = shareAt polys x := by
  have hvalid : validateShares shares = .ok () := by
    refine (validateShares_eq_ok_iff shares).mpr ⟨htwo, fun s hs t ht => ?_, hnd⟩
    rw [hon s hs, hon t ht]
    simp [shareAt]
  refine ⟨⟨shares, hvalid⟩, ?_, rfl, interpolatePolynomials_eq_shareAt _ polys hon hdeg⟩
  unfold ValidShares.new
  split
  · rfl
  · rename_i e h
    rw [hvalid] at h
    cases h

/-- **`compute_secret` returns the constant terms.** -/
theorem computeSecret_of_onPolys :
    computeSecret shares = .ok (polys.map fun P => (P.eval 0).val) := by
  obtain ⟨v, hv, -, hinterp⟩ := combine_of_onPolys hon hnd htwo hdeg
  simp [computeSecret, hv, hinterp, shareAt]

/-- **`compute_share` at a nonzero `x` returns the polynomials' values there.** -/
theorem computeShare_of_onPolys {x : Gf256} (hx : x ≠ 0) :
    computeShare shares x = .ok (shareAt polys x) := by
  obtain ⟨v, hv, -, hinterp⟩ := combine_of_onPolys hon hnd htwo hdeg
  simp [computeShare, hx, hv, hinterp]

end OnPolys

end Gfss

end Omicron
