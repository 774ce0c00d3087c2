import Mathlib.LinearAlgebra.Lagrange
import Mathlib.Algebra.BigOperators.Fin

/-!
# Horner's rule and Lagrange's formula as list computations

Code that evaluates and interpolates polynomials works on lists: Horner's rule folds the
coefficients in from the leading one down, and a Lagrange basis coefficient is a product, in
list order, over the other points. This file relates both to Mathlib's polynomials:

* `ofCoeffs` -- the polynomial of a list of coefficients from degree `0` up, of degree below
  their number (`degree_ofCoeffs_lt`), `foldl_horner`, Horner's rule, and
  `eval_ofCoeffs_mul_pow`, the sum of its terms;
* `sum_basis_mul_eval` -- Lagrange's formula at distinct points, as many as the polynomial has
  coefficients or more: every value of the polynomial is the sum of the values at the points
  times the basis coefficients there;
* `foldl_filter_mul`, `zipIdx_eq_ofFn` -- a fold of products over a filtered list, and a list
  with its indices, as the finite products and sums the formula is stated with.
-/

namespace Omicron

open Polynomial Finset

/-! ## 1. Horner's rule -/

section Horner

variable {F : Type} [CommRing F]

/-- The polynomial whose coefficients, from degree `0` up, are `cs`. -/
noncomputable def ofCoeffs : List F → F[X]
  | [] => 0
  | c :: cs => C c + X * ofCoeffs cs

theorem ofCoeffs_nil : ofCoeffs ([] : List F) = 0 := rfl

theorem ofCoeffs_cons (c : F) (cs : List F) : ofCoeffs (c :: cs) = C c + X * ofCoeffs cs := rfl

@[simp] theorem eval_ofCoeffs_nil (x : F) : (ofCoeffs []).eval x = 0 := by
  rw [ofCoeffs_nil, eval_zero]

@[simp] theorem eval_ofCoeffs_cons (x c : F) (cs : List F) :
    (ofCoeffs (c :: cs)).eval x = c + x * (ofCoeffs cs).eval x := by
  rw [ofCoeffs_cons, eval_add, eval_C, eval_mul, eval_X]

theorem degree_ofCoeffs_lt [IsDomain F] : ∀ cs : List F, (ofCoeffs cs).degree < cs.length
  | [] => by simp [ofCoeffs_nil]
  | c :: cs => by
    refine lt_of_le_of_lt (degree_add_le _ _) (max_lt ?_ ?_)
    · exact lt_of_le_of_lt degree_C_le (by exact_mod_cast Nat.succ_pos cs.length)
    · rcases eq_or_ne (ofCoeffs cs) 0 with h | h
      · rw [h, mul_zero, degree_zero]
        exact WithBot.bot_lt_coe _
      · -- the degree of `X * p` is one more than that of `p`
        have hlt := degree_ofCoeffs_lt cs
        rw [degree_eq_natDegree h] at hlt
        have hnat : (ofCoeffs cs).natDegree < cs.length := by exact_mod_cast hlt
        have hnd : (X * ofCoeffs cs).natDegree < cs.length + 1 := by
          rw [natDegree_mul X_ne_zero h, natDegree_X]
          omega
        rw [degree_eq_natDegree (mul_ne_zero X_ne_zero h), List.length_cons]
        exact_mod_cast hnd

/-- **Horner's rule**: folding the coefficients in from the leading one `c` down evaluates the
    polynomial. -/
theorem foldl_horner (x c : F) (cs : List F) :
    cs.foldl (fun y a => y * x + a) c = (ofCoeffs (c :: cs).reverse).eval x := by
  -- the last coefficient folded in is the constant term
  induction cs using List.reverseRecOn with
  | nil => simp
  | append_singleton cs a ih =>
    rw [List.foldl_append, List.foldl_cons, List.foldl_nil, ih, ← List.cons_append,
      List.reverse_append]
    simp [mul_comm, add_comm]

/-- **The polynomial is the sum of its terms**: each coefficient times the power of `x` that
    `zipIdx` numbers it with, from `n` on, is the value shifted up by `n`. -/
theorem eval_ofCoeffs_mul_pow (x : F) : ∀ (cs : List F) (n : Nat),
    (ofCoeffs cs).eval x * x ^ n = ((cs.zipIdx n).map fun ci => ci.1 * x ^ ci.2).sum
  | [], n => by simp
  | c :: cs, n => by
    rw [List.zipIdx_cons, List.map_cons, List.sum_cons, ← eval_ofCoeffs_mul_pow x cs (n + 1),
      eval_ofCoeffs_cons]
    ring

end Horner

/-! ## 2. Lagrange's formula -/

section Lagrange

variable {F : Type} [Field F]

/-- **Lagrange's formula.** At distinct points `v i`, as many as `p` has coefficients or more,
    `p x` is the sum over the points of `p (v i)` times the product over the other points of
    `(x - v j) / (v i - v j)`. -/
theorem sum_basis_mul_eval {n : ℕ} (v : Fin n → F) (hv : Function.Injective v) (p : F[X])
    (hp : p.degree < n) (x : F) :
    ∑ i, (∏ j ∈ univ.erase i, (x - v j) / (v i - v j)) * p.eval (v i) = p.eval x := by
  have hinj : Set.InjOn v (univ : Finset (Fin n)) := hv.injOn
  have hp' : p.degree < (univ : Finset (Fin n)).card := by simpa using hp
  -- `p` is its own interpolation at the points
  conv_rhs => rw [Lagrange.eq_interpolate hinj hp']
  rw [Lagrange.interpolate_apply, eval_finsetSum]
  refine sum_congr rfl fun i _ => ?_
  rw [eval_mul, eval_C, mul_comm, Lagrange.basis, eval_prod]
  congr 1
  refine prod_congr rfl fun j _ => ?_
  rw [Lagrange.basisDivisor, eval_mul, eval_C, eval_sub, eval_X, eval_C, div_eq_inv_mul]

end Lagrange

/-! ## 3. Folds over lists as finite products -/

/-- A fold of products over the elements that pass `q` is the product over all of them, those
    that fail counting one. -/
theorem foldl_filter_mul {α M : Type} [CommMonoid M] (g : α → M) (q : α → Bool) (l : List α)
    (a : M) :
    (l.filter q).foldl (fun acc p => acc * g p) a =
      a * (l.map fun p => if q p then g p else 1).prod := by
  induction l generalizing a with
  | nil => simp
  | cons p l ih =>
    by_cases hq : q p
    · simp [hq, ih, mul_assoc]
    · simp [hq, ih]

theorem zipIdx_eq_ofFn {α : Type} (l : List α) :
    l.zipIdx = List.ofFn fun i : Fin l.length => (l[i], (i : ℕ)) := by
  apply List.ext_getElem <;> simp [List.getElem_zipIdx]

end Omicron
