import Omicron.Gfss.Interpolation
import Omicron.Lib.ExceptRun

/-!
# Splitting and combining: the round trip

The shares of `split_secret_impl(secret, n, k, rng)` lie on its polynomials
(`splitPolynomials`), one per secret byte with the byte as constant term and `k` coefficients,
at the distinct nonzero points `1, …, n` (`splitXs`). Any `k` of them or more, in any order,
are so shares the interpolation recovers the polynomials from:

* `computeSecret_splitSecretImpl` -- the split fails exactly for `k < 2` or `n < k`, and
  `compute_secret` of any such sub-list of its shares returns the secret, whatever the random
  stream;
* `computeShare_splitSecretImpl` -- `compute_share` of such a sub-list at a nonzero `x` returns
  the polynomials' values at `x`: the split's own share at its own point, and shares at any `k`
  distinct nonzero points that recombine to the secret; at `0` it is refused.
-/

namespace Omicron.Gfss

/-! ## 1. The split -/

/-- The polynomials of `split_secret_impl`: the `j`th drawn from the random stream at `j * k`,
    byte `j` of the secret its constant term. -/
def splitPolynomials (secret : List UInt8) (k : UInt8) (rng : Nat → UInt8)
    (threshold : ValidThreshold) : List Polynomial :=
  secret.mapIdx fun j s => Polynomial.randomWithConstantTerm rng (j * k.toNat) threshold ⟨s⟩

/-- The x-coordinates of the split's shares: `1, …, n`. -/
def splitXs (n : UInt8) : List Gf256 := (List.range n.toNat).map fun i => ⟨(i + 1).toUInt8⟩

/-- `split_secret_impl` is the shares of `splitPolynomials` at `splitXs`, once the threshold
    is valid. -/
theorem splitSecretImpl_eq (secret : List UInt8) (n k : UInt8) (rng : Nat → UInt8) :
    splitSecretImpl secret n k rng = (ValidThreshold.new n k).map fun threshold =>
      ⟨threshold, (splitXs n).map (shareAt (splitPolynomials secret k rng threshold))⟩ := by
  unfold splitSecretImpl
  cases ValidThreshold.new n k with
  | error e => rfl
  | ok t =>
    simp only [splitXs, splitPolynomials, List.map_map, Function.comp_def]
    rfl

theorem ValidThreshold.new_eq_error_iff (n k : UInt8) :
    (∃ e, ValidThreshold.new n k = .error e) ↔ k < 2 ∨ n < k := by
  unfold ValidThreshold.new
  by_cases hk : k < 2
  · simp [hk]
  · by_cases hn : n < k <;> simp [hk, hn]

theorem ValidThreshold.inner_of_new {n k : UInt8} {t : ValidThreshold}
    (h : ValidThreshold.new n k = .ok t) : t.inner = k ∧ k ≤ n := by
  unfold ValidThreshold.new at h
  split at h
  · cases h
  · split at h
    · cases h
    · rename_i hn
      cases h
      exact ⟨rfl, UInt8.not_lt.mp hn⟩

/-- The points `1, …, n` are distinct bytes, as `n ≤ 255`. -/
theorem nodup_splitXs (n : UInt8) : (splitXs n).Nodup := by
  refine List.Nodup.map_on (fun i hi j hj hij => ?_) List.nodup_range
  have hi' := List.mem_range.mp hi
  have hj' := List.mem_range.mp hj
  have hn := n.toNat_lt
  have := congrArg (fun g : Gf256 => g.val.toNat) hij
  simp only [Nat.toUInt8_eq] at this
  rw [UInt8.toNat_ofNat_of_lt' (by simp [UInt8.size]; omega),
    UInt8.toNat_ofNat_of_lt' (by simp [UInt8.size]; omega)] at this
  omega

theorem coeffs_length_of_mem_splitPolynomials {secret : List UInt8} {k : UInt8}
    {rng : Nat → UInt8} {t : ValidThreshold} {P : Polynomial}
    (hP : P ∈ splitPolynomials secret k rng t) : P.coeffs.length = t.inner.toNat := by
  obtain ⟨j, hj, rfl⟩ := List.mem_mapIdx.mp hP
  exact Polynomial.randomWithConstantTerm_length _ _ _ _

theorem map_eval_zero_splitPolynomials (secret : List UInt8) (k : UInt8) (rng : Nat → UInt8)
    (t : ValidThreshold) :
    (splitPolynomials secret k rng t).map (fun P => (P.eval 0).val) = secret := by
  apply List.ext_getElem (by simp [splitPolynomials])
  intro i _ _
  simp [splitPolynomials, Polynomial.eval_eq_toPoly, Polynomial.eval_zero_randomWithConstantTerm]

theorem zero_not_mem_splitXs (n : UInt8) : (0 : Gf256) ∉ splitXs n := by
  intro h
  obtain ⟨i, hi, hzero⟩ := List.mem_map.mp h
  have hi' := List.mem_range.mp hi
  have hn := n.toNat_lt
  have := congrArg (fun g : Gf256 => g.val.toNat) hzero
  simp only [Nat.toUInt8_eq] at this
  rw [UInt8.toNat_ofNat_of_lt' (by simp [UInt8.size]; omega)] at this
  simp at this

/-! ## 2. Sub-lists of shares -/

theorem onPolys_map_shareAt (polys : List Polynomial) (xs : List Gf256) :
    OnPolys polys (xs.map (shareAt polys)) := by
  intro s hs
  obtain ⟨x, -, rfl⟩ := List.mem_map.mp hs
  rfl

theorem OnPolys.of_subperm {polys : List Polynomial} {shares shares' : List Share}
    (h : OnPolys polys shares') (hs : shares.Subperm shares') : OnPolys polys shares :=
  fun s hs' => h s (hs.subset hs')

theorem nodup_xs_of_subperm {polys : List Polynomial} {xs : List Gf256} {shares : List Share}
    (hxs : xs.Nodup) (hs : shares.Subperm (xs.map (shareAt polys))) :
    (shares.map (·.xCoordinate)).Nodup := by
  have hmap : ((xs.map (shareAt polys)).map (·.xCoordinate)) = xs := by
    simp [List.map_map, Function.comp_def, shareAt]
  obtain ⟨l, hperm, hsub⟩ := hs
  have hl : (l.map (·.xCoordinate)).Nodup := by
    refine List.Nodup.sublist (hsub.map _) ?_
    rw [hmap]
    exact hxs
  exact (hperm.map _).nodup_iff.mp hl

/-! ## 3. The round trip -/

theorem splitSecretImpl_eq_ok {secret : List UInt8} {n k : UInt8} {rng : Nat → UInt8}
    {out : SecretShares} (h : splitSecretImpl secret n k rng = .ok out) :
    ∃ t, ValidThreshold.new n k = .ok t ∧
      out = ⟨t, (splitXs n).map (shareAt (splitPolynomials secret k rng t))⟩ := by
  rw [splitSecretImpl_eq] at h
  cases ht : ValidThreshold.new n k with
  | error e => simp [ht, Except.map] at h
  | ok t =>
    simp only [ht, Except.map, Except.ok.injEq] at h
    exact ⟨t, rfl, h.symm⟩

theorem two_le_of_new {n k : UInt8} {t : ValidThreshold} (ht : ValidThreshold.new n k = .ok t) :
    2 ≤ k.toNat := by
  have := t.two_le
  rwa [(ValidThreshold.inner_of_new ht).1] at this

theorem coeffs_length_of_new {secret : List UInt8} {n k : UInt8} {rng : Nat → UInt8}
    {t : ValidThreshold} (ht : ValidThreshold.new n k = .ok t) {P : Polynomial}
    (hP : P ∈ splitPolynomials secret k rng t) : P.coeffs.length = k.toNat := by
  rw [coeffs_length_of_mem_splitPolynomials hP, (ValidThreshold.inner_of_new ht).1]

/-- What combining shares of a split needs: they lie on its polynomials, at distinct points,
    at least `k` of them. -/
theorem combine_splitShares {secret : List UInt8} {n k : UInt8} {rng : Nat → UInt8}
    {t : ValidThreshold} (ht : ValidThreshold.new n k = .ok t) {shares : List Share}
    (hS : shares.Subperm ((splitXs n).map (shareAt (splitPolynomials secret k rng t))))
    (hk : k.toNat ≤ shares.length) :
    OnPolys (splitPolynomials secret k rng t) shares ∧ (shares.map (·.xCoordinate)).Nodup ∧
      2 ≤ shares.length ∧ ∀ P ∈ splitPolynomials secret k rng t, P.coeffs.length ≤ shares.length :=
  ⟨(onPolys_map_shareAt _ _).of_subperm hS, nodup_xs_of_subperm (nodup_splitXs n) hS,
    (two_le_of_new ht).trans hk, fun _ hP => (coeffs_length_of_new ht hP).trans_le hk⟩

/-- **Split and combine round trip.** `split_secret_impl` fails exactly for `k < 2` or `n < k`;
    otherwise `compute_secret` of any `k` or more of its shares, in any order, returns the
    secret. -/
theorem computeSecret_splitSecretImpl (secret : List UInt8) (n k : UInt8) (rng : Nat → UInt8) :
    ((∃ e, splitSecretImpl secret n k rng = .error e) ↔ k < 2 ∨ n < k) ∧
      ∀ out, splitSecretImpl secret n k rng = .ok out →
        ∀ shares : List Share, shares.Subperm out.shares → k.toNat ≤ shares.length →
          computeSecret shares = .ok secret := by
  constructor
  · rw [splitSecretImpl_eq, ← ValidThreshold.new_eq_error_iff]
    cases ValidThreshold.new n k <;> simp [Except.map]
  · intro out hout shares hS hk
    obtain ⟨t, ht, rfl⟩ := splitSecretImpl_eq_ok hout
    obtain ⟨hon, hnd, htwo, hdeg⟩ := combine_splitShares ht hS hk
    rw [computeSecret_of_onPolys hon hnd htwo hdeg, map_eval_zero_splitPolynomials]

theorem computeSecret_splitSecretImpl_pair :
    ∃ out, splitSecretImpl [7] 3 2 (fun _ => 5) = .ok out ∧
      (out.shares.drop 1).Subperm out.shares ∧ (2 : UInt8).toNat ≤ (out.shares.drop 1).length ∧
      computeSecret (out.shares.drop 1) = .ok [7] :=
  ⟨_, rfl, (List.drop_sublist _ _).subperm, by decide,
    (computeSecret_splitSecretImpl [7] 3 2 (fun _ => 5)).2 _ rfl _ (List.drop_sublist _ _).subperm
      (by decide)⟩

/-- **Share recomputation.** From any `k` or more shares of a split, in any order,
    `compute_share` at a nonzero `x` returns the split's polynomials at `x`: the split's own share
    at its own point, and at any `k` distinct nonzero points shares that recombine to the
    secret. At `0` it is refused. -/
theorem computeShare_splitSecretImpl (secret : List UInt8) (n k : UInt8) (rng : Nat → UInt8)
    (out : SecretShares) (hout : splitSecretImpl secret n k rng = .ok out)
    (shares : List Share) (hS : shares.Subperm out.shares) (hk : k.toNat ≤ shares.length) :
    computeShare shares 0 = .error .invalidShareId ∧
      (∀ x, x ≠ 0 →
        computeShare shares x = .ok (shareAt (splitPolynomials secret k rng out.threshold) x)) ∧
      (∀ s ∈ out.shares, computeShare shares s.xCoordinate = .ok s) ∧
      (∀ xs : List Gf256, xs.Nodup → 0 ∉ xs → k.toNat ≤ xs.length →
        ∃ computed, xs.mapM (computeShare shares) = .ok computed ∧
          computeSecret computed = .ok secret) := by
  obtain ⟨t, ht, rfl⟩ := splitSecretImpl_eq_ok hout
  obtain ⟨hon, hnd, htwo, hdeg⟩ := combine_splitShares ht hS hk
  have hshare : ∀ x, x ≠ 0 →
      computeShare shares x = .ok (shareAt (splitPolynomials secret k rng t) x) :=
    fun x hx => computeShare_of_onPolys hon hnd htwo hdeg hx
  refine ⟨by simp [computeShare], hshare, fun s hs => ?_, fun xs hxs hzero hlen => ?_⟩
  · -- a share of the split is the split's polynomials at a nonzero point
    obtain ⟨x, hx, rfl⟩ := List.mem_map.mp hs
    exact hshare x fun h => zero_not_mem_splitXs n (h ▸ hx)
  · -- the computed shares lie on the polynomials too, at the distinct points `xs`
    have hxs' :
        ((xs.map (shareAt (splitPolynomials secret k rng t))).map (·.xCoordinate)).Nodup := by
      simpa [List.map_map, Function.comp_def, shareAt] using hxs
    refine ⟨xs.map (shareAt (splitPolynomials secret k rng t)),
      Except.mapM_eq_ok_map xs fun x hx => hshare x fun h => hzero (h ▸ hx), ?_⟩
    rw [computeSecret_of_onPolys (onPolys_map_shareAt _ xs) hxs'
      (by simpa using (two_le_of_new ht).trans hlen)
      (fun _ hP => by simpa using (coeffs_length_of_new ht hP).trans_le hlen),
      map_eval_zero_splitPolynomials]

theorem computeShare_splitSecretImpl_pair :
    ∃ out, splitSecretImpl [7] 3 2 (fun _ => 5) = .ok out ∧
      (out.shares.drop 1).Subperm out.shares ∧ (2 : UInt8).toNat ≤ (out.shares.drop 1).length ∧
      computeShare (out.shares.drop 1) 0 = .error .invalidShareId ∧
      ∀ s ∈ out.shares, computeShare (out.shares.drop 1) s.xCoordinate = .ok s :=
  ⟨_, rfl, (List.drop_sublist _ _).subperm, by decide,
    (computeShare_splitSecretImpl [7] 3 2 (fun _ => 5) _ rfl _ (List.drop_sublist _ _).subperm
      (by decide)).1,
    (computeShare_splitSecretImpl [7] 3 2 (fun _ => 5) _ rfl _ (List.drop_sublist _ _).subperm
      (by decide)).2.2.1⟩

end Omicron.Gfss
