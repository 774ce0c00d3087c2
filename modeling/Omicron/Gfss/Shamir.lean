import Omicron.Gfss.Polynomial

/-!
# `gfss::shamir`: splitting a secret and combining shares

Shamir secret sharing over GF(2^8), one polynomial per secret byte, as `shamir.rs` computes it:

* `ValidThreshold.new`, `splitSecretImpl` -- the split: `k < 2` and `n < k` are refused, byte `j`
  of the secret becomes the constant term of a polynomial drawn from the random stream at
  position `j * k`, and share `i` (for `i = 1 .. n`) holds every polynomial evaluated at `x = i`;
* `validateShares`, `ValidShares` -- the checks of `ValidShares::new` in the source's order (at
  least two shares; per share, its length against the first one's, then its x-coordinate against
  every later share's); a `ValidShares` carries the passed check;
* `lagrangeBasis`, `interpolatePolynomials` -- the Lagrange sum at `x`, one basis coefficient per
  share, accumulated into the y-coordinates as the source's `zip` does;
* `computeSecret`, `computeShare` -- the interpolation at `0`, and at a nonzero `x`.
-/

namespace Omicron.Gfss

/-- `SplitError`. -/
inductive SplitError where
  | thresholdToSmall
  | tooFewTotalShares (n k : UInt8)
  deriving DecidableEq, Repr

/-- `CombineError`. -/
inductive CombineError where
  | tooFewShares
  | duplicateXCoordinates
  | invalidShareLengths
  | invalidShareId
  deriving DecidableEq, Repr

/-- `Share`: an x-coordinate and one y-coordinate per secret byte. -/
structure Share where
  xCoordinate : Gf256
  yCoordinates : List Gf256
  deriving DecidableEq, Repr

namespace ValidThreshold

/-- `ValidThreshold::new(n, k)`. -/
def new (n k : UInt8) : Except SplitError ValidThreshold :=
  if h : k < 2 then .error .thresholdToSmall
  else if n < k then .error (.tooFewTotalShares n k)
  else .ok ⟨k, by
    have : ¬ k.toNat < 2 := fun h' => h (UInt8.lt_iff_toNat_lt.mpr h')
    omega⟩

end ValidThreshold

/-- `SecretShares`: the threshold and the shares of one split. -/
structure SecretShares where
  threshold : ValidThreshold
  shares : List Share

/-- The share at `x`: every polynomial of the split evaluated there. -/
def shareAt (polynomials : List Polynomial) (x : Gf256) : Share :=
  ⟨x, polynomials.map (·.eval x)⟩

/-- `split_secret_impl`: one polynomial per secret byte, the `j`th drawn from the stream at
    position `j * k` (each draws `k` samples), then the shares at `x = 1, …, n`. -/
def splitSecretImpl (secret : List UInt8) (n k : UInt8) (rng : Nat → UInt8) :
    Except SplitError SecretShares := do
  let threshold ← ValidThreshold.new n k
  let polynomials := secret.mapIdx fun j s =>
    Polynomial.randomWithConstantTerm rng (j * k.toNat) threshold ⟨s⟩
  let shares := (List.range n.toNat).map fun i => shareAt polynomials ⟨(i + 1).toUInt8⟩
  pure ⟨threshold, shares⟩

/-- The per-share loop of `ValidShares::new`: each share's length against `len`, then its
    x-coordinate against every later share. -/
def validateRest (len : Nat) : List Share → Except CombineError Unit
  | [] => .ok ()
  | s :: rest =>
    if s.yCoordinates.length ≠ len then .error .invalidShareLengths
    else if rest.any (fun s2 => s.xCoordinate == s2.xCoordinate) then
      .error .duplicateXCoordinates
    else validateRest len rest

/-- `ValidShares::new` as a check: at least two shares, then the per-share loop against the
    first share's length. -/
def validateShares : List Share → Except CombineError Unit
  | [] => .error .tooFewShares
  | [_] => .error .tooFewShares
  | s :: t :: rest => validateRest s.yCoordinates.length (s :: t :: rest)

/-- `ValidShares`: shares that passed `ValidShares::new`. -/
structure ValidShares where
  shares : List Share
  valid : validateShares shares = .ok ()

/-- `ValidShares::new`. -/
def ValidShares.new (shares : List Share) : Except CombineError ValidShares :=
  match h : validateShares shares with
  | .ok () => .ok ⟨shares, h⟩
  | .error e => .error e

/-- `ValidShares::num_y_coordinates`: the length of the first share. -/
def ValidShares.numYCoordinates (v : ValidShares) : Nat :=
  match v.shares with
  | s :: _ => s.yCoordinates.length
  | [] => 0

/-- The Lagrange basis coefficient of share `i` at `x`: the product over the other shares `j`,
    in list order, of `(x - x_j) / (x_i - x_j)`. -/
def lagrangeBasis (shares : List Share) (i : Nat) (xi x : Gf256) : Gf256 :=
  (shares.zipIdx.filter fun p => p.2 ≠ i).foldl
    (fun li p => li * ((x - p.1.xCoordinate) / (xi - p.1.xCoordinate))) 1

/-- `for (y, y_i) in output.iter_mut().zip(y_coordinates) { *y += li * y_i }`: the pairs the
    `zip` reaches are updated, the rest of `output` is left as it is. -/
def accumulate (li : Gf256) : List Gf256 → List Gf256 → List Gf256
  | y :: ys, yi :: yis => (y + li * yi) :: accumulate li ys yis
  | ys, [] => ys
  | [], _ :: _ => []

/-- `interpolate_polynomials`: the output starts at zero, and each share adds its basis
    coefficient times its y-coordinates. -/
def interpolatePolynomials (shares : ValidShares) (x : Gf256) : Share :=
  let output := shares.shares.zipIdx.foldl
    (fun out p => accumulate (lagrangeBasis shares.shares p.2 p.1.xCoordinate x) out
      p.1.yCoordinates)
    (List.replicate shares.numYCoordinates 0)
  ⟨x, output⟩

/-- `compute_secret`: the interpolation at `x = 0`, its y-coordinates as bytes. -/
def computeSecret (shares : List Share) : Except CombineError (List UInt8) := do
  let valid ← ValidShares.new shares
  pure ((interpolatePolynomials valid 0).yCoordinates.map (·.val))

/-- `compute_share`: `x = 0` is refused, otherwise the interpolation at `x`. -/
def computeShare (shares : List Share) (x : Gf256) : Except CombineError Share :=
  if x = 0 then .error .invalidShareId
  else do
    let valid ← ValidShares.new shares
    pure (interpolatePolynomials valid x)

end Omicron.Gfss
