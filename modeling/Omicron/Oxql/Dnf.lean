import Omicron.Oxql.Ast

/-!
# OxQL: disjunctive normal form of a filter

`Filter::simplify_to_dnf` rewrites a filter towards a disjunction of conjunctions, and
`Filter::flatten_disjunctions` splits the result at its top-level `||`s; the planner and
`run_oxql_query` then run one key query per disjunct. The rewrite is modelled as the source
computes it:

* `exprSimplifyToDnf` -- `FilterExpr::simplify_to_dnf`: simplify both operands, then distribute
  `&&` over an `||` on one side when the other side is an atom, else expand an `^`;
* `simplifyToDnfInner` -- `simplify_to_dnf_inner`: the rewrite of the expression, then double
  negation and de Morgan's rules for a negated filter;
* `simplifyToDnfImpl` -- `simplify_to_dnf_impl`: the inner rewrite repeated to a fixed point, at
  most `EXPR_COMPLEXITY_ITERATIVE_LIMIT` times, with at most `EXPR_COMPLEXITY_RECURSIVE_LIMIT`
  levels of recursion (the depth left is the structural argument);
* `flattenDisjunctions` -- the right spine of `||` nodes, cut into its operands.

What holds and what does not, measured by `Filter.eval`:

* `flattenDisjunctions_any_eval` -- flattening keeps the meaning when no `||` of the spine is
  negated;
* `simplifyToDnf_eval_of_isPlain` -- on filters of `&&` and `||` without negation the rewrite keeps
  the meaning, and so does the split of its result;
* `simplifyToDnf_drops_negated_atom` -- in general it does not: an atom under `!` on the right of
  `(x || y) && !z` is distributed as `z`, its negation dropped; and `!(x || y)` survives the
  rewrite (the second de Morgan rule tests `&&` again), after which the split reads it as `x || y`.
-/

set_option linter.unusedSectionVars false

namespace Omicron.Oxql

namespace Filter

variable {α : Type} [DecidableEq α]

/-! ## 1. The rewrite -/

/-- `Filter::rewrite_xor_to_disjunction`: `x ^ y` becomes `(x && !y) || (!x && y)`, under the
    same negation. -/
def rewriteXorToDisjunction (f : Filter α) : Filter α :=
  if !f.isOp .xor then f
  else match f with
    | .compound negated left _ right =>
      .compound negated (.compound false left .and right.negate) .or
        (.compound false left.negate .and right)
    | .simple _ _ => f

/-- `FilterExpr::simplify_to_dnf` of the expression of a filter (its own negation is not read),
    with `recur` standing for `simplify_to_dnf_impl(level + 1)`. The patterns look at the
    expressions of the simplified operands, not at their negations. -/
def exprSimplifyToDnf (recur : Filter α → Except String (Filter α)) :
    Filter α → Except String (Filter α)
  | .simple _ a => pure (.simple false a)
  | .compound _ l op r => do
    let left ← recur l
    let right ← recur r
    match left, op, right with
    -- (x || y) && z -> (x && z) || (y && z)
    | .compound _ x .or y, .and, .simple _ z =>
      pure (.compound false (.compound false x .and (.simple false z)) .or
        (.compound false y .and (.simple false z)))
    -- z && (x || y) -> (z && x) || (z && y)
    | .simple _ z, .and, .compound _ x .or y =>
      pure (.compound false (.compound false (.simple false z) .and x) .or
        (.compound false (.simple false z) .and y))
    | left, op, right => pure (rewriteXorToDisjunction (.compound false left op right))

/-- `Filter::simplify_to_dnf_inner`. -/
def simplifyToDnfInner (recur : Filter α → Except String (Filter α)) (f : Filter α) :
    Except String (Filter α) := do
  let new ← exprSimplifyToDnf recur f
  -- !!x -> x
  if f.negated && new.negated && new.isSimple then return new.negate
  if f.negated then
    -- !(x && y) -> !x || !y
    if let .compound _ x .and y := new then
      return .compound false x.negate .or y.negate
    -- the rule meant for !(x || y) -> !x && !y: the source matches `And` here a second time
    if let .compound _ x .and y := new then
      return .compound false x.negate .or y.negate
  return new.withNegated f.negated

/-- `EXPR_COMPLEXITY_ITERATIVE_LIMIT`. -/
def exprComplexityIterativeLimit : Nat := 32

/-- `EXPR_COMPLEXITY_RECURSIVE_LIMIT`. -/
def exprComplexityRecursiveLimit : Nat := 32

/-- The error of `simplify_to_dnf_impl` past the recursion limit. -/
def recursionLimitError : String :=
  "Maximum recursion level exceeded trying to simplify logical expression to disjunctive " ++
    "normal form"

/-- The error of `simplify_to_dnf_impl` past the iteration limit. -/
def iterationLimitError : String := "Logical expression is too complicated to simplify"

/-- The loop of `simplify_to_dnf_impl`: apply `step` until the result stops changing, at most
    `n` more times. -/
def simplifyToFixpoint (step : Filter α → Except String (Filter α)) :
    Nat → Filter α → Except String (Filter α)
  | 0, _ => throw iterationLimitError
  | n + 1, out => do
    let out' ← step out
    if out' = out then return out'
    simplifyToFixpoint step n out'

/-- `Filter::simplify_to_dnf_impl`, `depth` levels of recursion left
    (`EXPR_COMPLEXITY_RECURSIVE_LIMIT - level`). -/
def simplifyToDnfImpl : Nat → Filter α → Except String (Filter α)
  | 0, _ => throw recursionLimitError
  | depth + 1, f => do
    let out ← simplifyToDnfInner (simplifyToDnfImpl depth) f
    if out = f then return out
    simplifyToFixpoint (simplifyToDnfInner (simplifyToDnfImpl depth))
      exprComplexityIterativeLimit out

/-- `Filter::simplify_to_dnf`. -/
def simplifyToDnf (f : Filter α) : Except String (Filter α) :=
  simplifyToDnfImpl exprComplexityRecursiveLimit f

/-- `Filter::flatten_disjunctions_inner`: an `||` node -- negated or not -- gives its left operand
    and the split of its right one. -/
def flattenDisjunctionsInner : Filter α → List (Filter α) → List (Filter α)
  | .compound _ left .or right, dis => right.flattenDisjunctionsInner (dis ++ [left])
  | f, dis => dis ++ [f]

/-- `Filter::flatten_disjunctions`. -/
def flattenDisjunctions (f : Filter α) : List (Filter α) := f.flattenDisjunctionsInner []

/-! ## 2. Splitting a disjunction -/

/-- No `||` of the right spine is negated. -/
def orSpineUnnegated : Filter α → Bool
  | .compound n _ .or right => !n && right.orSpineUnnegated
  | _ => true

theorem flattenDisjunctionsInner_any_eval (v : α → Bool) :
    ∀ (f : Filter α) (dis : List (Filter α)), f.orSpineUnnegated = true →
      (f.flattenDisjunctionsInner dis).any (eval v) = (dis.any (eval v) || f.eval v)
  | .simple n a, dis, _ => by simp [flattenDisjunctionsInner]
  | .compound n l op r, dis, h => by
    cases op with
    | or =>
      -- the spine goes on to the right operand, the left one joins the disjuncts
      simp only [orSpineUnnegated, Bool.and_eq_true, Bool.not_eq_eq_eq_not, Bool.not_true] at h
      obtain ⟨rfl, hr⟩ := h
      rw [flattenDisjunctionsInner, flattenDisjunctionsInner_any_eval v r _ hr]
      simp [Bool.or_assoc]
    | and => simp [flattenDisjunctionsInner]
    | xor => simp [flattenDisjunctionsInner]

/-- **Splitting keeps the meaning** when no `||` of the spine is negated: the filter holds exactly
    when one of its disjuncts does. -/
theorem flattenDisjunctions_any_eval (v : α → Bool) {f : Filter α}
    (h : f.orSpineUnnegated = true) : f.flattenDisjunctions.any (eval v) = f.eval v := by
  simp [flattenDisjunctions, flattenDisjunctionsInner_any_eval v f [] h]

/-! ## 3. Filters of `&&` and `||` without negation -/

/-- A filter of `&&` and `||` only, with no negation anywhere. -/
def isPlain : Filter α → Bool
  | .simple n _ => !n
  | .compound n l op r => !n && op != .xor && l.isPlain && r.isPlain

theorem isPlain_negated {f : Filter α} (h : f.isPlain = true) : f.negated = false := by
  cases f <;> simp_all [isPlain, negated]

theorem orSpineUnnegated_of_isPlain : ∀ {f : Filter α}, f.isPlain = true → f.orSpineUnnegated = true
  | .simple _ _, _ => rfl
  | .compound n l op r, h => by
    simp only [isPlain, Bool.and_eq_true, Bool.not_eq_eq_eq_not, Bool.not_true] at h
    obtain ⟨⟨⟨rfl, -⟩, -⟩, hr⟩ := h
    cases op <;> simp [orSpineUnnegated, orSpineUnnegated_of_isPlain hr]

/-- What a rewrite must do: keep plain filters plain, with the same meaning. -/
def KeepsPlain (recur : Filter α → Except String (Filter α)) : Prop :=
  ∀ f g, f.isPlain = true → recur f = .ok g → g.isPlain = true ∧ ∀ v, g.eval v = f.eval v

/-- Distribution and the `^` expansion, on plain operands, are plain rewrites: the atom that is
    distributed is not negated. -/
theorem exprSimplifyToDnf_plain {recur : Filter α → Except String (Filter α)}
    (hrec : KeepsPlain recur) : KeepsPlain (exprSimplifyToDnf recur) := by
  intro f g hf h
  cases f with
  | simple n a =>
    simp only [isPlain, Bool.not_eq_eq_eq_not, Bool.not_true] at hf
    subst hf
    simp only [exprSimplifyToDnf, pure, Except.pure, Except.ok.injEq] at h
    subst h
    exact ⟨rfl, fun _ => rfl⟩
  | compound n l op r =>
    simp only [isPlain, Bool.and_eq_true, Bool.not_eq_eq_eq_not, Bool.not_true, bne_iff_ne,
      ne_eq] at hf
    obtain ⟨⟨⟨rfl, hop⟩, hl⟩, hr⟩ := hf
    simp only [exprSimplifyToDnf, bind, Except.bind] at h
    cases hleft : recur l with
    | error e => simp [hleft] at h
    | ok left =>
    cases hright : recur r with
    | error e => simp [hleft, hright] at h
    | ok right =>
    obtain ⟨hlp, hlv⟩ := hrec l left hl hleft
    obtain ⟨hrp, hrv⟩ := hrec r right hr hright
    simp only [hleft, hright] at h
    split at h
    -- (x || y) && z
    · rename_i x y m z
      simp only [pure, Except.pure, Except.ok.injEq] at h
      subst h
      simp only [isPlain, Bool.and_eq_true, Bool.not_eq_eq_eq_not, Bool.not_true] at hlp hrp
      obtain ⟨⟨⟨rfl, -⟩, hx⟩, hy⟩ := hlp
      subst hrp
      refine ⟨by simp [isPlain, hx, hy], fun v => ?_⟩
      have hl' := hlv v
      have hr' := hrv v
      simp only [eval_compound, eval_simple, LogicalOp.apply_or, LogicalOp.apply_and,
        Bool.false_xor] at hl' hr' ⊢
      rw [← hl', ← hr', Bool.and_or_distrib_right]
    -- z && (x || y)
    · rename_i m z x y
      simp only [pure, Except.pure, Except.ok.injEq] at h
      subst h
      simp only [isPlain, Bool.and_eq_true, Bool.not_eq_eq_eq_not, Bool.not_true] at hlp hrp
      obtain ⟨⟨⟨rfl, -⟩, hx⟩, hy⟩ := hrp
      subst hlp
      refine ⟨by simp [isPlain, hx, hy], fun v => ?_⟩
      have hl' := hlv v
      have hr' := hrv v
      simp only [eval_compound, eval_simple, LogicalOp.apply_or, LogicalOp.apply_and,
        Bool.false_xor] at hl' hr' ⊢
      rw [← hl', ← hr', Bool.and_or_distrib_left]
    -- no distribution: the operator is not `^`, so nothing is expanded either
    · simp only [pure, Except.pure, Except.ok.injEq] at h
      subst h
      have hnx : (Filter.compound false left op right).isOp .xor = false := by
        cases op <;> simp_all [isOp]
      simp only [rewriteXorToDisjunction, hnx, Bool.not_false, if_true]
      refine ⟨by simp [isPlain, hop, hlp, hrp], fun v => ?_⟩
      simp [hlv v, hrv v]

/-- The inner rewrite of a plain filter is the rewrite of its expression. -/
theorem simplifyToDnfInner_plain {recur : Filter α → Except String (Filter α)}
    (hrec : KeepsPlain recur) : KeepsPlain (simplifyToDnfInner recur) := by
  intro f g hf h
  have hneg := isPlain_negated hf
  simp only [simplifyToDnfInner, hneg, bind, Except.bind, Bool.false_and, Bool.false_eq_true,
    if_false] at h
  cases hnew : exprSimplifyToDnf recur f with
  | error e => simp [hnew] at h
  | ok new =>
    obtain ⟨hp, hv⟩ := exprSimplifyToDnf_plain hrec f new hf hnew
    simp only [hnew, pure, Except.pure, Except.ok.injEq] at h
    subst h
    -- a plain result is not negated: setting its flag to `false` changes nothing
    have hwn : new.withNegated false = new := by
      have := isPlain_negated hp
      cases new <;> simp_all [withNegated, negated]
    rw [hwn]
    exact ⟨hp, hv⟩

theorem simplifyToFixpoint_plain {step : Filter α → Except String (Filter α)}
    (hstep : KeepsPlain step) : ∀ n, KeepsPlain (simplifyToFixpoint step n)
  | 0 => fun _ _ _ h => by simp [simplifyToFixpoint, throw, throwThe, MonadExceptOf.throw] at h
  | n + 1 => by
    intro f g hf h
    simp only [simplifyToFixpoint, bind, Except.bind] at h
    cases hs : step f with
    | error e => simp [hs] at h
    | ok out =>
      obtain ⟨hp, hv⟩ := hstep f out hf hs
      simp only [hs] at h
      split_ifs at h
      · simp only [pure, Except.pure, Except.ok.injEq] at h
        subst h
        exact ⟨hp, hv⟩
      · obtain ⟨hp', hv'⟩ := simplifyToFixpoint_plain hstep n out g hp h
        exact ⟨hp', fun v => (hv' v).trans (hv v)⟩

/-- Every level of `simplify_to_dnf_impl` keeps plain filters plain, with their meaning; by
    induction on the levels left. -/
theorem simplifyToDnfImpl_plain : ∀ depth, KeepsPlain (simplifyToDnfImpl (α := α) depth)
  | 0 => fun _ _ _ h => by simp [simplifyToDnfImpl, throw, throwThe, MonadExceptOf.throw] at h
  | depth + 1 => by
    have hinner := simplifyToDnfInner_plain (simplifyToDnfImpl_plain depth)
    intro f g hf h
    simp only [simplifyToDnfImpl, bind, Except.bind] at h
    cases hs : simplifyToDnfInner (simplifyToDnfImpl depth) f with
    | error e => simp [hs] at h
    | ok out =>
      obtain ⟨hp, hv⟩ := hinner f out hf hs
      simp only [hs] at h
      split_ifs at h
      · simp only [pure, Except.pure, Except.ok.injEq] at h
        subst h
        exact ⟨hp, hv⟩
      · obtain ⟨hp', hv'⟩ := simplifyToFixpoint_plain hinner _ out g hp h
        exact ⟨hp', fun v => (hv' v).trans (hv v)⟩

/-- **On filters of `&&` and `||` without negation, the DNF rewrite and the split keep the
    meaning**: the filter holds exactly when one of the disjuncts it is split into does. -/
theorem simplifyToDnf_eval_of_isPlain {f g : Filter α} (hf : f.isPlain = true)
    (h : f.simplifyToDnf = .ok g) (v : α → Bool) :
    g.eval v = f.eval v ∧ g.flattenDisjunctions.any (eval v) = f.eval v := by
  obtain ⟨hp, hv⟩ := simplifyToDnfImpl_plain _ f g hf h
  exact ⟨hv v, (flattenDisjunctions_any_eval v (orSpineUnnegated_of_isPlain hp)).trans (hv v)⟩

end Filter

/-! ## 4. Where the rewrite goes wrong -/

/-- The atom `ident == 0`. -/
def eqZero (ident : String) : SimpleFilter := ⟨ident, .eq, .integer 0, nofun⟩

/-- `(a == 0 || b == 0) && !(c == 0)`, as `filter_expr` parses it. -/
def distributedNegation : Filter SimpleFilter :=
  .compound false (.compound false (.simple false (eqZero "a")) .or (.simple false (eqZero "b")))
    .and (.simple true (eqZero "c"))

/-- `a == 0` holds, `b == 0` and `c == 0` do not. -/
def onlyA (s : SimpleFilter) : Bool := s.ident == "a"

/-- **The DNF rewrite drops the negation of a distributed atom.**
    `(a == 0 || b == 0) && !(c == 0)` becomes `(a == 0 && c == 0) || (b == 0 && c == 0)`: where only
    `a == 0` holds, the filter holds and neither disjunct does. -/
theorem simplifyToDnf_drops_negated_atom :
    distributedNegation.simplifyToDnf =
      .ok (.compound false
        (.compound false (.simple false (eqZero "a")) .and (.simple false (eqZero "c"))) .or
        (.compound false (.simple false (eqZero "b")) .and (.simple false (eqZero "c")))) ∧
    distributedNegation.eval onlyA = true ∧
    (Filter.flattenDisjunctions (.compound false
        (.compound false (.simple false (eqZero "a")) .and (.simple false (eqZero "c"))) .or
        (.compound false (.simple false (eqZero "b")) .and (.simple false (eqZero "c"))))).any
      (Filter.eval onlyA) = false :=
  ⟨rfl, by decide, by decide⟩

/-- `!(a == 0 || b == 0)`. -/
def negatedDisjunction : Filter SimpleFilter :=
  .compound true (.simple false (eqZero "a")) .or (.simple false (eqZero "b"))

/-- **A negated disjunction survives the rewrite and is split as if it were not negated**: the
    split of `!(a == 0 || b == 0)` is `[a == 0, b == 0]`, which holds where only `a == 0` does,
    while the filter does not. -/
theorem flattenDisjunctions_ignores_negation :
    negatedDisjunction.simplifyToDnf = .ok negatedDisjunction ∧
    negatedDisjunction.flattenDisjunctions =
      [.simple false (eqZero "a"), .simple false (eqZero "b")] ∧
    negatedDisjunction.eval onlyA = false ∧
    negatedDisjunction.flattenDisjunctions.any (Filter.eval onlyA) = true :=
  ⟨rfl, by decide, by decide, by decide⟩

end Omicron.Oxql
