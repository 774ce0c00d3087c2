import Omicron.Oxql.Value

/-!
# OxQL: the filter syntax tree

The parts of `oxql::ast` the filter table operation is made of:

* `LogicalOp`, `Comparison`, `Literal` and `SimpleFilter` -- one comparison atom, `ident cmp
  value`, what each part prints as in a ClickHouse query (`as_db_function_name`,
  `as_db_safe_string`), and how a literal compares with a field's value (`compare_field`);
* `Filter` -- the tree of atoms joined by logical operators. The source's `Filter { negated,
  expr }` with `FilterExpr::{Simple, Compound}` is one inductive here, with the negation flag in
  each constructor; the tree is generic over its atoms, as everything the filter rewrites do
  except printing and planning reads only the shape and the negations;
* `Filter.eval` -- what a filter means under a truth assignment of its atoms: a negation flag is
  `¬`, and `&&`, `||`, `^` are `∧`, `∨`, `⊕`. It is the yardstick of the rewrites, not a
  function of the source.

A double literal is kept as the text its `Display` produces: nothing here computes with doubles.
A string is matched against a regular expression by the `regex` crate, which is outside this
development: the functions that match take it as the parameter `regex`, compiling a pattern to a
matcher or to the crate's error text.
-/

namespace Omicron.Oxql

/-- `LogicalOp`. -/
inductive LogicalOp where
  | and
  | or
  | xor
  deriving DecidableEq, Repr

namespace LogicalOp

/-- `LogicalOp::as_db_function_name`. -/
def asDbFunctionName : LogicalOp → String
  | .and => "and"
  | .or => "or"
  | .xor => "xor"

/-- What the operator means on truth values. -/
def apply : LogicalOp → Bool → Bool → Bool
  | .and, a, b => a && b
  | .or, a, b => a || b
  | .xor, a, b => a ^^ b

@[simp] theorem apply_and (a b : Bool) : LogicalOp.and.apply a b = (a && b) := rfl
@[simp] theorem apply_or (a b : Bool) : LogicalOp.or.apply a b = (a || b) := rfl
@[simp] theorem apply_xor (a b : Bool) : LogicalOp.xor.apply a b = (a ^^ b) := rfl

end LogicalOp

/-- `Comparison`. -/
inductive Comparison where
  | eq
  | ne
  | gt
  | ge
  | lt
  | le
  | like
  deriving DecidableEq, Repr

/-- `Comparison::as_db_function_name`. -/
def Comparison.asDbFunctionName : Comparison → String
  | .eq => "equals"
  | .ne => "notEquals"
  | .gt => "greater"
  | .ge => "greaterOrEquals"
  | .lt => "less"
  | .le => "lessOrEquals"
  | .like => "match"

namespace Comparison

variable {β : Type} [LinearOrder β]

/-- `generate_cmp_match!`: `lhs cmp rhs`; `~=` does not apply to an ordered value (`None`). -/
def cmpMatch (cmp : Comparison) (lhs rhs : β) : Option Bool :=
  match cmp with
  | .eq => some (decide (lhs = rhs))
  | .ne => some (decide (lhs ≠ rhs))
  | .gt => some (decide (lhs > rhs))
  | .ge => some (decide (lhs ≥ rhs))
  | .lt => some (decide (lhs < rhs))
  | .le => some (decide (lhs ≤ rhs))
  | .like => none

/-- `lhs cmp rhs` for a comparison other than `~=`, where the source's `~=` arm is
    `unreachable!()`. -/
def holds (cmp : Comparison) (h : cmp ≠ .like) (lhs rhs : β) : Bool :=
  match cmp, h with
  | .eq, _ => decide (lhs = rhs)
  | .ne, _ => decide (lhs ≠ rhs)
  | .gt, _ => decide (lhs > rhs)
  | .ge, _ => decide (lhs ≥ rhs)
  | .lt, _ => decide (lhs < rhs)
  | .le, _ => decide (lhs ≤ rhs)
  | .like, h => absurd rfl h

theorem cmpMatch_eq_some_holds (cmp : Comparison) (h : cmp ≠ .like) (lhs rhs : β) :
    cmp.cmpMatch lhs rhs = some (cmp.holds h lhs rhs) := by
  cases cmp <;> first | rfl | exact absurd rfl h

end Comparison

/-- `Literal`. An `i128` is an `Int`, a timestamp its nanoseconds since the Unix epoch and a
    duration its nanoseconds; a double is the text the source prints for it. -/
inductive Literal where
  | integer (n : Int)
  | double (text : String)
  | string (s : String)
  | boolean (b : Bool)
  | uuid (u : Fin (2 ^ 128))
  | duration (nanos : Nat)
  | timestamp (nanos : Int)
  | ipAddr (a : IpAddr)
  deriving DecidableEq, Repr

namespace Literal

/-- `Literal::as_db_safe_string`: a string between single quotes, as it is. -/
def asDbSafeString : Literal → String
  | .integer n => toString n
  | .double text => text
  | .string s => "'" ++ s ++ "'"
  | .boolean b => toString b
  | .uuid u => "'" ++ uuidText u ++ "'"
  | .duration nanos =>
    let (count, interval) := durationToDbInterval nanos
    "INTERVAL " ++ toString count ++ " " ++ interval
  | .timestamp nanos => "'" ++ formatDatabaseTimestamp nanos ++ "'"
  | .ipAddr a => "toIPv6('" ++ a.toText ++ "')"

/-- Whether the literal is a string, the only kind `~=` compares with. -/
def isString : Literal → Bool
  | .string _ => true
  | _ => false

/-- The name of the literal's kind in the errors of `filter_points_by_datum`. -/
def typeName : Literal → String
  | .uuid _ => "UUID"
  | .duration _ => "duration"
  | .timestamp _ => "timestamp"
  | .ipAddr _ => "IP address"
  | .integer _ => "integer"
  | .double _ => "double"
  | .string _ => "string"
  | .boolean _ => "boolean"

/-- `Literal::is_compatible_with_field`. -/
def isCompatibleWithField : Literal → FieldType → Bool
  | .integer _, ty => ty ∈ [.u8, .i8, .u16, .i16, .u32, .i32, .u64, .i64]
  | .double _, _ => false
  | .string _, ty => ty == .string
  | .boolean _, ty => ty == .bool
  | .uuid _, ty => ty == .uuid
  | .duration _, _ => false
  | .timestamp _, _ => false
  | .ipAddr _, ty => ty == .ipAddr

variable (regex : String → Except String (String → Bool))

/-- `Literal::compare_field`. The literal is the right operand and the field's value the left
    one, except for booleans, IP addresses and UUIDs, which the source compares the other way
    round (`generate_cmp_match!(rhs, lhs)`). The last arm is `unreachable!()` in the source: the
    check in front admits exactly the pairs matched before it. -/
def compareField (lit : Literal) (value : FieldValue) (cmp : Comparison) :
    Except String (Option Bool) :=
  if lit.isCompatibleWithField value.fieldType then
    match value, lit with
    | .bool lhs, .boolean rhs => .ok (cmp.cmpMatch rhs lhs)
    | .string lhs, .string rhs =>
      match cmp with
      | .like =>
        match regex rhs with
        | .ok re => .ok (some (re lhs))
        | .error _ => .error "failed to create regex for string matching"
      | cmp => .ok (cmp.cmpMatch lhs rhs)
    | .ipAddr lhs, .ipAddr rhs => .ok (cmp.cmpMatch rhs lhs)
    | .uuid lhs, .uuid rhs => .ok (cmp.cmpMatch rhs lhs)
    | .u8 lhs, .integer rhs => .ok (cmp.cmpMatch (lhs.toNat : Int) rhs)
    | .i8 lhs, .integer rhs => .ok (cmp.cmpMatch lhs.toInt rhs)
    | .u16 lhs, .integer rhs => .ok (cmp.cmpMatch (lhs.toNat : Int) rhs)
    | .i16 lhs, .integer rhs => .ok (cmp.cmpMatch lhs.toInt rhs)
    | .u32 lhs, .integer rhs => .ok (cmp.cmpMatch (lhs.toNat : Int) rhs)
    | .i32 lhs, .integer rhs => .ok (cmp.cmpMatch lhs.toInt rhs)
    | .u64 lhs, .integer rhs => .ok (cmp.cmpMatch (lhs.toNat : Int) rhs)
    | .i64 lhs, .integer rhs => .ok (cmp.cmpMatch lhs.toInt rhs)
    | _, _ => .error "unreachable"
  else
    .error ("Field value of type " ++ value.fieldType.text ++
      " is cannot be compared to the value in this filter")

end Literal

/-- `SimpleFilter`: `ident cmp value`. `~=` compares only with a string: the grammar's `primary`
    refuses any other ("~= comparison is only supported for string literals"), and no rewrite of
    a filter makes one. -/
structure SimpleFilter where
  ident : String
  cmp : Comparison
  value : Literal
  like_isString : cmp = .like → value.isString = true
  deriving DecidableEq

/-- A filter on anything but a string is not `~=`. -/
theorem SimpleFilter.cmp_ne_like (f : SimpleFilter) (h : f.value.isString = false) :
    f.cmp ≠ .like := fun hl => by simp [f.like_isString hl] at h

/-- A filter on a timestamp is not `~=`. -/
theorem SimpleFilter.cmp_ne_like_of_timestamp {f : SimpleFilter} {t : Int}
    (h : f.value = .timestamp t) : f.cmp ≠ .like :=
  f.cmp_ne_like (by simp [h, Literal.isString])

/-- `SimpleFilter::as_db_safe_string`: the comparison function applied to the identifier and
    the literal. -/
def SimpleFilter.asDbSafeString (f : SimpleFilter) : String :=
  f.cmp.asDbFunctionName ++ "(" ++ f.ident ++ ", " ++ f.value.asDbSafeString ++ ")"

/-- `Filter`, with `FilterExpr` folded in: an atom or two filters joined by an operator, each with
    its own negation flag. -/
inductive Filter (α : Type) where
  | simple (negated : Bool) (atom : α)
  | compound (negated : Bool) (left : Filter α) (op : LogicalOp) (right : Filter α)
  deriving DecidableEq, Repr

namespace Filter

variable {α : Type}

/-- The `negated` field. -/
def negated : Filter α → Bool
  | .simple n _ => n
  | .compound n _ _ _ => n

/-- The filter with its `negated` field set to `n`: `Filter { negated: n, ..f }`. -/
def withNegated (f : Filter α) (n : Bool) : Filter α :=
  match f with
  | .simple _ a => .simple n a
  | .compound _ l op r => .compound n l op r

/-- `Filter::negate`. -/
def negate (f : Filter α) : Filter α := f.withNegated (!f.negated)

/-- `Filter::is_simple`. -/
def isSimple : Filter α → Bool
  | .simple _ _ => true
  | .compound _ _ _ _ => false

/-- `Filter::is_op`. -/
def isOp (f : Filter α) (expected : LogicalOp) : Bool :=
  match f with
  | .compound _ _ op _ => op == expected
  | .simple _ _ => false

/-- What a filter means when its atoms have the truth values `v`. -/
def eval (v : α → Bool) : Filter α → Bool
  | .simple n a => n ^^ v a
  | .compound n l op r => n ^^ op.apply (l.eval v) (r.eval v)

@[simp] theorem negated_withNegated (f : Filter α) (n : Bool) : (f.withNegated n).negated = n := by
  cases f <;> rfl

@[simp] theorem eval_simple (v : α → Bool) (n : Bool) (a : α) :
    (Filter.simple n a).eval v = (n ^^ v a) := rfl

@[simp] theorem eval_compound (v : α → Bool) (n : Bool) (l : Filter α) (op : LogicalOp)
    (r : Filter α) : (Filter.compound n l op r).eval v = (n ^^ op.apply (l.eval v) (r.eval v)) :=
  rfl

/-- Setting the negation flag only changes the outer negation. -/
theorem eval_withNegated (v : α → Bool) (f : Filter α) (n : Bool) :
    (f.withNegated n).eval v = (n ^^ f.negated ^^ f.eval v) := by
  cases f with
  | simple m a => cases n <;> cases m <;> simp [withNegated, negated]
  | compound m l op r => cases n <;> cases m <;> simp [withNegated, negated]

@[simp] theorem eval_negate (v : α → Bool) (f : Filter α) : f.negate.eval v = !f.eval v := by
  cases f with
  | simple m a => cases m <;> simp [negate, withNegated, negated]
  | compound m l op r => cases m <;> simp [negate, withNegated, negated]

end Filter

end Omicron.Oxql
