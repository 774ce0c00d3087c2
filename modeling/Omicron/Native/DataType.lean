import Omicron.Native.Wire

/-!
# ClickHouse native protocol: column types

`native::block::DataType`, the type of a column, and the text it travels as: every column of a
data block carries its type's `Display`, which the reader parses back with `nom`
(`DataType::nom_parse`, `FromStr`).

* `DataType.text` -- the `Display`;
* `Nom`, `DataType.nomParse` -- the `nom` parsers over the characters of the text, each a partial
  function to a value and the rest of the input; `alt` takes the first alternative that parses;
* `DataType.isSupported` -- the types a block may be encoded with.

A time zone is its IANA name. Which names `chrono_tz` knows, the zone the host is set to
(`DEFAULT_TIMEZONE`, taken for a name it does not know), and the instants `chrono` can represent
come from outside this repository: the codec takes them as `env`.
-/

namespace Omicron.Native

/-- `Precision`, the number of decimal digits of a `DateTime64`'s fraction of a second, at most
    `Precision::MAX_U8 = 9`. -/
abbrev Precision := Fin 10

/-- `DataType`. An `Enum8`'s `IndexMap` of variants is the list of its entries in order. -/
inductive DataType where
  | bool
  | uInt8
  | uInt16
  | uInt32
  | uInt64
  | uInt128
  | int8
  | int16
  | int32
  | int64
  | int128
  | float32
  | float64
  | string
  | uuid
  | ipv4
  | ipv6
  | date
  | dateTime (tz : String)
  | dateTime64 (precision : Precision) (tz : String)
  | enum8 (variants : List (Int8 × String))
  | nullable (inner : DataType)
  | array (inner : DataType)
  deriving DecidableEq, Repr

namespace DataType

/-- `DataType`'s `Display`. -/
def text : DataType → String
  | .bool => "Bool"
  | .uInt8 => "UInt8"
  | .uInt16 => "UInt16"
  | .uInt32 => "UInt32"
  | .uInt64 => "UInt64"
  | .uInt128 => "UInt128"
  | .int8 => "Int8"
  | .int16 => "Int16"
  | .int32 => "Int32"
  | .int64 => "Int64"
  | .int128 => "Int128"
  | .float32 => "Float32"
  | .float64 => "Float64"
  | .string => "String"
  | .uuid => "UUID"
  | .ipv4 => "IPv4"
  | .ipv6 => "IPv6"
  | .date => "Date"
  | .dateTime tz => "DateTime('" ++ tz ++ "')"
  | .dateTime64 precision tz => "DateTime64(" ++ toString precision.val ++ ", '" ++ tz ++ "')"
  | .enum8 variants =>
    "Enum8(" ++ ", ".intercalate (variants.map fun (val, name) =>
      "'" ++ name ++ "' = " ++ toString val.toInt) ++ ")"
  | .nullable inner => "Nullable(" ++ inner.text ++ ")"
  | .array inner => "Array(" ++ inner.text ++ ")"

/-! The texts of the types that take arguments or want the end of the input, for proofs to
rewrite with instead of `text`'s own equations: the one of `Enum8`, with its pattern-matching
`fun`, is slow to generate. -/

theorem text_date : date.text = "Date" := rfl

theorem text_dateTime (tz : String) : (dateTime tz).text = "DateTime('" ++ tz ++ "')" := rfl

theorem text_dateTime64 (precision : Precision) (tz : String) :
    (dateTime64 precision tz).text =
      "DateTime64(" ++ toString precision.val ++ ", '" ++ tz ++ "')" :=
  rfl

theorem text_nullable (inner : DataType) :
    (nullable inner).text = "Nullable(" ++ inner.text ++ ")" :=
  rfl

theorem text_array (inner : DataType) : (array inner).text = "Array(" ++ inner.text ++ ")" := rfl

/-- `DataType::is_supported`: no `Nullable(Nullable(_))` and no `Nullable(Array(_))`. -/
def isSupported : DataType → Bool
  | .nullable (.nullable _) | .nullable (.array _) => false
  | _ => true

/-- `DataType::is_nullable`. -/
def isNullable : DataType → Bool
  | .nullable _ => true
  | _ => false

end DataType

/-! ## The parsers -/

/-- A `nom` parser over characters: a value and the rest of the input, or `none` for an error. -/
abbrev Nom (α : Type) := StateT (List Char) Option α

namespace Nom

/-- `tag`. -/
def tag (t : String) : Nom Unit := fun s =>
  if t.toList.isPrefixOf s then some ((), s.drop t.length) else none

/-- `eof`. -/
def eof : Nom Unit := fun s => if s.isEmpty then some ((), s) else none

/-- `opt`. -/
def opt {α : Type} (p : Nom α) : Nom (Option α) := fun s =>
  match p s with
  | some (a, rest) => some (some a, rest)
  | none => some (none, s)

/-- `take_while1`. -/
def takeWhile1 (pred : Char → Bool) : Nom (List Char) := fun s =>
  let taken := s.takeWhile pred
  if taken.isEmpty then none else some (taken, s.drop taken.length)

/-- The value of decimal digits. -/
def digitsValue (ds : List Char) : Nat := ds.foldl (fun acc c => acc * 10 + (c.toNat - '0'.toNat)) 0

/-- `character::complete::u8`: one or more decimal digits, refused past `u8::MAX` (the value
    only grows digit by digit, so checking the end is checking every step). -/
def u8 : Nom UInt8 := fun s =>
  let ds := s.takeWhile Char.isDigit
  if ds.isEmpty || digitsValue ds > 255 then none
  else some ((digitsValue ds).toUInt8, s.drop ds.length)

/-- `character::complete::i8`: an optional sign, then one or more decimal digits within `i8`. -/
def i8 : Nom Int8 := fun s =>
  let (negative, afterSign) := match s with
    | '-' :: rest => (true, rest)
    | '+' :: rest => (false, rest)
    | _ => (false, s)
  let ds := afterSign.takeWhile Char.isDigit
  let n := digitsValue ds
  if ds.isEmpty || (if negative then n > 128 else n > 127) then none
  else some (Int8.ofInt (if negative then -(n : Int) else n), afterSign.drop ds.length)

/-- `separated_list1(sep, p)`: one `p`, then more for as long as a separator and a `p` follow;
    a separator not followed by a `p` is left in the input. -/
def separatedList1 {α : Type} (sep : Nom Unit) (p : Nom α) : Nom (List α) := fun s =>
  match p s with
  | none => none
  | some (a, rest) => some (go s.length a rest)
where
  /-- The loop after the first element, with fuel in the input's length. -/
  go : Nat → α → List Char → List α × List Char
    | 0, a, rest => ([a], rest)
    | fuel + 1, a, rest =>
      match sep rest with
      | none => ([a], rest)
      | some ((), afterSep) =>
        match p afterSep with
        | none => ([a], rest)
        | some (b, afterB) => let (bs, final) := go fuel b afterB; (a :: bs, final)

end Nom

/-- The characters of a time-zone name in `quoted_timezone`. -/
def isZoneChar (c : Char) : Bool :=
  c.isAlphanum || c == '/' || c == '+' || c == '-' || c == '_'

/-- What the codec takes from outside this repository: whether `chrono_tz` knows a zone name, the
    zone the host is set to, and whether `chrono` represents an instant (in nanoseconds since the
    Unix epoch). -/
structure Env where
  isZone : String → Bool
  defaultZone : String
  inRange : Int → Bool

namespace Env

variable (env : Env)

/-- `parse_timezone`: a name `chrono_tz` does not know is the host's zone. -/
def parseTimezone (s : String) : String := if env.isZone s then s else env.defaultZone

/-- `quoted_timezone`: a name between single quotes, each quote possibly escaped. -/
def quotedTimezone : Nom String := do
  let _ ← Nom.opt (Nom.tag "\\")
  Nom.tag "'"
  let name ← Nom.takeWhile1 isZoneChar
  let _ ← Nom.opt (Nom.tag "\\")
  Nom.tag "'"
  pure (env.parseTimezone (String.ofList name))

/-- `parenthesized_timezone`. -/
def parenthesizedTimezone : Nom String := do
  Nom.tag "("
  let tz ← env.quotedTimezone
  Nom.tag ")"
  pure tz

/-- `datetime`: `DateTime`, with an optional zone, and nothing after it. -/
def datetime : Nom DataType := do
  Nom.tag "DateTime"
  let maybeTz ← Nom.opt env.parenthesizedTimezone
  Nom.eof
  pure (.dateTime (maybeTz.getD env.defaultZone))

/-- `datetime64`: `DateTime64(p)` or `DateTime64(p, 'zone')`, and nothing after it. -/
def datetime64 : Nom DataType := do
  Nom.tag "DateTime64("
  let p ← Nom.u8
  let precision ← (if h : p.toNat < 10 then pure ⟨p.toNat, h⟩ else failure : Nom Precision)
  let maybeTz ← Nom.opt (do Nom.tag ", "; env.quotedTimezone)
  Nom.tag ")"
  Nom.eof
  pure (.dateTime64 precision (maybeTz.getD env.defaultZone))

end Env

/-- `variant_name`: ASCII letters and digits between single quotes, each possibly escaped. -/
def variantName : Nom (List Char) := do
  let _ ← Nom.opt (Nom.tag "\\")
  Nom.tag "'"
  let name ← Nom.takeWhile1 Char.isAlphanum
  let _ ← Nom.opt (Nom.tag "\\")
  Nom.tag "'"
  pure name

/-- `enum_variant`: `'Name' = value`. -/
def enumVariant : Nom (Int8 × String) := do
  let name ← variantName
  Nom.tag " = "
  let variant ← Nom.i8
  pure (variant, String.ofList name)

/-- `enum8`. -/
def enum8 : Nom DataType := do
  Nom.tag "Enum8("
  let variants ← Nom.separatedList1 (Nom.tag ", ") enumVariant
  Nom.tag ")"
  pure (.enum8 (variants.foldl (fun map (k, v) => IndexMap.insert map k v) []))

namespace DataType

variable (env : Env)

/-- `DataType::nom_parse`, with `nullable` and `array` inside it; the fuel bounds the nesting,
    and `nomParse` gives one more than there are characters, each level taking at least six. -/
def nomParseFuel : Nat → Nom DataType
  | 0 => failure
  | fuel + 1 =>
    (do Nom.tag "Bool"; pure .bool) <|> (do Nom.tag "UInt8"; pure .uInt8) <|>
    (do Nom.tag "UInt16"; pure .uInt16) <|> (do Nom.tag "UInt32"; pure .uInt32) <|>
    (do Nom.tag "UInt64"; pure .uInt64) <|> (do Nom.tag "UInt128"; pure .uInt128) <|>
    (do Nom.tag "Int8"; pure .int8) <|> (do Nom.tag "Int16"; pure .int16) <|>
    (do Nom.tag "Int32"; pure .int32) <|> (do Nom.tag "Int64"; pure .int64) <|>
    (do Nom.tag "Int128"; pure .int128) <|> (do Nom.tag "Float32"; pure .float32) <|>
    (do Nom.tag "Float64"; pure .float64) <|> (do Nom.tag "String"; pure .string) <|>
    (do Nom.tag "UUID"; pure .uuid) <|> (do Nom.tag "IPv4"; pure .ipv4) <|>
    (do Nom.tag "IPv6"; pure .ipv6) <|>
    -- `all_consuming(tag("Date"))`, so that `DateTime(...)` is not read as `Date`
    (do Nom.tag "Date"; Nom.eof; pure .date) <|>
    env.datetime <|> env.datetime64 <|> Omicron.Native.enum8 <|>
    (do
      Nom.tag "Nullable("; let inner ← nomParseFuel fuel; Nom.tag ")"; pure (nullable inner)) <|>
    (do Nom.tag "Array("; let inner ← nomParseFuel fuel; Nom.tag ")"; pure (array inner))

/-- `DataType::nom_parse` on the characters `s`, with fuel for as many levels as there are
    characters. -/
def nomParse (s : List Char) : Option (DataType × List Char) := nomParseFuel env (s.length + 1) s

/-- `DataType::from_str`: whatever follows the parsed type is ignored. -/
def fromStr (s : String) : Except Error DataType :=
  match nomParse env s.toList with
  | some (parsed, _) => .ok parsed
  | none => .error (.unsupportedDataType s)

end DataType

end Omicron.Native
