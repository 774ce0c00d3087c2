import Mathlib

/-!
# OxQL: field values and the text of values

The values a timeseries' fields hold (`oximeter_types::FieldValue`) and the texts the query
layer prints for values that have no text of their own:

* `IpAddr` -- an address of either family, ordered as the standard library's derived `Ord` does
  (every version-4 address before every version-6 one, each family by its bits); its text is the
  standard library's `Display`, with the longest run of zero groups of a version-6 address
  written `::` and a version-4-mapped one written `::ffff:a.b.c.d`;
* a UUID is its 128 bits, ordered as its bytes are, and printed hyphenated (`8-4-4-4-12`);
* `formatDatabaseTimestamp` -- a timestamp (nanoseconds since the Unix epoch) in
  `DATABASE_TIMESTAMP_FORMAT`, `%Y-%m-%d %H:%M:%S%.9f`;
* `durationToDbInterval` -- a duration as a count of the largest unit that divides it;
* `FieldType`, `FieldValue` -- a field value with its fixed-width integer types.
-/

namespace Omicron.Oxql

/-! ## 1. Digits -/

/-- `{:x}`: lowercase hexadecimal digits. -/
def hexText (v : Nat) : String := String.ofList (Nat.toDigits 16 v)

/-- The text `s` with zeros in front up to `width` characters (`{:0width}`). -/
def zeroPad (width : Nat) (s : String) : String :=
  String.ofList (List.replicate (width - s.length) '0') ++ s

/-! ## 2. IP addresses and UUIDs -/

/-- `std::net::IpAddr`. -/
inductive IpAddr where
  | v4 (bits : Fin (2 ^ 32))
  | v6 (bits : Fin (2 ^ 128))
  deriving DecidableEq, Repr

namespace IpAddr

/-- The position of an address in the derived order: the version-4 addresses first. -/
def rank : IpAddr → Nat
  | .v4 a => a.val
  | .v6 b => 2 ^ 32 + b.val

theorem rank_injective : Function.Injective rank := by
  intro a b h
  cases a with
  | v4 a =>
    cases b with
    | v4 b => simpa [rank, Fin.val_inj] using h
    | v6 b => have := a.isLt; simp only [rank] at h; omega
  | v6 a =>
    cases b with
    | v4 b => have := b.isLt; simp only [rank] at h; omega
    | v6 b => simpa [rank, Fin.val_inj] using h

instance : LinearOrder IpAddr := LinearOrder.lift' rank rank_injective

/-- `Ipv4Addr`'s `Display`: four decimal octets. -/
def v4Text (a : Nat) : String :=
  toString (a / 2 ^ 24 % 256) ++ "." ++ toString (a / 2 ^ 16 % 256) ++ "." ++
    toString (a / 2 ^ 8 % 256) ++ "." ++ toString (a % 256)

/-- The eight 16-bit groups of a version-6 address, most significant first. -/
def segments (b : Nat) : List Nat :=
  (List.range 8).map fun i => b / 2 ^ (16 * (7 - i)) % 2 ^ 16

/-- The first longest run of zero groups, as its start and length: the scan of
    `Ipv6Addr`'s `Display`, which replaces the longest run only when it grows. -/
def longestZeroRun (segs : List Nat) : Nat × Nat :=
  (segs.zipIdx.foldl (fun (acc : (Nat × Nat) × (Nat × Nat)) (seg, i) =>
    let (longest, current) := acc
    if seg = 0 then
      let current := (if current.2 = 0 then i else current.1, current.2 + 1)
      (if current.2 > longest.2 then current else longest, current)
    else (longest, (0, 0))) ((0, 0), (0, 0))).1

/-- Groups in hexadecimal, separated by colons (`fmt_subslice`). -/
def groupsText (segs : List Nat) : String := ":".intercalate (segs.map hexText)

/-- `Ipv6Addr`'s `Display`. -/
def v6Text (b : Nat) : String :=
  let segs := segments b
  if segs.take 6 = [0, 0, 0, 0, 0, 0xffff] then "::ffff:" ++ v4Text (b % 2 ^ 32)
  else
    let (start, len) := longestZeroRun segs
    if len > 1 then groupsText (segs.take start) ++ "::" ++ groupsText (segs.drop (start + len))
    else groupsText segs

/-- `IpAddr`'s `Display`. -/
def toText : IpAddr → String
  | .v4 a => v4Text a.val
  | .v6 b => v6Text b.val

example : (IpAddr.v4 0x0a000001).toText = "10.0.0.1" := by decide
example : (IpAddr.v6 0xfd000000000000000000000000000001).toText = "fd00::1" := by decide

end IpAddr

/-- `Uuid`'s hyphenated `Display`: 32 lowercase hexadecimal digits in groups of 8, 4, 4, 4 and
    12. -/
def uuidText (u : Fin (2 ^ 128)) : String :=
  zeroPad 8 (hexText (u.val / 2 ^ 96)) ++ "-" ++ zeroPad 4 (hexText (u.val / 2 ^ 80 % 2 ^ 16)) ++
    "-" ++ zeroPad 4 (hexText (u.val / 2 ^ 64 % 2 ^ 16)) ++ "-" ++
    zeroPad 4 (hexText (u.val / 2 ^ 48 % 2 ^ 16)) ++ "-" ++ zeroPad 12 (hexText (u.val % 2 ^ 48))

/-! ## 3. Timestamps and durations -/

/-- The proleptic Gregorian date of a day counted from 1970-01-01, as year, month and day
    (the civil-from-days conversion over 400-year eras). -/
def civilFromDays (z : Int) : Int × Nat × Nat :=
  let z := z + 719468
  let era := z / 146097
  let doe := (z - era * 146097).toNat
  let yoe := (doe - doe / 1460 + doe / 36524 - doe / 146096) / 365
  let doy := doe - (365 * yoe + yoe / 4 - yoe / 100)
  let mp := (5 * doy + 2) / 153
  let d := doy - (153 * mp + 2) / 5 + 1
  let m := if mp < 10 then mp + 3 else mp - 9
  (yoe + era * 400 + (if m ≤ 2 then 1 else 0), m, d)

/-- `%Y`: four digits, or a sign and at least four outside years 0 to 9999. -/
def yearText (y : Int) : String :=
  if 0 ≤ y ∧ y ≤ 9999 then zeroPad 4 (toString y.toNat)
  else (if y < 0 then "-" else "+") ++ zeroPad 4 (toString y.natAbs)

/-- A timestamp in `DATABASE_TIMESTAMP_FORMAT`, `%Y-%m-%d %H:%M:%S%.9f`. -/
def formatDatabaseTimestamp (nanos : Int) : String :=
  let secs := nanos / 1000000000
  let (y, m, d) := civilFromDays (secs / 86400)
  let sod := (secs % 86400).toNat
  yearText y ++ "-" ++ zeroPad 2 (toString m) ++ "-" ++ zeroPad 2 (toString d) ++ " " ++
    zeroPad 2 (toString (sod / 3600)) ++ ":" ++ zeroPad 2 (toString (sod / 60 % 60)) ++ ":" ++
    zeroPad 2 (toString (sod % 60)) ++ "." ++ zeroPad 9 (toString (nanos % 1000000000).toNat)

example : formatDatabaseTimestamp 0 = "1970-01-01 00:00:00.000000000" := by decide
example : formatDatabaseTimestamp 951782400000000001 = "2000-02-29 00:00:00.000000001" := by
  decide

/-- The units of `duration_to_db_interval`, largest first, in nanoseconds (`duration_consts`:
    a year is 365 days and a month 30). -/
def dbIntervals : List (Nat × String) :=
  [(31536000000000000, "YEAR"), (2592000000000000, "MONTH"), (604800000000000, "WEEK"),
    (86400000000000, "DAY"), (3600000000000, "HOUR"), (60000000000, "MINUTE"),
    (1000000000, "SECOND"), (1000000, "MILLISECOND"), (1000, "MICROSECOND"), (1, "NANOSECOND")]

/-- `duration_to_db_interval`: the count of the first unit that divides the duration. The
    `unreachable!()` after the loop is never reached, as a nanosecond divides every duration. -/
def durationToDbInterval (nanos : Nat) : Nat × String :=
  match dbIntervals.find? fun (base, _) => nanos % base = 0 with
  | some (base, interval) => (nanos / base, interval)
  | none => (nanos, "NANOSECOND")

example : durationToDbInterval 90000000000 = (90, "SECOND") := by decide

/-! ## 4. Field values -/

/-- `FieldType`. -/
inductive FieldType where
  | string
  | i8
  | u8
  | i16
  | u16
  | i32
  | u32
  | i64
  | u64
  | ipAddr
  | uuid
  | bool
  deriving DecidableEq, Repr

/-- `FieldType`'s `Display`: the variant's name. -/
def FieldType.text : FieldType → String
  | .string => "String"
  | .i8 => "I8"
  | .u8 => "U8"
  | .i16 => "I16"
  | .u16 => "U16"
  | .i32 => "I32"
  | .u32 => "U32"
  | .i64 => "I64"
  | .u64 => "U64"
  | .ipAddr => "IpAddr"
  | .uuid => "Uuid"
  | .bool => "Bool"

/-- `FieldValue`. -/
inductive FieldValue where
  | string (s : String)
  | i8 (n : Int8)
  | u8 (n : UInt8)
  | i16 (n : Int16)
  | u16 (n : UInt16)
  | i32 (n : Int32)
  | u32 (n : UInt32)
  | i64 (n : Int64)
  | u64 (n : UInt64)
  | ipAddr (a : IpAddr)
  | uuid (u : Fin (2 ^ 128))
  | bool (b : Bool)
  deriving DecidableEq, Repr

/-- `FieldValue::field_type`. -/
def FieldValue.fieldType : FieldValue → FieldType
  | .string _ => .string
  | .i8 _ => .i8
  | .u8 _ => .u8
  | .i16 _ => .i16
  | .u16 _ => .u16
  | .i32 _ => .i32
  | .u32 _ => .u32
  | .i64 _ => .i64
  | .u64 _ => .u64
  | .ipAddr _ => .ipAddr
  | .uuid _ => .uuid
  | .bool _ => .bool

end Omicron.Oxql
