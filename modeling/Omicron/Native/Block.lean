import Omicron.Native.DataType

/-!
# ClickHouse native protocol: data blocks

`native::block::{ValueArray, Column, BlockInfo, Block}` and their codec, `io::column` and
`io::block`. A block is a name, a `BlockInfo` and its columns by name; a column is its type and
an array of values, one per row.

* `decodeValueArray`, `encodeValueArray` -- the values of a column, one decoder and one encoder
  per type, recursive in `Nullable` and `Array`. An array column is its offsets (the running sum
  of the arrays' lengths) and then every array's values;
* `Column.decode`, `Column.encode` -- a column travels as its name, its type's text and a zero
  byte before its values;
* `Block.decode`, `Block.encode`.

A value is kept as the bits the codec moves: a float as its IEEE bits, a UUID or an IPv6 address
as a 128-bit number, a 128-bit integer as its bits, a date as days since the Unix epoch and an
instant as nanoseconds since it (its time zone is the column's). `Vec::with_capacity` is assumed
to allocate.

`encode_array_offsets` writes one offset for an array column of no rows, where the decoder reads
none: a block of no rows with an `Array` column decodes to itself but leaves those eight bytes
unread (`decode_encode_emptyArrayBlock`).
-/

namespace Omicron.Native

/-- `ValueArray`: a column's values. An `Enum8`'s variants are its `IndexMap`'s entries. -/
inductive ValueArray where
  | bool (values : List Bool)
  | uInt8 (values : List UInt8)
  | uInt16 (values : List UInt16)
  | uInt32 (values : List UInt32)
  | uInt64 (values : List UInt64)
  | uInt128 (values : List (BitVec 128))
  | int8 (values : List Int8)
  | int16 (values : List Int16)
  | int32 (values : List Int32)
  | int64 (values : List Int64)
  | int128 (values : List (BitVec 128))
  | float32 (bits : List UInt32)
  | float64 (bits : List UInt64)
  | string (values : List String)
  | uuid (values : List (Fin (2 ^ 128)))
  | ipv4 (values : List UInt32)
  | ipv6 (values : List (Fin (2 ^ 128)))
  | date (days : List Int)
  | dateTime (tz : String) (values : List Int)
  | dateTime64 (precision : Precision) (tz : String) (values : List Int)
  | nullable (isNull : List Bool) (values : ValueArray)
  | enum8 (variants : List (Int8 × String)) (values : List Int8)
  | array (innerType : DataType) (values : List ValueArray)
  deriving Repr

namespace ValueArray

/-- `ValueArray::len`: a `Nullable`'s is its values', an `Array`'s the number of its arrays. -/
def len : ValueArray → Nat
  | .bool values | .uInt8 values | .uInt16 values | .uInt32 values | .uInt64 values
  | .uInt128 values | .int8 values | .int16 values | .int32 values | .int64 values
  | .int128 values | .float32 values | .float64 values | .string values | .uuid values
  | .ipv4 values | .ipv6 values | .date values | .dateTime _ values | .dateTime64 _ _ values
  | .enum8 _ values | .array _ values => values.length
  | .nullable _ values => values.len

/-- `ValueArray::data_type`: the type its values are of. -/
def dataType : ValueArray → DataType
  | .bool _ => .bool
  | .uInt8 _ => .uInt8
  | .uInt16 _ => .uInt16
  | .uInt32 _ => .uInt32
  | .uInt64 _ => .uInt64
  | .uInt128 _ => .uInt128
  | .int8 _ => .int8
  | .int16 _ => .int16
  | .int32 _ => .int32
  | .int64 _ => .int64
  | .int128 _ => .int128
  | .float32 _ => .float32
  | .float64 _ => .float64
  | .string _ => .string
  | .uuid _ => .uuid
  | .ipv4 _ => .ipv4
  | .ipv6 _ => .ipv6
  | .date _ => .date
  | .dateTime tz _ => .dateTime tz
  | .dateTime64 precision tz _ => .dateTime64 precision tz
  | .nullable _ values => .nullable values.dataType
  | .enum8 variants _ => .enum8 variants
  | .array innerType _ => .array innerType

end ValueArray

/-- `Column`: its values and its type, which the codec writes and reads back as text. -/
structure Column where
  values : ValueArray
  dataType : DataType
  deriving Repr

/-- `Column::len`. -/
def Column.len (c : Column) : Nat := c.values.len

/-- `BlockInfo`. -/
structure BlockInfo where
  isOverflows : Bool
  bucketNum : Int32
  deriving DecidableEq, Repr

namespace BlockInfo

/-- `BlockInfo::OVERFLOW_FIELD_NUM`. -/
def overflowFieldNum : UInt64 := 1

/-- `BlockInfo::BUCKET_FIELD_NUM`. -/
def bucketFieldNum : UInt64 := 2

/-- `BlockInfo::default`: not an overflow block, bucket `-1`. -/
instance : Inhabited BlockInfo := ⟨⟨false, -1⟩⟩

end BlockInfo

/-- `Block`: its `IndexMap` of columns is the list of its entries in order. -/
structure Block where
  name : String
  info : BlockInfo
  columns : List (String × Column)
  deriving Repr

namespace Block

/-- `Block::data_types`. -/
def dataTypes (b : Block) : List DataType := b.columns.map (·.2.dataType)

/-- `Block::n_columns`. -/
def nColumns (b : Block) : Nat := b.columns.length

/-- `Block::n_rows`: the first column's length, `0` with no column. -/
def nRows (b : Block) : Nat := (b.columns.head?.map (·.2.len)).getD 0

end Block

/-! ## Decoding -/

/-- The `n` chunks of `size` bytes that `data` starts with. -/
def chunks (size : Nat) : Nat → List UInt8 → List (List UInt8)
  | 0, _ => []
  | n + 1, data => data.take size :: chunks size n (data.drop size)

/-- `copyin_pod_values_raw!` for a type of `size` bytes: the bytes of `nRows` values. The product
    `n_rows * size_of` overflows `usize` from `2 ^ 64` on. -/
def copyinPod (size nRows : Nat) : Decode (List (List UInt8)) := do
  if 2 ^ 64 ≤ nRows * size then throw .panic
  let data ← Decode.takeBytes (nRows * size)
  pure (chunks size nRows data)

/-- `copyinPod`, each value read as a little-endian number. -/
def copyinLe (size nRows : Nat) : Decode (List Nat) := List.map ofLe <$> copyinPod size nRows

/-- `copyinPod`, each value read as a little-endian two's complement number. -/
def copyinLeSigned (size nRows : Nat) : Decode (List Int) :=
  List.map (ofLeSigned size) <$> copyinPod size nRows

/-- Whether `x` is an `i64`. -/
def isI64 (x : Int) : Bool := -2 ^ 63 ≤ x && x < 2 ^ 63

/-- `TimeZone::timestamp_opt` for the instant `t`, `None` where `chrono` cannot represent it. -/
def timestampOpt (env : Env) (t : Int) : Option Int := if env.inRange t then some t else none

/-- `Precision::as_conv`: the instant, in nanoseconds, that a `DateTime64` stores as `x`, with
    `x / 10 ^ precision` seconds. `unwrap` panics where `chrono` cannot represent it; at precision
    `6` it is `x * 1000`, which may overflow `i64`, and at `9` it is `x`, always representable. -/
def asConv (env : Env) (precision : Precision) (x : Int) : Option Int :=
  match precision.val with
  | 6 => if isI64 (x * 1000) then some (x * 1000) else none
  | 9 => some x
  | p =>
    -- `timestamp_opt(x, 0)`, `timestamp_millis_opt(x)` and `precision_conversion_func!`
    let seconds := x / 10 ^ p
    let nanos := 10 ^ (9 - p) * (x % 10 ^ p)
    timestampOpt env (seconds * 10 ^ 9 + nanos)

/-- The loop of the `Array` arm: an offset less the one before it is the length of the next array.
    A smaller offset makes `offset - last_offset` overflow. -/
def decodeArrays (decodeInner : Nat → Decode ValueArray) :
    Nat → List Nat → Decode (List ValueArray)
  | _, [] => pure []
  | lastOffset, offset :: offsets => do
    if offset < lastOffset then throw .panic
    let arr ← decodeInner (offset - lastOffset)
    let arrs ← decodeArrays decodeInner offset offsets
    pure (arr :: arrs)

/-- `decode_value_array`: the values of `nRows` rows of a column of type `dataType`. -/
def decodeValueArray (env : Env) : DataType → Nat → Decode ValueArray
  | .bool, n => (fun vs => .bool (vs.map (· != 0))) <$> copyinLe 1 n
  | .uInt8, n => (fun vs => .uInt8 (vs.map Nat.toUInt8)) <$> copyinLe 1 n
  | .uInt16, n => (fun vs => .uInt16 (vs.map Nat.toUInt16)) <$> copyinLe 2 n
  | .uInt32, n => (fun vs => .uInt32 (vs.map Nat.toUInt32)) <$> copyinLe 4 n
  | .uInt64, n => (fun vs => .uInt64 (vs.map Nat.toUInt64)) <$> copyinLe 8 n
  | .uInt128, n => (fun vs => .uInt128 (vs.map (BitVec.ofNat 128))) <$> copyinLe 16 n
  | .int8, n => (fun vs => .int8 (vs.map Int8.ofInt)) <$> copyinLeSigned 1 n
  | .int16, n => (fun vs => .int16 (vs.map Int16.ofInt)) <$> copyinLeSigned 2 n
  | .int32, n => (fun vs => .int32 (vs.map Int32.ofInt)) <$> copyinLeSigned 4 n
  | .int64, n => (fun vs => .int64 (vs.map Int64.ofInt)) <$> copyinLeSigned 8 n
  | .int128, n => (fun vs => .int128 (vs.map (BitVec.ofNat 128))) <$> copyinLe 16 n
  | .float32, n => (fun vs => .float32 (vs.map Nat.toUInt32)) <$> copyinLe 4 n
  | .float64, n => (fun vs => .float64 (vs.map Nat.toUInt64)) <$> copyinLe 8 n
  | .string, n => .string <$> (List.range n).mapM fun _ => Str.decode
  | .uuid, n => do
    -- `Uuid::from_u64_pair` of two little-endian `u64`s
    let chunks ← copyinPod 16 n
    pure (.uuid (chunks.map fun c => Fin.ofNat _ (ofLe (c.take 8) * 2 ^ 64 + ofLe (c.drop 8))))
  | .ipv4, n => (fun vs => .ipv4 (vs.map Nat.toUInt32)) <$> copyinLe 4 n
  | .ipv6, n => do
    -- the octets of an `Ipv6Addr`, most significant first
    let chunks ← copyinPod 16 n
    pure (.ipv6 (chunks.map fun c => Fin.ofNat _ (ofLe c.reverse)))
  | .date, n => (fun vs => .date (vs.map Int.ofNat)) <$> copyinLe 2 n
  | .dateTime tz, n => do
    let seconds ← copyinLe 4 n
    let values ← seconds.mapM fun s => Decode.unwrap (timestampOpt env (s * 10 ^ 9))
    pure (.dateTime tz values)
  | .dateTime64 precision tz, n => do
    let counts ← copyinLeSigned 8 n
    let values ← counts.mapM fun x => Decode.unwrap (asConv env precision x)
    pure (.dateTime64 precision tz values)
  | .enum8 variants, n => (fun vs => .enum8 variants (vs.map Int8.ofInt)) <$> copyinLeSigned 1 n
  | .nullable inner, n => do
    let isNull ← copyinLe 1 n
    -- `assert!(!inner.is_nullable())`
    if inner.isNullable then throw .panic
    let values ← decodeValueArray env inner n
    pure (.nullable (isNull.map (· != 0)) values)
  | .array inner, n => do
    let offsets ← copyinLe 8 n
    let values ← decodeArrays (decodeValueArray env inner) 0 offsets
    pure (.array inner values)

/-- `io::column::decode`: the name, the type's text parsed, the serialization byte, which must
    be `0`, and the values. -/
def Column.decode (env : Env) (nRows : Nat) : Decode (String × Column) := do
  let name ← Str.decode
  let typeStr ← Str.decode
  let dataType ← Decode.liftError (DataType.fromStr env typeStr)
  Decode.ensure 1
  if (← Decode.getU8) != 0 then
    throw (.error (.unsupportedProtocolFeature "custom serialization"))
  let values ← decodeValueArray env dataType nRows
  pure (name, ⟨values, dataType⟩)

/-- `decode_block_info`: field `1` and the overflow flag, field `2` and the bucket, a byte. -/
def decodeBlockInfo : Decode BlockInfo := do
  let fieldNum ← Varuint.decode
  if fieldNum != BlockInfo.overflowFieldNum then
    throw (.error (.unsupportedProtocolFeature "block info field"))
  Decode.ensure 1
  let isOverflows := (← Decode.getU8) == 1
  let fieldNum ← Varuint.decode
  if fieldNum != BlockInfo.bucketFieldNum then
    throw (.error (.unsupportedProtocolFeature "block info field"))
  -- the bucket and the byte after it
  Decode.ensure (4 + 1)
  let bucketNum ← Decode.getBytes 4
  let _ ← Decode.getU8
  pure ⟨isOverflows, Int32.ofInt (ofLeSigned 4 bucketNum)⟩

/-- `io::block::decode`: every column has the block's number of rows; a column name seen before
    takes the later column in the earlier place. -/
def Block.decode (env : Env) : Decode Block := do
  let name ← Str.decode
  let info ← decodeBlockInfo
  let nColumns ← Varuint.decode
  let nRows ← Varuint.decode
  let columns ← (List.range nColumns.toNat).foldlM (fun columns _ => do
    let (name, col) ← Column.decode env nRows.toNat
    pure (IndexMap.insert columns name col)) []
  pure ⟨name, info, columns⟩

/-! ## The decoders read a prefix -/

theorem copyinPod_readsPrefix (size nRows : Nat) : ReadsPrefix (copyinPod size nRows) := by
  unfold copyinPod
  dsimp only
  split
  · exact ReadsPrefix.throw _
  · exact (Decode.takeBytes_readsPrefix _).bind fun _ => ReadsPrefix.pure _

theorem copyinLe_readsPrefix (size nRows : Nat) : ReadsPrefix (copyinLe size nRows) :=
  (copyinPod_readsPrefix size nRows).map _

theorem copyinLeSigned_readsPrefix (size nRows : Nat) : ReadsPrefix (copyinLeSigned size nRows) :=
  (copyinPod_readsPrefix size nRows).map _

theorem decodeArrays_readsPrefix {decodeInner : Nat → Decode ValueArray}
    (h : ∀ n, ReadsPrefix (decodeInner n)) :
    ∀ last offsets, ReadsPrefix (decodeArrays decodeInner last offsets)
  | _, [] => ReadsPrefix.pure _
  | last, offset :: offsets => by
    unfold decodeArrays
    dsimp only
    split
    · exact ReadsPrefix.throw _
    · exact (h _).bind fun _ =>
        (decodeArrays_readsPrefix h offset offsets).bind fun _ => ReadsPrefix.pure _

/-- The values of a column read a prefix, by induction on the type: a `Nullable` reads its mask
    and then its inner values, an `Array` its offsets and then one inner array per offset. -/
theorem decodeValueArray_readsPrefix (env : Env) :
    ∀ t n, ReadsPrefix (decodeValueArray env t n)
  | .nullable inner, n => by
    unfold decodeValueArray
    dsimp only
    refine (copyinLe_readsPrefix 1 n).bind fun _ => ?_
    split
    · exact ReadsPrefix.throw _
    · exact (decodeValueArray_readsPrefix env inner n).bind fun _ => ReadsPrefix.pure _
  | .array inner, n =>
    (copyinLe_readsPrefix 8 n).bind fun offsets =>
      (decodeArrays_readsPrefix (decodeValueArray_readsPrefix env inner) 0 offsets).bind fun _ =>
        ReadsPrefix.pure _
  | .string, n => (ReadsPrefix.mapM _ (fun _ => Str.decode_readsPrefix) _).map _
  | .uuid, n => (copyinPod_readsPrefix 16 n).bind fun _ => ReadsPrefix.pure _
  | .ipv6, n => (copyinPod_readsPrefix 16 n).bind fun _ => ReadsPrefix.pure _
  | .dateTime _, n =>
    (copyinLe_readsPrefix 4 n).bind fun _ =>
      (ReadsPrefix.mapM _ (fun _ => Decode.unwrap_readsPrefix _) _).bind fun _ => ReadsPrefix.pure _
  | .dateTime64 _ _, n =>
    (copyinLeSigned_readsPrefix 8 n).bind fun _ =>
      (ReadsPrefix.mapM _ (fun _ => Decode.unwrap_readsPrefix _) _).bind fun _ => ReadsPrefix.pure _
  | .bool, n | .uInt8, n | .uInt16, n | .uInt32, n | .uInt64, n | .uInt128, n | .int128, n
  | .float32, n | .float64, n | .ipv4, n | .date, n => (copyinLe_readsPrefix _ n).map _
  | .int8, n | .int16, n | .int32, n | .int64, n | .enum8 _, n =>
    (copyinLeSigned_readsPrefix _ n).map _

theorem Column.decode_readsPrefix (env : Env) (nRows : Nat) :
    ReadsPrefix (Column.decode env nRows) := by
  unfold Column.decode
  refine Str.decode_readsPrefix.bind fun _ => Str.decode_readsPrefix.bind fun _ =>
    (Decode.liftError_readsPrefix _).bind fun dataType =>
      (Decode.ensure_readsPrefix 1).bind fun _ => Decode.getU8_readsPrefix.bind fun _ => ?_
  -- a serialization byte other than `0` is an error, whatever follows
  dsimp only
  split
  · exact ReadsPrefix.throw _
  · exact (decodeValueArray_readsPrefix env dataType nRows).bind fun _ => ReadsPrefix.pure _

theorem decodeBlockInfo_readsPrefix : ReadsPrefix decodeBlockInfo := by
  unfold decodeBlockInfo
  refine Varuint.decode_readsPrefix.bind fun fieldNum => ?_
  dsimp only
  split
  · exact ReadsPrefix.throw _
  refine (Decode.ensure_readsPrefix 1).bind fun _ => Decode.getU8_readsPrefix.bind fun _ =>
    Varuint.decode_readsPrefix.bind fun fieldNum => ?_
  split
  · exact ReadsPrefix.throw _
  exact (Decode.ensure_readsPrefix _).bind fun _ => (Decode.getBytes_readsPrefix 4).bind fun _ =>
    Decode.getU8_readsPrefix.bind fun _ => ReadsPrefix.pure _

/-- **The block decoder reads a prefix**: a block followed by anything decodes as the block alone,
    and what follows is left. -/
theorem Block.decode_readsPrefix (env : Env) : ReadsPrefix (Block.decode env) :=
  Str.decode_readsPrefix.bind fun _ => decodeBlockInfo_readsPrefix.bind fun _ =>
    Varuint.decode_readsPrefix.bind fun _ => Varuint.decode_readsPrefix.bind fun nRows =>
      (ReadsPrefix.foldlM _ (fun _ _ => (Column.decode_readsPrefix env nRows.toNat).bind fun _ =>
        ReadsPrefix.pure _) _ _).bind fun _ => ReadsPrefix.pure _

/-! ## Encoding -/

/-- The loop of `encode_array_offsets`: the running sum of the lengths, from `current`. -/
def offsetsFrom : Nat → List ValueArray → List Nat
  | _, [] => []
  | current, arr :: arrs => (current + arr.len) :: offsetsFrom (current + arr.len) arrs

/-- `encode_array_offsets`: the running sums as `u64`s, and one zero offset for no arrays. -/
def encodeArrayOffsets (arrays : List ValueArray) : List UInt8 :=
  if arrays.isEmpty then toLe 8 0 else (offsetsFrom 0 arrays).flatMap (toLe 8)

/-- `Precision::scale`: the count a `DateTime64` stores for the instant `t`, from its whole
    seconds, milliseconds, microseconds or nanoseconds (`/` truncates towards zero); `None` where
    the nanoseconds do not fit an `i64`. -/
def scale (precision : Precision) (t : Int) : Option Int :=
  let millis := t / 10 ^ 6
  let micros := t / 10 ^ 3
  let nanos := if isI64 t then some t else none
  match precision.val with
  | 0 => some (t / 10 ^ 9)
  | 1 => some (millis.tdiv 100)
  | 2 => some (millis.tdiv 10)
  | 3 => some millis
  | 4 => some (micros.tdiv 100)
  | 5 => some (micros.tdiv 10)
  | 6 => some micros
  | 7 => nanos.map (·.tdiv 100)
  | 8 => nanos.map (·.tdiv 10)
  | _ => nanos

/-- Each value's bytes, or the first error. -/
def encodeEach {α : Type} (values : List α) (f : α → Except Error (List UInt8)) :
    Except Error (List UInt8) :=
  List.flatten <$> values.mapM f

/-- Whether `x` is a `u16` or a `u32`, for `try_from`. -/
def fitsUnsigned (bits : Nat) (x : Int) : Bool := 0 ≤ x && x < 2 ^ bits

mutual

/-- `encode_value_array`: the bytes of a column's values. A date or an instant out of its type's
    range is an `OutOfRange` error. -/
def encodeValueArray : ValueArray → Except Error (List UInt8)
  | .bool values => pure (values.map fun b => if b then 1 else 0)
  | .uInt8 values => pure values
  | .uInt16 values => pure (values.flatMap fun v => toLe 2 v.toNat)
  | .uInt32 values => pure (values.flatMap fun v => toLe 4 v.toNat)
  | .uInt64 values => pure (values.flatMap fun v => toLe 8 v.toNat)
  | .uInt128 values => pure (values.flatMap fun v => toLe 16 v.toNat)
  | .int8 values => pure (values.flatMap fun v => toLeSigned 1 v.toInt)
  | .int16 values => pure (values.flatMap fun v => toLeSigned 2 v.toInt)
  | .int32 values => pure (values.flatMap fun v => toLeSigned 4 v.toInt)
  | .int64 values => pure (values.flatMap fun v => toLeSigned 8 v.toInt)
  | .int128 values => pure (values.flatMap fun v => toLe 16 v.toNat)
  | .float32 bits => pure (bits.flatMap fun v => toLe 4 v.toNat)
  | .float64 bits => pure (bits.flatMap fun v => toLe 8 v.toNat)
  | .string values => pure (values.flatMap Str.encode)
  | .uuid values =>
    -- `as_u64_pair`, each half a little-endian `u64`
    pure (values.flatMap fun v => toLe 8 (v.val / 2 ^ 64) ++ toLe 8 (v.val % 2 ^ 64))
  | .ipv4 values => pure (values.flatMap fun v => toLe 4 v.toNat)
  | .ipv6 values => pure (values.flatMap fun v => (toLe 16 v.val).reverse)
  | .date days => encodeEach days fun d =>
    if fitsUnsigned 16 d then pure (toLe 2 d.toNat)
    else throw (.outOfRange "Date" "1970-01-01" "2149-06-06")
  | .dateTime _ values => encodeEach values fun t =>
    if fitsUnsigned 32 (t / 10 ^ 9) then pure (toLe 4 (t / 10 ^ 9).toNat)
    else throw (.outOfRange "DateTime" "1970-01-01 00:00:00" "2106-02-07 06:28:15")
  | .dateTime64 precision _ values => encodeEach values fun t =>
    match scale precision t with
    | some timestamp => pure (toLeSigned 8 timestamp)
    | none => throw (.outOfRange "DateTime64" "1970-01-01" "2299-12-31 23:59:59.99999999")
  | .nullable isNull values => do
    let rest ← encodeValueArray values
    pure (isNull.map (fun b => if b then 1 else 0) ++ rest)
  | .enum8 _ values => pure (values.flatMap fun v => toLeSigned 1 v.toInt)
  | .array _ arrays => do
    let rest ← encodeArrays arrays
    pure (encodeArrayOffsets arrays ++ rest)

/-- The loop of the `Array` arm: every array's values, one after the other. -/
def encodeArrays : List ValueArray → Except Error (List UInt8)
  | [] => pure []
  | arr :: arrs => do
    let first ← encodeValueArray arr
    let rest ← encodeArrays arrs
    pure (first ++ rest)

end

/-- `io::column::encode`, which asserts that the type is supported. -/
def Column.encode (name : String) (column : Column) : Except Stop (List UInt8) :=
  if !column.dataType.isSupported then .error .panic
  else
    match encodeValueArray column.values with
    | .ok values => .ok (Str.encode name ++ Str.encode column.dataType.text ++ [0] ++ values)
    | .error e => .error (.error e)

/-- `encode_block_info`. -/
def encodeBlockInfo (info : BlockInfo) : List UInt8 :=
  Varuint.encode BlockInfo.overflowFieldNum ++ [if info.isOverflows then 1 else 0] ++
    Varuint.encode BlockInfo.bucketFieldNum ++ toLeSigned 4 info.bucketNum.toInt ++ [0]

/-- `io::block::encode`: every type must be supported, and the first one that is not is named in
    the error. A `usize` count always fits a `u64`, so `BlockTooLarge` does not arise. -/
def Block.encode (b : Block) : Except Stop (List UInt8) :=
  match b.dataTypes.find? (!·.isSupported) with
  | some t => .error (.error (.unsupportedDataType t.text))
  | none => do
    let columns ← b.columns.mapM fun (name, col) => Column.encode name col
    pure (Str.encode b.name ++ encodeBlockInfo b.info ++ Varuint.encode b.nColumns.toUInt64 ++
      Varuint.encode b.nRows.toUInt64 ++ columns.flatten)

/-! ## A block of no rows with an array column -/

/-- A block of no rows, with one column `a` of type `Array(UInt8)`. -/
def emptyArrayBlock : Block := ⟨"", default, [("a", ⟨.array .uInt8 [], .array .uInt8⟩)]⟩

/-- **A block of no rows with an array column does not round-trip through the codec.** The
    encoder writes one zero offset for the column's empty list of arrays; the decoder reads as many
    offsets as there are rows, none, so the block comes back but the offset's eight bytes stay
    unread before whatever followed the block. -/
theorem decode_encode_emptyArrayBlock (env : Env) (r : List UInt8) :
    ∃ bytes, emptyArrayBlock.encode = .ok bytes ∧
      (Block.decode env).run (bytes ++ r) = .ok (emptyArrayBlock, toLe 8 0 ++ r) :=
  ⟨_, rfl, Block.decode_readsPrefix env _ r _ _ rfl⟩

end Omicron.Native
