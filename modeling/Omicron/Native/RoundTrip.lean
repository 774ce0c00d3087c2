import Omicron.Native.Block
import Omicron.Native.TypeNames
import Omicron.Lib.ExceptRun

/-!
# ClickHouse native protocol: the block codec's round trip

What `io::block::encode` writes, `io::block::decode` reads back, and leaves whatever follows
(`Block.reads_decode_encode_of_fits`). The codec is read against the judgement `Reads d bytes a` of
`Lib/PrefixDecoder`: on `bytes` followed by anything, `d` returns `a` and leaves what follows.

* `ValueArray.fits` -- what the decoder needs of a column's values that the encoder does not
  check: counts and sizes within the `usize`s and `u64`s the wire holds them in, instants in whole
  units of their type that `chrono` represents, a null mask with one entry per value around values
  that are not themselves nullable, and arrays of the column's inner type with at least one row,
  at every depth (an array column of no rows is written with an offset no reader reads,
  `decode_encode_emptyArrayBlock`);
* `reads_decodeValueArray` -- the values of every type read back, by structural induction on the
  values, an array's through the offsets that `encode_array_offsets` writes
  (`reads_decodeArrays`);
* `Column.reads_decode_encode`, `reads_decodeBlockInfo`, and the block.

A type is carried as its text, so a column's type must read back from it (`fromStr_text`): its
names are ones the parsers take and no date sits below a `Nullable(...)` or an `Array(...)`.
-/

namespace Omicron.Native

/-! ## 1. Fixed-width values -/

theorem chunks_flatMap {α : Type} {size : Nat} {f : α → List UInt8}
    (hf : ∀ v, (f v).length = size) : ∀ vs : List α, chunks size vs.length (vs.flatMap f) = vs.map f
  | [] => rfl
  | v :: vs => by
    rw [List.flatMap_cons, List.length_cons, chunks, List.take_left' (hf v),
      List.drop_left' (hf v), chunks_flatMap hf vs, List.map_cons]

theorem length_flatMap_of_length_eq {α : Type} {size : Nat} {f : α → List UInt8}
    (hf : ∀ v, (f v).length = size) (vs : List α) : (vs.flatMap f).length = vs.length * size := by
  induction vs with
  | nil => simp
  | cons v vs ih => simp [List.flatMap_cons, hf, ih, Nat.succ_mul, Nat.add_comm]

/-- `copyin_pod_values_raw!` reads back values of `size` bytes each. -/
theorem reads_copyinPod {α : Type} {size : Nat} {f : α → List UInt8}
    (hf : ∀ v, (f v).length = size) {vs : List α} (hn : vs.length * size < 2 ^ 64) :
    Reads (copyinPod size vs.length) (vs.flatMap f) (vs.map f) := by
  have hlen := length_flatMap_of_length_eq hf vs
  unfold copyinPod
  rw [if_neg (by omega), ← hlen]
  refine (Decode.reads_takeBytes _).bind_last ?_
  rw [chunks_flatMap hf]
  exact Reads.pure _

/-- Numbers written as `size` little-endian bytes each read back. -/
theorem reads_copyinLe (size : Nat) (vs : List Nat) (hlt : ∀ v ∈ vs, v < 256 ^ size)
    (hn : vs.length * size < 2 ^ 64) : Reads (copyinLe size vs.length) (vs.flatMap (toLe size)) vs := by
  have hval : (vs.map (toLe size)).map ofLe = vs := by
    rw [List.map_map]
    conv_rhs => rw [← List.map_id vs]
    exact List.map_congr_left fun v hv => ofLe_toLe_of_lt (hlt v hv)
  have h := (reads_copyinPod (f := toLe size) (fun _ => length_toLe _ _) hn).map (List.map ofLe)
  rwa [hval] at h

/-- Numbers written as `size` bytes of two's complement each read back. -/
theorem reads_copyinLeSigned (size : Nat) (hsize : 0 < size) (vs : List Int)
    (hlo : ∀ v ∈ vs, -2 ^ (8 * size - 1) ≤ v) (hhi : ∀ v ∈ vs, v < 2 ^ (8 * size - 1))
    (hn : vs.length * size < 2 ^ 64) :
    Reads (copyinLeSigned size vs.length) (vs.flatMap (toLeSigned size)) vs := by
  have hval : (vs.map (toLeSigned size)).map (ofLeSigned size) = vs := by
    rw [List.map_map]
    conv_rhs => rw [← List.map_id vs]
    exact List.map_congr_left fun v hv => ofLeSigned_toLeSigned hsize (hlo v hv) (hhi v hv)
  have h := (reads_copyinPod (f := toLeSigned size) (fun _ => length_toLeSigned _ _) hn).map
    (List.map (ofLeSigned size))
  rwa [hval] at h

/-- Unsigned values written through `toNat` read back through `ofNat`. -/
theorem reads_copyinLe_map {β : Type} (size : Nat) (mk : List β → ValueArray) (toNat : β → Nat)
    (ofNat : Nat → β) {values : List β} (hinv : ∀ v ∈ values, ofNat (toNat v) = v)
    (hlt : ∀ v ∈ values, toNat v < 256 ^ size) (hn : values.length * size < 2 ^ 64) :
    Reads ((fun vs => mk (vs.map ofNat)) <$> copyinLe size values.length)
      (values.flatMap fun v => toLe size (toNat v)) (mk values) := by
  have hval : (values.map toNat).map ofNat = values := by
    rw [List.map_map]
    conv_rhs => rw [← List.map_id values]
    exact List.map_congr_left hinv
  have h := (reads_copyinLe size (values.map toNat) (by simpa using hlt) (by simpa using hn)).map
    (fun vs => mk (vs.map ofNat))
  rw [hval, List.flatMap_map, List.length_map] at h
  exact h

/-- Signed values written through `toInt` read back through `ofInt`. -/
theorem reads_copyinLeSigned_map {β : Type} (size : Nat) (hsize : 0 < size)
    (mk : List β → ValueArray) (toInt : β → Int) (ofInt : Int → β) {values : List β}
    (hinv : ∀ v, ofInt (toInt v) = v) (hlo : ∀ v, -2 ^ (8 * size - 1) ≤ toInt v)
    (hhi : ∀ v, toInt v < 2 ^ (8 * size - 1)) (hn : values.length * size < 2 ^ 64) :
    Reads ((fun vs => mk (vs.map ofInt)) <$> copyinLeSigned size values.length)
      (values.flatMap fun v => toLeSigned size (toInt v)) (mk values) := by
  have hval : (values.map toInt).map ofInt = values := by
    rw [List.map_map]
    conv_rhs => rw [← List.map_id values]
    exact List.map_congr_left fun v _ => hinv v
  have h := (reads_copyinLeSigned size hsize (values.map toInt) (by simpa using fun v _ => hlo v)
    (by simpa using fun v _ => hhi v) (by simpa using hn)).map (fun vs => mk (vs.map ofInt))
  rw [hval, List.flatMap_map, List.length_map] at h
  exact h

/-- Values written through `f`, `size` bytes each, read back through `g`. -/
theorem reads_copyinPod_map {α : Type} {size : Nat} (f : α → List UInt8) (g : List UInt8 → α)
    (mk : List α → ValueArray) (hf : ∀ v, (f v).length = size) {values : List α}
    (hinv : ∀ v ∈ values, g (f v) = v) (hn : values.length * size < 2 ^ 64) :
    Reads (do let chunks ← copyinPod size values.length; pure (mk (chunks.map g)))
      (values.flatMap f) (mk values) := by
  have hval : (values.map f).map g = values := by
    rw [List.map_map]
    conv_rhs => rw [← List.map_id values]
    exact List.map_congr_left hinv
  refine (reads_copyinPod hf hn).bind_last ?_
  rw [hval]
  exact Reads.pure _

/-- A UUID's two little-endian halves read back. -/
theorem uuid_halves (v : Fin (2 ^ 128)) :
    Fin.ofNat (2 ^ 128) (ofLe ((toLe 8 (v.val / 2 ^ 64) ++ toLe 8 (v.val % 2 ^ 64)).take 8) * 2 ^ 64 +
      ofLe ((toLe 8 (v.val / 2 ^ 64) ++ toLe 8 (v.val % 2 ^ 64)).drop 8)) = v := by
  have hhi : v.val / 2 ^ 64 < 256 ^ 8 := by
    rw [Nat.div_lt_iff_lt_mul (by positivity)]
    simp
  have hlo : v.val % 2 ^ 64 < 256 ^ 8 := by
    have := Nat.mod_lt v.val (show 0 < 2 ^ 64 by positivity)
    simpa using this
  rw [List.take_left' (length_toLe _ _), List.drop_left' (length_toLe _ _), ofLe_toLe_of_lt hhi,
    ofLe_toLe_of_lt hlo, Nat.div_add_mod']
  simp

/-- An IPv6 address's octets, most significant first, read back. -/
theorem ipv6_octets (v : Fin (2 ^ 128)) :
    Fin.ofNat (2 ^ 128) (ofLe (toLe 16 v.val).reverse.reverse) = v := by
  have hv : v.val < 256 ^ 16 := by simp
  rw [List.reverse_reverse, ofLe_toLe_of_lt hv]
  simp

/-- One byte a value: the values' `toLe 1` are the bytes. -/
theorem flatMap_toLe_one {β : Type} (g : β → UInt8) (values : List β) :
    (values.flatMap fun v => toLe 1 (g v).toNat) = values.map g := by
  induction values with
  | nil => rfl
  | cons v vs ih =>
    rw [List.flatMap_cons, ih, List.map_cons]
    simp [toLe]

/-! ## 2. Instants -/

/-- An instant a `DateTime64` of `precision` carries back: a whole number of the precision's
    units, a count of them that fits an `i64`, and one `as_conv` returns. -/
def fitsDateTime64 (env : Env) (precision : Precision) (t : Int) : Bool :=
  t % 10 ^ (9 - precision.val) == 0 && isI64 (t / 10 ^ (9 - precision.val)) &&
    if precision.val = 6 then isI64 t else if precision.val = 9 then true else env.inRange t

/-- On whole units, `Precision::scale` is division by the unit, however each precision rounds. -/
theorem scale_eq_ediv {precision : Precision} {t ts : Int} (h : scale precision t = some ts)
    (hdvd : 10 ^ (9 - precision.val) ∣ t) : ts = t / 10 ^ (9 - precision.val) := by
  -- the rounding `tdiv`s divide multiples, where they agree with `/`
  fin_cases precision <;> simp [scale, isI64] at h hdvd ⊢ <;>
    (try simp (disch := omega) only [Int.tdiv_eq_ediv_of_dvd] at h) <;> omega

/-- `Precision::as_conv` undoes the division: `x / 10 ^ p` seconds and `10 ^ (9 - p)` nanoseconds
    for each unit of `x % 10 ^ p` make up the instant again. -/
theorem asConv_ediv {env : Env} {precision : Precision} {t : Int}
    (hdvd : 10 ^ (9 - precision.val) ∣ t)
    (hfit : (if precision.val = 6 then isI64 t else if precision.val = 9 then true
      else env.inRange t) = true) :
    asConv env precision (t / 10 ^ (9 - precision.val)) = some t := by
  have hp := precision.isLt
  obtain ⟨q, rfl⟩ := hdvd
  have hq : 10 ^ (9 - precision.val) * q / 10 ^ (9 - precision.val) = q :=
    Int.mul_ediv_cancel_left q (by positivity)
  rw [hq]
  unfold asConv
  split
  · next h6 =>
    rw [if_pos h6] at hfit
    simp only [h6, show 9 - 6 = 3 from rfl] at hfit ⊢
    rw [if_pos (by rw [Int.mul_comm]; exact hfit)]
    rw [Int.mul_comm]
    rfl
  · next h9 =>
    simp [h9]
  · next p h6 h9 =>
    rw [if_neg h6, if_neg h9] at hfit
    have hmul : (10 : Int) ^ (9 - precision.val) * 10 ^ precision.val = 10 ^ 9 := by
      rw [← pow_add]
      congr 1
      omega
    have hsum : q / 10 ^ precision.val * 10 ^ 9 +
        10 ^ (9 - precision.val) * (q % 10 ^ precision.val) = 10 ^ (9 - precision.val) * q := by
      rw [← hmul]
      calc q / 10 ^ precision.val * (10 ^ (9 - precision.val) * 10 ^ precision.val) +
            10 ^ (9 - precision.val) * (q % 10 ^ precision.val)
          = 10 ^ (9 - precision.val) * (10 ^ precision.val * (q / 10 ^ precision.val) +
            q % 10 ^ precision.val) := by ring
        _ = 10 ^ (9 - precision.val) * q := by rw [Int.mul_ediv_add_emod]
    simp only [timestampOpt, hsum, hfit, if_true]

/-- An instant `scale` writes and `as_conv` reads back. -/
theorem asConv_of_scale {env : Env} {precision : Precision} {t ts : Int}
    (h : scale precision t = some ts) (hfit : fitsDateTime64 env precision t = true) :
    asConv env precision ts = some t ∧ isI64 ts = true := by
  simp only [fitsDateTime64, Bool.and_eq_true, beq_iff_eq] at hfit
  obtain ⟨⟨hmod, hi64⟩, hrange⟩ := hfit
  have hdvd : 10 ^ (9 - precision.val) ∣ t := Int.dvd_of_emod_eq_zero hmod
  rw [scale_eq_ediv h hdvd]
  exact ⟨asConv_ediv hdvd hrange, hi64⟩

/-! ## 3. What the encoder accepts -/

/-- A value encoder that returns `g v` when it succeeds, and succeeds only when `c v`, writes
    every value's `g` when `encodeEach` succeeds, and every value met `c`. -/
theorem encodeEach_eq_ok {α : Type} {f : α → Except Error (List UInt8)} {g : α → List UInt8}
    {c : α → Prop} (hf : ∀ v p, f v = .ok p → p = g v ∧ c v) {values : List α}
    {bytes : List UInt8} (h : encodeEach values f = .ok bytes) :
    bytes = values.flatMap g ∧ ∀ v ∈ values, c v := by
  obtain ⟨parts, hparts, rfl⟩ := Except.map_eq_ok_iff.mp h
  obtain ⟨rfl, hc⟩ := Except.mapM_eq_ok_of hf hparts
  exact ⟨rfl, hc⟩

/-- The check of a `Date` or a `DateTime`: the value is written when it fits its type. -/
theorem ite_fits_eq_ok {α : Type} {c : α → Bool} {g : α → List UInt8} {e : Error} (v : α)
    (p : List UInt8) (h : (if c v then pure (g v) else throw e : Except Error (List UInt8)) = .ok p) :
    p = g v ∧ c v = true := by
  split at h
  · exact ⟨(Except.ok.inj h).symm, by assumption⟩
  · cases h

theorem length_offsetsFrom : ∀ (current : Nat) (arrays : List ValueArray),
    (offsetsFrom current arrays).length = arrays.length
  | _, [] => rfl
  | current, _ :: arrays => by
    rw [offsetsFrom, List.length_cons, length_offsetsFrom _ arrays, List.length_cons]

/-- The offsets run up to the total length. -/
theorem le_of_mem_offsetsFrom : ∀ (current : Nat) (arrays : List ValueArray),
    ∀ o ∈ offsetsFrom current arrays, o ≤ current + (arrays.map ValueArray.len).sum
  | _, [] => by simp [offsetsFrom]
  | current, arr :: arrays => by
    intro o ho
    rw [offsetsFrom, List.mem_cons] at ho
    rw [List.map_cons, List.sum_cons]
    rcases ho with rfl | ho
    · omega
    · have := le_of_mem_offsetsFrom (current + arr.len) arrays o ho
      omega

/-! ## 4. Column values -/

mutual

/-- What the decoder needs of a column's values that the encoder does not check. -/
def ValueArray.fits (env : Env) : ValueArray → Bool
  | .bool values => values.length < 2 ^ 64
  | .uInt8 values => values.length < 2 ^ 64
  | .uInt16 values => values.length * 2 < 2 ^ 64
  | .uInt32 values => values.length * 4 < 2 ^ 64
  | .uInt64 values => values.length * 8 < 2 ^ 64
  | .uInt128 values => values.length * 16 < 2 ^ 64
  | .int8 values => values.length * 1 < 2 ^ 64
  | .int16 values => values.length * 2 < 2 ^ 64
  | .int32 values => values.length * 4 < 2 ^ 64
  | .int64 values => values.length * 8 < 2 ^ 64
  | .int128 values => values.length * 16 < 2 ^ 64
  | .float32 bits => bits.length * 4 < 2 ^ 64
  | .float64 bits => bits.length * 8 < 2 ^ 64
  | .string values => values.all fun s => s.utf8ByteSize < 2 ^ 64
  | .uuid values => values.length * 16 < 2 ^ 64
  | .ipv4 values => values.length * 4 < 2 ^ 64
  | .ipv6 values => values.length * 16 < 2 ^ 64
  | .date days => days.length * 2 < 2 ^ 64
  | .dateTime _ values =>
    values.length * 4 < 2 ^ 64 && values.all fun t => t % 10 ^ 9 == 0 && env.inRange t
  | .dateTime64 precision _ values =>
    values.length * 8 < 2 ^ 64 && values.all (fitsDateTime64 env precision)
  | .nullable isNull values =>
    isNull.length == values.len && isNull.length < 2 ^ 64 && !values.dataType.isNullable &&
      values.fits env
  | .enum8 _ values => values.length * 1 < 2 ^ 64
  | .array innerType arrays =>
    !arrays.isEmpty && arrays.length * 8 < 2 ^ 64 && (arrays.map ValueArray.len).sum < 2 ^ 64 &&
      ValueArray.fitsAll env innerType arrays

/-- Every array of an `Array` column is of its inner type and fits. -/
def ValueArray.fitsAll (env : Env) (innerType : DataType) : List ValueArray → Bool
  | [] => true
  | arr :: arrays => arr.dataType == innerType && arr.fits env && ValueArray.fitsAll env innerType arrays

end

/-- One array of an `Array` column: its offset is the last one and its length. -/
theorem reads_decodeArrays_cons {decodeInner : Nat → Decode ValueArray} {current : Nat}
    {arr : ValueArray} {arrays : List ValueArray} {offsets : List Nat} {bs cs : List UInt8}
    (harr : Reads (decodeInner arr.len) bs arr)
    (harrays : Reads (decodeArrays decodeInner (current + arr.len) offsets) cs arrays) :
    Reads (decodeArrays decodeInner current ((current + arr.len) :: offsets)) (bs ++ cs)
      (arr :: arrays) := by
  rw [decodeArrays, if_neg (by omega), Nat.add_sub_cancel_left, ← List.append_nil (bs ++ cs),
    List.append_assoc]
  refine harr.bind ?_
  exact harrays.bind (Reads.pure _)

/-- The offsets `encode_array_offsets` writes for arrays with rows. -/
theorem encodeArrayOffsets_of_ne_nil {arrays : List ValueArray} (h : arrays.isEmpty = false) :
    encodeArrayOffsets arrays = (offsetsFrom 0 arrays).flatMap (toLe 8) := by
  simp [encodeArrayOffsets, h]

/-- A `Nullable`'s mask read back. -/
theorem map_ne_zero_mask (isNull : List Bool) :
    (isNull.map fun b => ((if b then 1 else 0 : UInt8)).toNat).map (· != 0) = isNull := by
  rw [List.map_map]
  conv_rhs => rw [← List.map_id isNull]
  exact List.map_congr_left fun b _ => by cases b <;> rfl

mutual

/-- **The values of a column read back**: what `encode_value_array` writes for values that
    `fits`, `decode_value_array` reads back at their type and length, and leaves what follows. By
    structural induction on the values: a `Nullable`'s inner values and an `Array`'s arrays are
    the induction's smaller cases. -/
theorem reads_decodeValueArray (env : Env) : ∀ (v : ValueArray) {bytes : List UInt8},
    v.fits env = true → encodeValueArray v = .ok bytes →
    Reads (decodeValueArray env v.dataType v.len) bytes v
  | .bool values, _, hfit, henc => by
    cases henc
    have h := reads_copyinLe_map 1 .bool (fun b => (if b then 1 else 0 : UInt8).toNat)
      (· != 0) (fun b _ => by cases b <;> rfl) (fun b _ => by simpa using UInt8.toNat_lt _)
      (by simpa [ValueArray.fits] using hfit)
    simp only [flatMap_toLe_one] at h
    exact h
  | .uInt8 values, _, hfit, henc => by
    cases henc
    have h := reads_copyinLe_map 1 .uInt8 UInt8.toNat Nat.toUInt8 (fun v _ => by simp)
      (fun v _ => by simpa using v.toNat_lt) (by simpa [ValueArray.fits] using hfit)
    simp only [flatMap_toLe_one, List.map_id'] at h
    exact h
  | .uInt16 values, _, hfit, henc => by
    cases henc
    exact reads_copyinLe_map 2 .uInt16 UInt16.toNat Nat.toUInt16 (fun v _ => by simp)
      (fun v _ => by simpa using v.toNat_lt) (by simpa [ValueArray.fits] using hfit)
  | .uInt32 values, _, hfit, henc => by
    cases henc
    exact reads_copyinLe_map 4 .uInt32 UInt32.toNat Nat.toUInt32 (fun v _ => by simp)
      (fun v _ => by simpa using v.toNat_lt) (by simpa [ValueArray.fits] using hfit)
  | .uInt64 values, _, hfit, henc => by
    cases henc
    exact reads_copyinLe_map 8 .uInt64 UInt64.toNat Nat.toUInt64 (fun v _ => by simp)
      (fun v _ => by simpa using v.toNat_lt) (by simpa [ValueArray.fits] using hfit)
  | .uInt128 values, _, hfit, henc => by
    cases henc
    exact reads_copyinLe_map 16 .uInt128 BitVec.toNat (BitVec.ofNat 128) (fun v _ => by simp)
      (fun v _ => by simpa using v.isLt) (by simpa [ValueArray.fits] using hfit)
  | .int8 values, _, hfit, henc => by
    cases henc
    exact reads_copyinLeSigned_map 1 (by decide) .int8 Int8.toInt Int8.ofInt Int8.ofInt_toInt
      (fun v => by simpa using v.le_toInt) (fun v => by simpa using v.toInt_lt)
      (by simpa [ValueArray.fits] using hfit)
  | .int16 values, _, hfit, henc => by
    cases henc
    exact reads_copyinLeSigned_map 2 (by decide) .int16 Int16.toInt Int16.ofInt Int16.ofInt_toInt
      (fun v => by simpa using v.le_toInt) (fun v => by simpa using v.toInt_lt)
      (by simpa [ValueArray.fits] using hfit)
  | .int32 values, _, hfit, henc => by
    cases henc
    exact reads_copyinLeSigned_map 4 (by decide) .int32 Int32.toInt Int32.ofInt Int32.ofInt_toInt
      (fun v => by simpa using v.le_toInt) (fun v => by simpa using v.toInt_lt)
      (by simpa [ValueArray.fits] using hfit)
  | .int64 values, _, hfit, henc => by
    cases henc
    exact reads_copyinLeSigned_map 8 (by decide) .int64 Int64.toInt Int64.ofInt Int64.ofInt_toInt
      (fun v => by simpa using v.le_toInt) (fun v => by simpa using v.toInt_lt)
      (by simpa [ValueArray.fits] using hfit)
  | .int128 values, _, hfit, henc => by
    cases henc
    exact reads_copyinLe_map 16 .int128 BitVec.toNat (BitVec.ofNat 128) (fun v _ => by simp)
      (fun v _ => by simpa using v.isLt) (by simpa [ValueArray.fits] using hfit)
  | .float32 bits, _, hfit, henc => by
    cases henc
    exact reads_copyinLe_map 4 .float32 UInt32.toNat Nat.toUInt32 (fun v _ => by simp)
      (fun v _ => by simpa using v.toNat_lt) (by simpa [ValueArray.fits] using hfit)
  | .float64 bits, _, hfit, henc => by
    cases henc
    exact reads_copyinLe_map 8 .float64 UInt64.toNat Nat.toUInt64 (fun v _ => by simp)
      (fun v _ => by simpa using v.toNat_lt) (by simpa [ValueArray.fits] using hfit)
  | .string values, _, hfit, henc => by
    cases henc
    simp only [ValueArray.fits, List.all_eq_true, decide_eq_true_eq] at hfit
    refine (Reads.mapM (List.forall₂_iff_zip.mpr ⟨by simp [ValueArray.len], fun hmem => ?_⟩)).map
      ValueArray.string
    exact Str.reads_decode_encode (hfit _ (List.of_mem_zip hmem).2)
  | .uuid values, _, hfit, henc => by
    cases henc
    exact reads_copyinPod_map _ _ .uuid (fun _ => by simp) (fun v _ => uuid_halves v)
      (by simpa [ValueArray.fits] using hfit)
  | .ipv4 values, _, hfit, henc => by
    cases henc
    exact reads_copyinLe_map 4 .ipv4 UInt32.toNat Nat.toUInt32 (fun v _ => by simp)
      (fun v _ => by simpa using v.toNat_lt) (by simpa [ValueArray.fits] using hfit)
  | .ipv6 values, _, hfit, henc => by
    cases henc
    exact reads_copyinPod_map _ _ .ipv6 (fun _ => by simp) (fun v _ => ipv6_octets v)
      (by simpa [ValueArray.fits] using hfit)
  | .date days, _, hfit, henc => by
    obtain ⟨rfl, hdays⟩ := encodeEach_eq_ok (ite_fits_eq_ok (c := fitsUnsigned 16)
      (g := fun d => toLe 2 d.toNat)) henc
    simp only [fitsUnsigned, Bool.and_eq_true, decide_eq_true_eq] at hdays
    exact reads_copyinLe_map 2 .date Int.toNat Int.ofNat (fun d hd => Int.toNat_of_nonneg (hdays d hd).1)
      (fun d hd => by have := hdays d hd; omega) (by simpa [ValueArray.fits] using hfit)
  | .dateTime tz values, _, hfit, henc => by
    obtain ⟨rfl, hsec⟩ := encodeEach_eq_ok
      (ite_fits_eq_ok (c := fun t : Int => fitsUnsigned 32 (t / 10 ^ 9))
        (g := fun t : Int => toLe 4 (Int.toNat (t / 10 ^ 9)))) henc
    simp only [ValueArray.fits, Bool.and_eq_true, decide_eq_true_eq, List.all_eq_true,
      beq_iff_eq] at hfit
    obtain ⟨hn, hall⟩ := hfit
    simp only [fitsUnsigned, Bool.and_eq_true, decide_eq_true_eq] at hsec
    have hsecs := reads_copyinLe 4 (values.map fun t => (t / 10 ^ 9).toNat)
      (by simpa using fun t ht => by have := hsec t ht; omega) (by simpa using hn)
    rw [List.flatMap_map, List.length_map] at hsecs
    refine hsecs.bind_last ((Reads.mapM_nil ?_).bind_nil (Reads.pure _))
    -- the seconds are cast to `i64` in the list monad
    simp only [List.pure_def, List.bind_eq_flatMap, ← List.map_eq_flatMap, List.map_map]
    refine List.forall₂_map_left_iff.mpr (List.forall₂_same.mpr fun t ht => ?_)
    -- a whole second in range is its own instant
    have hinst : timestampOpt env (((t / 10 ^ 9).toNat : Int) * 10 ^ 9) = some t := by
      have hpos := (hsec t ht).1
      have hmod := (hall t ht).1
      rw [Int.toNat_of_nonneg hpos, Int.ediv_mul_cancel (Int.dvd_of_emod_eq_zero hmod)]
      simp [timestampOpt, (hall t ht).2]
    rw [Function.comp_apply, hinst]
    exact Decode.reads_unwrap t
  | .dateTime64 precision tz values, _, hfit, henc => by
    obtain ⟨rfl, hscale⟩ := encodeEach_eq_ok
      (g := fun t : Int => toLeSigned 8 ((scale precision t).getD 0))
      (c := fun t : Int => ∃ ts, scale precision t = some ts) (fun t p h => by
        rcases hs : scale precision t with _ | ts
        · simp [hs] at h
        · simp only [hs] at h
          exact ⟨(Except.ok.inj h).symm, ts, rfl⟩) henc
    simp only [ValueArray.fits, Bool.and_eq_true, decide_eq_true_eq, List.all_eq_true] at hfit
    obtain ⟨hn, hall⟩ := hfit
    -- each count is one `scale` wrote, an `i64` that `as_conv` takes back to the instant
    have hconv : ∀ t ∈ values, asConv env precision ((scale precision t).getD 0) = some t ∧
        isI64 ((scale precision t).getD 0) = true := by
      intro t ht
      obtain ⟨ts, hts⟩ := hscale t ht
      rw [hts, Option.getD_some]
      exact asConv_of_scale hts (hall t ht)
    have hi64 : ∀ c ∈ values.map fun t => (scale precision t).getD 0,
        -2 ^ (8 * 8 - 1) ≤ c ∧ c < 2 ^ (8 * 8 - 1) := by
      intro c hc
      obtain ⟨t, ht, rfl⟩ := List.mem_map.mp hc
      have := (hconv t ht).2
      simp only [isI64, Bool.and_eq_true, decide_eq_true_eq] at this
      exact this
    have hcounts := reads_copyinLeSigned 8 (by omega)
      (values.map fun t => (scale precision t).getD 0) (fun c hc => (hi64 c hc).1)
      (fun c hc => (hi64 c hc).2) (by simpa using hn)
    rw [List.flatMap_map, List.length_map] at hcounts
    refine hcounts.bind_last ((Reads.mapM_nil ?_).bind_nil (Reads.pure _))
    refine List.forall₂_map_left_iff.mpr (List.forall₂_same.mpr fun t ht => ?_)
    rw [(hconv t ht).1]
    exact Decode.reads_unwrap t
  | .nullable isNull values, _, hfit, henc => by
    obtain ⟨rest, hrest, henc⟩ := Except.bind_eq_ok_iff.mp henc
    cases henc
    simp only [ValueArray.fits, Bool.and_eq_true, beq_iff_eq, decide_eq_true_eq,
      Bool.not_eq_true'] at hfit
    obtain ⟨⟨⟨hlen, hn⟩, hnn⟩, hvalues⟩ := hfit
    have hmask := reads_copyinLe 1
      (isNull.map fun b => (if b then 1 else 0 : UInt8).toNat)
      (fun v hv => by obtain ⟨b, _, rfl⟩ := List.mem_map.mp hv; simpa using UInt8.toNat_lt _)
      (by simpa using hn)
    rw [List.flatMap_map, flatMap_toLe_one, List.length_map, hlen] at hmask
    have h : Reads (decodeValueArray env (ValueArray.nullable isNull values).dataType
        (ValueArray.nullable isNull values).len) (isNull.map (fun b => if b then 1 else 0) ++ rest)
        (.nullable ((isNull.map fun b => (if b then 1 else 0 : UInt8).toNat).map (· != 0)) values) := by
      refine hmask.bind ?_
      -- the inner type is not nullable, so the assertion passes
      rw [if_neg (by simp [hnn])]
      exact (reads_decodeValueArray env values hvalues hrest).bind_last (Reads.pure _)
    rwa [map_ne_zero_mask] at h
  | .enum8 variants values, _, hfit, henc => by
    cases henc
    exact reads_copyinLeSigned_map 1 (by decide) (.enum8 variants) Int8.toInt Int8.ofInt
      Int8.ofInt_toInt (fun v => by simpa using v.le_toInt) (fun v => by simpa using v.toInt_lt)
      (by simpa [ValueArray.fits] using hfit)
  | .array innerType arrays, _, hfit, henc => by
    obtain ⟨rest, hrest, henc⟩ := Except.bind_eq_ok_iff.mp henc
    cases henc
    simp only [ValueArray.fits, Bool.and_eq_true, decide_eq_true_eq, Bool.not_eq_true'] at hfit
    obtain ⟨⟨⟨hne, hn⟩, hsum⟩, hall⟩ := hfit
    rw [encodeArrayOffsets_of_ne_nil hne]
    -- the offsets are the running sums, all within the total
    have hoff := reads_copyinLe 8 (offsetsFrom 0 arrays)
      (fun o ho => by have := le_of_mem_offsetsFrom 0 arrays o ho; simp only [Nat.zero_add] at this; norm_num; omega)
      (by rw [length_offsetsFrom]; exact hn)
    rw [length_offsetsFrom] at hoff
    refine hoff.bind ?_
    exact (reads_decodeArrays env innerType arrays 0 hall hrest).bind_last (Reads.pure _)
  termination_by structural v => v

/-- The arrays of an `Array` column read back from their offsets, from `current` on. -/
theorem reads_decodeArrays (env : Env) (innerType : DataType) :
    ∀ (arrays : List ValueArray) (current : Nat) {bytes : List UInt8},
    ValueArray.fitsAll env innerType arrays = true → encodeArrays arrays = .ok bytes →
    Reads (decodeArrays (decodeValueArray env innerType) current (offsetsFrom current arrays))
      bytes arrays
  | [], _, _, _, henc => by
    cases henc
    exact Reads.pure _
  | arr :: arrays, current, _, hfit, henc => by
    simp only [ValueArray.fitsAll, Bool.and_eq_true, beq_iff_eq] at hfit
    obtain ⟨⟨rfl, harr⟩, harrays⟩ := hfit
    obtain ⟨first, hfirst, henc⟩ := Except.bind_eq_ok_iff.mp henc
    obtain ⟨rest, hrest, henc⟩ := Except.bind_eq_ok_iff.mp henc
    cases henc
    exact reads_decodeArrays_cons (reads_decodeValueArray env arr harr hfirst)
      (reads_decodeArrays env arr.dataType arrays (current + arr.len) harrays hrest)
  termination_by structural arrays => arrays

end

/-! ## 5. Columns and blocks -/

/-- What the decoder needs of a column of a block of `nRows` rows: its name and its type's text
    within the length a varuint carries, its type the one of its values and one that reads back
    from its text, its length the block's, and its values fit. -/
def Column.fits (env : Env) (nRows : Nat) (name : String) (col : Column) : Bool :=
  name.utf8ByteSize < 2 ^ 64 && col.dataType.text.utf8ByteSize < 2 ^ 64 &&
    col.dataType == col.values.dataType && col.dataType.wellNamed env &&
    !col.dataType.hasNestedDate && col.len == nRows && col.values.fits env

/-- **A column reads back**: its name, its type through its text, and its values. -/
theorem Column.reads_decode_encode {env : Env} {nRows : Nat} {name : String} {col : Column}
    {bytes : List UInt8} (hfit : Column.fits env nRows name col = true)
    (henc : Column.encode name col = .ok bytes) : Reads (Column.decode env nRows) bytes (name, col) := by
  simp only [Column.fits, Bool.and_eq_true, decide_eq_true_eq, beq_iff_eq,
    Bool.not_eq_true'] at hfit
  obtain ⟨⟨⟨⟨⟨⟨hname, htext⟩, htype⟩, hwell⟩, hnd⟩, rfl⟩, hvalues⟩ := hfit
  unfold Column.encode at henc
  split at henc
  · cases henc
  split at henc
  · next values hvals =>
    cases henc
    simp only [List.append_assoc]
    unfold Column.decode
    refine (Str.reads_decode_encode hname).bind ((Str.reads_decode_encode htext).bind ?_)
    rw [DataType.fromStr_text env hwell hnd]
    refine (Decode.reads_liftError _).bind_nil (Decode.reads_ensure_bind (by simp) ?_)
    refine (Decode.reads_getU8 0).bind ?_
    -- the serialization byte is `0`: no custom serialization
    rw [if_neg (by decide)]
    have hread := reads_decodeValueArray env col.values hvalues hvals
    rw [← htype] at hread
    exact hread.bind_last (Reads.pure _)
  · cases henc

/-- `encode_block_info` reads back: the two field numbers, the flag and the bucket. -/
theorem reads_decodeBlockInfo (info : BlockInfo) : Reads decodeBlockInfo (encodeBlockInfo info) info := by
  simp only [encodeBlockInfo, List.append_assoc]
  unfold decodeBlockInfo
  refine (Varuint.reads_decode_encode _).bind ?_
  rw [if_neg (by decide)]
  refine Decode.reads_ensure_bind (by simp) ((Decode.reads_getU8 _).bind ?_)
  refine (Varuint.reads_decode_encode _).bind ?_
  rw [if_neg (by decide)]
  refine Decode.reads_ensure_bind (by simp) ?_
  have hbytes := Decode.reads_getBytes (toLeSigned 4 info.bucketNum.toInt)
  rw [length_toLeSigned] at hbytes
  refine hbytes.bind ((Decode.reads_getU8 0).bind ?_)
  have hbucket : Int32.ofInt (ofLeSigned 4 (toLeSigned 4 info.bucketNum.toInt)) = info.bucketNum := by
    rw [ofLeSigned_toLeSigned (by omega) (by simpa using info.bucketNum.le_toInt)
      (by simpa using info.bucketNum.toInt_lt), Int32.ofInt_toInt]
  have hflag : ((if info.isOverflows then 1 else 0 : UInt8) == 1) = info.isOverflows := by
    cases info.isOverflows <;> rfl
  rw [hbucket, hflag]
  exact Reads.pure _

/-- What the decoder needs of a block: its name within a varuint's length, its counts within a
    `u64`, distinct column names (the keys of its `IndexMap`), and columns that read back at its
    number of rows. -/
def Block.fits (env : Env) (b : Block) : Bool :=
  b.name.utf8ByteSize < 2 ^ 64 && b.nColumns < 2 ^ 64 && b.nRows < 2 ^ 64 &&
    (b.columns.map Prod.fst).Nodup && b.columns.all fun c => Column.fits env b.nRows c.1 c.2

/-- The loop of `io::block::decode` over columns with distinct names: each round reads one
    column and appends it, whatever the loop's indices. -/
theorem reads_foldlM_columns {env : Env} {nRows : Nat}
    {step : List (String × Column) → Nat → Decode (List (String × Column))}
    (hstep : ∀ acc i c bs, c.1 ∉ acc.map Prod.fst → Reads (Column.decode env nRows) bs c →
      Reads (step acc i) bs (acc ++ [c])) :
    ∀ (indices : List Nat) (cols : List (String × Column)) (parts : List (List UInt8))
      (acc : List (String × Column)), indices.length = cols.length →
      ((acc ++ cols).map Prod.fst).Nodup →
      List.Forall₂ (fun c bs => Reads (Column.decode env nRows) bs c) cols parts →
      Reads (indices.foldlM step acc) parts.flatten (acc ++ cols)
  | [], [], [], acc, _, _, _ => by
    rw [List.append_nil]
    exact Reads.foldlM_nil _ _
  | i :: indices, c :: cols, bs :: parts, acc, hlen, hnodup, .cons hc hcols => by
    have hnot : c.1 ∉ acc.map Prod.fst := by
      simp only [List.map_append, List.map_cons, List.nodup_append, List.nodup_cons] at hnodup
      exact fun hmem => hnodup.2.2 c.1 hmem c.1 List.mem_cons_self rfl
    have hrest := reads_foldlM_columns hstep indices cols parts (acc ++ [c]) (by simpa using hlen)
      (by simpa using hnodup) hcols
    rw [List.flatten_cons, List.append_assoc] at *
    exact Reads.foldlM_cons (hstep acc i c bs hnot hc) hrest

/-- **`io::block::decode` reads back what `io::block::encode` writes**, and leaves whatever
    follows, for every block that `fits`: its name, its info, and every column in order, each
    with its name, its type and its values. -/
theorem Block.reads_decode_encode_of_fits {env : Env} {b : Block} {bytes : List UInt8}
    (hfit : b.fits env = true) (henc : b.encode = .ok bytes) : Reads (Block.decode env) bytes b := by
  simp only [Block.fits, Bool.and_eq_true, decide_eq_true_eq, List.all_eq_true] at hfit
  obtain ⟨⟨⟨⟨hname, hcols⟩, hrows⟩, hnodup⟩, hcolumns⟩ := hfit
  unfold Block.encode at henc
  split at henc
  · cases henc
  obtain ⟨parts, hparts, henc⟩ := Except.bind_eq_ok_iff.mp henc
  cases henc
  have hnc : b.nColumns.toUInt64.toNat = b.nColumns := by
    rw [Nat.toUInt64_eq, UInt64.toNat_ofNat', Nat.mod_eq_of_lt hcols]
  have hnr : b.nRows.toUInt64.toNat = b.nRows := by
    rw [Nat.toUInt64_eq, UInt64.toNat_ofNat', Nat.mod_eq_of_lt hrows]
  -- every column reads back at the block's number of rows
  have hreads : List.Forall₂ (fun c bs => Reads (Column.decode env b.nRows) bs c) b.columns parts := by
    obtain ⟨hlen, hzip⟩ := List.forall₂_iff_zip.mp (Except.forall₂_of_mapM_eq_ok hparts)
    refine List.forall₂_iff_zip.mpr ⟨hlen, fun {c bs} hmem => ?_⟩
    obtain ⟨name, col⟩ := c
    exact Column.reads_decode_encode (hcolumns (name, col) (List.of_mem_zip hmem).1) (hzip hmem)
  simp only [List.append_assoc]
  unfold Block.decode
  refine (Str.reads_decode_encode hname).bind ((reads_decodeBlockInfo b.info).bind
    ((Varuint.reads_decode_encode _).bind ((Varuint.reads_decode_encode _).bind ?_)))
  rw [hnc, hnr]
  refine (reads_foldlM_columns ?_ (List.range b.nColumns) b.columns parts [] (by simp [Block.nColumns])
    (by simpa using hnodup) hreads).bind_last ?_
  · -- a round inserts a new name, which goes last
    intro acc i c bs hnot hc
    obtain ⟨name, col⟩ := c
    refine hc.bind_last ?_
    dsimp only
    rw [IndexMap.insert_of_not_mem hnot]
    exact Reads.pure _
  · rw [List.nil_append]
    exact Reads.pure _

/-- A block of two rows: a `UInt16` column, and an `Array(String)` column whose second row is an
    empty array. -/
def twoRowBlock : Block :=
  ⟨"b", default, [("x", ⟨.uInt16 [1, 2], .uInt16⟩),
    ("s", ⟨.array .string [.string ["a"], .string []], .array .string⟩)]⟩

/-- An environment where every zone is known and every instant is representable. -/
def everyZone : Env := ⟨fun _ => true, "UTC", fun _ => true⟩

theorem Block.reads_decode_encode_twoRowBlock :
    ∃ bytes, twoRowBlock.encode = .ok bytes ∧ twoRowBlock.fits everyZone = true ∧
      Reads (Block.decode everyZone) bytes twoRowBlock :=
  ⟨_, rfl, by decide, Block.reads_decode_encode_of_fits (by decide) rfl⟩

end Omicron.Native
