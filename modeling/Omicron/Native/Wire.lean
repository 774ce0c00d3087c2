import Omicron.Lib.PrefixDecoder

/-!
# ClickHouse native protocol: the wire

The pieces every decoder of `native::io` is built from.

* `Error` -- `native::Error`, with the variants the codec raises;
* `Decode` -- a decoder reads a prefix of the buffer (`src: &mut &[u8]`) and leaves the rest. It
  stops without a value in three ways (`Stop`): the buffer holds only part of what it decodes
  (the source's `Ok(None)`, or `None` from a decoder returning an `Option`), an error, or a
  panic. Every caller of a decoder passes `Ok(None)` on at once, so it is one outcome here.
  Each decoder reads a prefix in the sense of `ReadsPrefix`: bytes after what it reads do not
  change what it decodes;
* `Varuint` -- `io::varuint`, seven bits a byte with a continuation bit; its decoder reaches
  `unreachable!()` after ten continuation bytes (`Varuint.decode_panics`);
* `Str` -- `io::string`, a varuint length and UTF-8 bytes;
* `IndexMap.insert` -- an `IndexMap` is the list of its entries in insertion order.

Integer arithmetic is that of a build with overflow checks (a debug build): an overflow panics.
-/

namespace Omicron.Native

/-- `native::Error`, the variants the codec raises. An `OutOfRange` error is kept without the
    text of the value out of range, which `chrono` renders in the value's time zone. -/
inductive Error where
  | unrecognizedServerPacket (kind : UInt8)
  | invalidPacket (kind : String) (msg : String)
  | nonUtf8String
  | unsupportedDataType (s : String)
  | unsupportedProtocolFeature (feature : String)
  | outOfRange (typeName min max : String)
  | blockTooLarge
  deriving DecidableEq, Repr

/-- Why a decoder stops without a value. -/
inductive Stop where
  /-- `Ok(None)`: more bytes are needed. -/
  | needMore
  | error (e : Error)
  | panic
  deriving DecidableEq, Repr

/-- A decoder over the buffer it reads from. -/
abbrev Decode (α : Type) := StateT (List UInt8) (Except Stop) α

namespace Decode

/-- `if src.remaining() < n { return Ok(None) }`; for `n = 1`, `if !src.has_remaining()`. -/
def ensure (n : Nat) : Decode Unit := fun s =>
  if n ≤ s.length then .ok ((), s) else .error .needMore

/-- `Buf::get_u8`, which panics on an empty buffer. -/
def getU8 : Decode UInt8 := fun s =>
  match s with
  | [] => .error .panic
  | b :: rest => .ok (b, rest)

/-- `split_at_checked(n)` and `*src = rest`: the next `n` bytes; the callers return `Ok(None)`
    when fewer remain. -/
def takeBytes (n : Nat) : Decode (List UInt8) := fun s =>
  if n ≤ s.length then .ok (s.take n, s.drop n) else .error .needMore

/-- `Buf::copy_to_slice` of `n` bytes, and `Buf::get_*_le` of an `n`-byte integer: these panic
    when fewer remain. -/
def getBytes (n : Nat) : Decode (List UInt8) := fun s =>
  if n ≤ s.length then .ok (s.take n, s.drop n) else .error .panic

/-- `Option::unwrap`, which panics on `None`. -/
def unwrap {α : Type} : Option α → Decode α
  | some a => pure a
  | none => throw .panic

/-- A `Result` of a function that reads no bytes, its error passed on with `?`. -/
def liftError {α : Type} : Except Error α → Decode α
  | .ok a => pure a
  | .error e => throw (.error e)

@[simp] theorem run_getU8_cons (b : UInt8) (rest : List UInt8) :
    getU8.run (b :: rest) = .ok (b, rest) := rfl

@[simp] theorem run_ensure_of_le {n : Nat} {s : List UInt8} (h : n ≤ s.length) :
    (ensure n).run s = .ok ((), s) := by
  simp [ensure, StateT.run, h]

theorem ensure_readsPrefix (n : Nat) : ReadsPrefix (ensure n) := by
  intro l r u rest h
  simp only [StateT.run, ensure] at h ⊢
  split at h
  · obtain ⟨rfl, rfl⟩ := Prod.mk.inj (Except.ok.inj h)
    rw [if_pos (by simp; omega)]
  · cases h

theorem getU8_readsPrefix : ReadsPrefix getU8 := by
  rintro (_ | ⟨b, l⟩) r a rest h
  · cases h
  · obtain ⟨rfl, rfl⟩ := Prod.mk.inj (Except.ok.inj h)
    rfl

theorem unwrap_readsPrefix {α : Type} (o : Option α) : ReadsPrefix (unwrap o) := by
  cases o
  · exact ReadsPrefix.throw _
  · exact ReadsPrefix.pure _

theorem liftError_readsPrefix {α : Type} (x : Except Error α) : ReadsPrefix (liftError x) := by
  cases x
  · exact ReadsPrefix.throw _
  · exact ReadsPrefix.pure _

/-- A read of `n` bytes that stops with `stop` when fewer remain reads a prefix. -/
theorem readsPrefix_of_take (n : Nat) (stop : Stop) :
    ReadsPrefix (fun s => if n ≤ s.length then .ok (s.take n, s.drop n) else .error stop :
      Decode (List UInt8)) := by
  intro l r a rest h
  simp only [StateT.run] at h ⊢
  split at h
  · next hn =>
    obtain ⟨rfl, rfl⟩ := Prod.mk.inj (Except.ok.inj h)
    rw [if_pos (by simp; omega), List.take_append_of_le_length hn,
      List.drop_append_of_le_length hn]
  · cases h

theorem takeBytes_readsPrefix (n : Nat) : ReadsPrefix (takeBytes n) :=
  readsPrefix_of_take n .needMore

theorem getBytes_readsPrefix (n : Nat) : ReadsPrefix (getBytes n) :=
  readsPrefix_of_take n .panic

/-! ### What each primitive reads -/

theorem reads_getU8 (b : UInt8) : Reads getU8 [b] b := fun _ => rfl

theorem reads_getBytes (bs : List UInt8) : Reads (getBytes bs.length) bs bs := by
  intro rest
  simp [getBytes, StateT.run]

theorem reads_takeBytes (bs : List UInt8) : Reads (takeBytes bs.length) bs bs := by
  intro rest
  simp [takeBytes, StateT.run]

/-- The check that `n` bytes remain passes before a decoder that reads at least `n`. -/
theorem reads_ensure_bind {α : Type} {k : Unit → Decode α} {n : Nat} {bs : List UInt8} {a : α}
    (hn : n ≤ bs.length) (hk : Reads (k ()) bs a) : Reads (ensure n >>= k) bs a := by
  intro rest
  have hens : (ensure n).run (bs ++ rest) = .ok ((), bs ++ rest) :=
    run_ensure_of_le (by simp only [List.length_append]; omega)
  exact ReadsPrefix.run_bind_eq_ok.mpr ⟨(), _, hens, hk rest⟩

theorem reads_unwrap {α : Type} (a : α) : Reads (unwrap (some a)) [] a := Reads.pure a

theorem reads_liftError {α : Type} (a : α) : Reads (liftError (.ok a)) [] a := Reads.pure a

end Decode

/-- `IndexMap::insert` on an `IndexMap`'s entries in order: a key already present keeps its place
    and takes the new value, a new key goes last. -/
def IndexMap.insert {K V : Type} [BEq K] (map : List (K × V)) (k : K) (v : V) : List (K × V) :=
  if map.any (·.1 == k) then map.map fun e => if e.1 == k then (k, v) else e
  else map ++ [(k, v)]

/-! ## Little-endian integers -/

/-- The number whose little-endian bytes are `bs`. -/
def ofLe (bs : List UInt8) : Nat := bs.foldr (fun b acc => b.toNat + 256 * acc) 0

/-- The `width` little-endian bytes of `n` (`to_le_bytes`, `put_*_le`). -/
def toLe (width n : Nat) : List UInt8 := (List.range width).map fun i => (n / 256 ^ i % 256).toUInt8

/-- The signed value of `width` little-endian bytes in two's complement. -/
def ofLeSigned (width : Nat) (bs : List UInt8) : Int :=
  let n := ofLe bs
  if n < 2 ^ (8 * width - 1) then n else (n : Int) - 2 ^ (8 * width)

/-- The `width` little-endian bytes of `x` in two's complement. -/
def toLeSigned (width : Nat) (x : Int) : List UInt8 := toLe width (x % 2 ^ (8 * width)).toNat

@[simp] theorem ofLe_cons (b : UInt8) (bs : List UInt8) :
    ofLe (b :: bs) = b.toNat + 256 * ofLe bs :=
  rfl

theorem toLe_succ (width n : Nat) :
    toLe (width + 1) n = (n % 256).toUInt8 :: toLe width (n / 256) := by
  simp only [toLe, List.range_succ_eq_map, List.map_cons, List.map_map, Nat.pow_zero, Nat.div_one,
    List.cons.injEq, true_and]
  refine List.map_congr_left fun i _ => ?_
  simp [Nat.pow_succ', Nat.div_div_eq_div_mul]

@[simp] theorem length_toLe (width n : Nat) : (toLe width n).length = width := by
  simp [toLe]

@[simp] theorem length_toLeSigned (width : Nat) (x : Int) : (toLeSigned width x).length = width :=
  length_toLe _ _

/-- **Little-endian bytes read back as the number modulo `256 ^ width`**, by induction on the
    width, one byte a step. -/
theorem ofLe_toLe : ∀ width n, ofLe (toLe width n) = n % 256 ^ width
  | 0, n => by simp [toLe, ofLe, Nat.mod_one]
  | width + 1, n => by
    have hlow : ((n % 256).toUInt8).toNat = n % 256 := by
      simp [Nat.toUInt8]
    rw [toLe_succ, ofLe_cons, ofLe_toLe width, hlow, Nat.pow_succ', Nat.mod_mul]

theorem ofLe_toLe_of_lt {width n : Nat} (h : n < 256 ^ width) : ofLe (toLe width n) = n := by
  rw [ofLe_toLe, Nat.mod_eq_of_lt h]

/-- **Two's complement bytes read back as the number**, for a number of `width` bytes. -/
theorem ofLeSigned_toLeSigned {width : Nat} (hw : 0 < width) {x : Int}
    (hlo : -2 ^ (8 * width - 1) ≤ x) (hhi : x < 2 ^ (8 * width - 1)) :
    ofLeSigned width (toLeSigned width x) = x := by
  have hpow : (2 : Int) ^ (8 * width) = 2 * 2 ^ (8 * width - 1) := by
    rw [← pow_succ']
    congr 1
    omega
  have hpos : (0 : Int) < 2 ^ (8 * width - 1) := by positivity
  -- the residue is `x` itself for `x ≥ 0`, and `x + 2 ^ (8 * width)` below
  have hmod : x % 2 ^ (8 * width) = if 0 ≤ x then x else x + 2 ^ (8 * width) := by
    split
    · exact Int.emod_eq_of_lt (by assumption) (by omega)
    · rw [← Int.add_emod_right]
      exact Int.emod_eq_of_lt (by omega) (by omega)
  have hlt : (x % 2 ^ (8 * width)).toNat < 256 ^ width := by
    have h256 : ((256 ^ width : Nat) : Int) = 2 ^ (8 * width) := by
      push_cast
      rw [pow_mul]
      norm_num
    omega
  unfold ofLeSigned toLeSigned
  dsimp only
  rw [ofLe_toLe_of_lt hlt]
  have hcast : ((2 ^ (8 * width - 1) : Nat) : Int) = 2 ^ (8 * width - 1) := by push_cast; rfl
  split <;> split at hmod <;> omega

/-! ## Varuints -/

namespace Varuint

/-- The loop of `varuint::encode`: seven bits a byte, the continuation bit on all but the last.
    Ten rounds suffice, as a `u64` has 64 bits. -/
def encodeLoop : Nat → UInt64 → List UInt8
  | 0, x => [x.toUInt8 &&& 0x7F]
  | fuel + 1, x =>
    if x > 0x7F then ((x.toUInt8 &&& 0x7F) ||| 0x80) :: encodeLoop fuel (x >>> 7)
    else [x.toUInt8 &&& 0x7F]

/-- `varuint::encode`. -/
def encode (x : UInt64) : List UInt8 := encodeLoop 10 x

/-- The loop of `varuint::decode` with `k` of its `MAX_LEN = 10` rounds left, at round `i`; when
    none is left it reaches `unreachable!()`. -/
def decodeFrom : Nat → Nat → UInt64 → Decode UInt64
  | 0, _, _ => throw .panic
  | k + 1, i, out => do
    Decode.ensure 1
    let x ← Decode.getU8
    let out := out ||| ((x &&& 0x7F).toUInt64 <<< (7 * i).toUInt64)
    if x &&& 0x80 = 0 then pure out else decodeFrom k (i + 1) out

/-- `varuint::decode`. -/
def decode : Decode UInt64 := decodeFrom 10 0 0

/-- The loop reads a prefix: every round reads one byte, and whether it goes on depends on that
    byte alone. -/
theorem decodeFrom_readsPrefix : ∀ k i out, ReadsPrefix (decodeFrom k i out)
  | 0, _, _ => ReadsPrefix.throw _
  | k + 1, i, out => by
    unfold decodeFrom
    refine (Decode.ensure_readsPrefix 1).bind fun _ => Decode.getU8_readsPrefix.bind fun x => ?_
    split
    · exact ReadsPrefix.pure _
    · exact decodeFrom_readsPrefix k _ _

theorem decode_readsPrefix : ReadsPrefix decode := decodeFrom_readsPrefix 10 0 0

/-- A byte with the continuation bit. -/
def Continues (b : UInt8) : Prop := b &&& 0x80 ≠ 0

instance (b : UInt8) : Decidable (Continues b) := inferInstanceAs (Decidable (_ ≠ _))

/-- One round on a continuation byte: the loop goes on with the next. -/
theorem run_decodeFrom_continues {b : UInt8} (hb : Continues b) (k i : Nat) (out : UInt64)
    (rest : List UInt8) :
    (decodeFrom (k + 1) i out).run (b :: rest) =
      (decodeFrom k (i + 1) (out ||| ((b &&& 0x7F).toUInt64 <<< (7 * i).toUInt64))).run rest := by
  have hb' : ¬(b &&& 0x80 = 0) := hb
  simp [decodeFrom, StateT.run, bind, StateT.bind, Except.bind, Decode.ensure, Decode.getU8, hb']

/-- A loop with `k` rounds left panics on `k` continuation bytes, whatever follows. -/
theorem decodeFrom_panics (bs rest : List UInt8) (hc : ∀ b ∈ bs, Continues b) (i : Nat)
    (out : UInt64) : (decodeFrom bs.length i out).run (bs ++ rest) = .error .panic := by
  induction bs generalizing i out with
  | nil => rfl
  | cons b bs ih =>
    rw [List.length_cons, List.cons_append, run_decodeFrom_continues (hc b (by simp))]
    exact ih (fun b' h => hc b' (by simp [h])) _ _

/-- **`varuint::decode` panics on ten continuation bytes**, whatever follows them: the loop reads
    `MAX_LEN` bytes and falls through to `unreachable!()`. -/
theorem decode_panics (bs rest : List UInt8) (hlen : bs.length = 10)
    (hc : ∀ b ∈ bs, Continues b) : decode.run (bs ++ rest) = .error .panic := by
  rw [decode, ← hlen]
  exact decodeFrom_panics bs rest hc 0 0

/-! ### The round trip -/

theorem toNat_and_0x7F (b : UInt8) : (b &&& 0x7F).toNat = b.toNat % 128 := by
  rw [UInt8.toNat_and, show (0x7F : UInt8).toNat = 2 ^ 7 - 1 from rfl,
    Nat.and_two_pow_sub_one_eq_mod]

theorem and_0x80_eq_zero_iff (b : UInt8) : b &&& 0x80 = 0 ↔ b.toNat < 128 := by
  rw [← UInt8.toNat_inj, UInt8.toNat_and, show (0x80 : UInt8).toNat = 2 ^ 7 from rfl,
    Nat.and_two_pow, Nat.testBit_eq_decide_div_mod_eq]
  have hb := b.toNat_lt
  by_cases h : b.toNat < 128
  · simp [show b.toNat / 128 % 2 = 0 by omega, h]
  · simp [show b.toNat / 128 % 2 = 1 by omega, h]

/-- The low seven bits of `y` as the encoder writes them. -/
theorem toNat_low7 (y : UInt64) : (y.toUInt8 &&& 0x7F).toNat = y.toNat % 128 := by
  rw [toNat_and_0x7F, UInt64.toNat_toUInt8]
  omega

/-- The continuation bit set on seven bits. -/
theorem toNat_or_0x80 {b : UInt8} (hb : b.toNat < 128) : (b ||| 0x80).toNat = b.toNat + 128 := by
  rw [UInt8.toNat_or, show (0x80 : UInt8).toNat = 2 ^ 7 * 1 from rfl, Nat.or_comm,
    ← Nat.two_pow_add_eq_or_of_lt hb]
  omega

/-- One round of the decoder adds the byte's seven bits at bit `7 * i`. -/
theorem toNat_or_shift {out : UInt64} {b : UInt8} {i : Nat} (hi : i ≤ 9)
    (hout : out.toNat < 2 ^ (7 * i)) (hfit : out.toNat + b.toNat % 128 * 2 ^ (7 * i) < 2 ^ 64) :
    (out ||| ((b &&& 0x7F).toUInt64 <<< (7 * i).toUInt64)).toNat =
      out.toNat + b.toNat % 128 * 2 ^ (7 * i) := by
  have hshift :
      ((b &&& 0x7F).toUInt64 <<< (7 * i).toUInt64).toNat = b.toNat % 128 * 2 ^ (7 * i) := by
    rw [UInt64.toNat_shiftLeft, UInt8.toNat_toUInt64, toNat_and_0x7F, Nat.toUInt64_eq,
      UInt64.toNat_ofNat', Nat.mod_eq_of_lt (by omega : 7 * i < 2 ^ 64),
      Nat.mod_eq_of_lt (by omega : 7 * i < 64), Nat.shiftLeft_eq, Nat.mod_eq_of_lt (by omega)]
  rw [UInt64.toNat_or, hshift, Nat.or_comm, Nat.mul_comm, ← Nat.two_pow_add_eq_or_of_lt hout]
  omega

theorem encodeLoop_of_lt {y : UInt64} (hy : y.toNat < 128) (fuel : Nat) :
    encodeLoop fuel y = [y.toUInt8 &&& 0x7F] := by
  have hle : ¬y > 0x7F := by
    show ¬(0x7F : UInt64) < y
    rw [UInt64.lt_iff_toNat_lt]
    show ¬127 < y.toNat
    omega
  cases fuel <;> simp [encodeLoop, hle]

theorem encodeLoop_succ_of_le {y : UInt64} (hy : 128 ≤ y.toNat) (fuel : Nat) :
    encodeLoop (fuel + 1) y = ((y.toUInt8 &&& 0x7F) ||| 0x80) :: encodeLoop fuel (y >>> 7) := by
  have hgt : y > 0x7F := by
    show (0x7F : UInt64) < y
    rw [UInt64.lt_iff_toNat_lt]
    show 127 < y.toNat
    omega
  simp [encodeLoop, hgt]

/-- One round of the decoder on the byte `b`. -/
theorem reads_decodeFrom_cons {k i : Nat} {out v : UInt64} {b : UInt8} {bs : List UInt8}
    (h : Reads (if b &&& 0x80 = 0 then pure (out ||| ((b &&& 0x7F).toUInt64 <<< (7 * i).toUInt64))
      else decodeFrom k (i + 1) (out ||| ((b &&& 0x7F).toUInt64 <<< (7 * i).toUInt64))) bs v) :
    Reads (decodeFrom (k + 1) i out) (b :: bs) v := by
  rw [decodeFrom]
  exact Decode.reads_ensure_bind (by simp) ((Decode.reads_getU8 b).bind h)

/-- The last byte: seven bits or fewer are left, written without the continuation bit. -/
theorem reads_decodeFrom_last {k fuel i : Nat} {out y : UInt64} (hi : i ≤ 9) (hlow : y.toNat < 128)
    (hout : out.toNat < 2 ^ (7 * i)) (hfit : out.toNat + y.toNat * 2 ^ (7 * i) < 2 ^ 64) :
    Reads (decodeFrom (k + 1) i out) (encodeLoop fuel y)
      (UInt64.ofNat (out.toNat + y.toNat * 2 ^ (7 * i))) := by
  have hbyte : (y.toUInt8 &&& 0x7F).toNat % 128 = y.toNat := by
    rw [toNat_low7, Nat.mod_mod, Nat.mod_eq_of_lt hlow]
  rw [encodeLoop_of_lt hlow]
  refine reads_decodeFrom_cons ?_
  rw [if_pos ((and_0x80_eq_zero_iff _).mpr (by rw [toNat_low7]; omega))]
  have hval := toNat_or_shift (b := y.toUInt8 &&& 0x7F) hi hout (by rw [hbyte]; exact hfit)
  rw [hbyte] at hval
  rw [← hval, UInt64.ofNat_toNat]
  exact Reads.pure _

/-- The decoder's loop reads back the encoder's, by induction on the rounds left: at round `i`
    the decoder holds the low `7 * i` bits in `out` and the encoder has the rest in `y`. -/
theorem reads_decodeFrom_encodeLoop (k : Nat) :
    ∀ {fuel i : Nat} {out y : UInt64}, k ≤ fuel → i + k ≤ 9 → y.toNat < 2 ^ (7 * (k + 1)) →
      out.toNat < 2 ^ (7 * i) → out.toNat + y.toNat * 2 ^ (7 * i) < 2 ^ 64 →
      Reads (decodeFrom (k + 1) i out) (encodeLoop fuel y)
        (UInt64.ofNat (out.toNat + y.toNat * 2 ^ (7 * i))) := by
  induction k with
  | zero =>
    intro fuel i out y _ hi hy hout hfit
    exact reads_decodeFrom_last (by omega) (by simpa using hy) hout hfit
  | succ k ih =>
    intro fuel i out y hk hi hy hout hfit
    by_cases hlow : y.toNat < 128
    · exact reads_decodeFrom_last (by omega) hlow hout hfit
    obtain ⟨fuel, rfl⟩ : ∃ f, fuel = f + 1 := ⟨fuel - 1, by omega⟩
    rw [encodeLoop_succ_of_le (by omega)]
    refine reads_decodeFrom_cons ?_
    have hbyte : ((y.toUInt8 &&& 0x7F) ||| 0x80).toNat = y.toNat % 128 + 128 := by
      rw [toNat_or_0x80 (by rw [toNat_low7]; omega), toNat_low7]
    rw [if_neg (by rw [and_0x80_eq_zero_iff, hbyte]; omega)]
    -- the round adds the low seven bits of `y`; the rest of `y` goes on at bit `7 * (i + 1)`
    have hmul : 2 ^ (7 * (i + 1)) = 128 * 2 ^ (7 * i) := by
      rw [Nat.mul_add, Nat.pow_add, Nat.mul_comm]
    have hyP : y.toNat * 2 ^ (7 * i) =
        y.toNat % 128 * 2 ^ (7 * i) + y.toNat / 128 * (128 * 2 ^ (7 * i)) := by
      rw [← Nat.mul_assoc, Nat.mul_comm (y.toNat / 128) 128, ← Nat.add_mul, Nat.mod_add_div]
    have hval := toNat_or_shift (b := (y.toUInt8 &&& 0x7F) ||| 0x80) (by omega) hout
      (by rw [hbyte, Nat.add_mod_right, Nat.mod_mod]; omega)
    rw [hbyte, Nat.add_mod_right, Nat.mod_mod] at hval
    have hshr : (y >>> 7).toNat = y.toNat / 128 := by
      rw [UInt64.toNat_shiftRight]
      simp [Nat.shiftRight_eq_div_pow]
    have hvalue : (out ||| ((((y.toUInt8 &&& 0x7F) ||| 0x80) &&& 0x7F).toUInt64 <<<
          (7 * i).toUInt64)).toNat + (y >>> 7).toNat * 2 ^ (7 * (i + 1)) =
        out.toNat + y.toNat * 2 ^ (7 * i) := by
      rw [hval, hshr, hmul, hyP]
      omega
    have hpow : 2 ^ (7 * (k + 1 + 1)) = 2 ^ (7 * (k + 1)) * 128 := by
      rw [show 7 * (k + 1 + 1) = 7 * (k + 1) + 7 by omega, Nat.pow_add]
    have hlow7 : y.toNat % 128 * 2 ^ (7 * i) ≤ 127 * 2 ^ (7 * i) :=
      Nat.mul_le_mul_right _ (by omega)
    rw [← hvalue]
    exact ih (by omega) (by omega)
      (by rw [hshr, Nat.div_lt_iff_lt_mul (by omega), ← hpow]; exact hy)
      (by rw [hval, hmul]; omega) (by rw [hvalue]; exact hfit)

/-- **`varuint::decode` reads back what `varuint::encode` writes**, whatever follows: ten rounds
    of seven bits hold a `u64`. -/
theorem reads_decode_encode (x : UInt64) : Reads decode (encode x) x := by
  have hx := x.toNat_lt
  have h := @reads_decodeFrom_encodeLoop 9 10 0 0 x (by omega)
    (by omega) (by omega) (by simp) (by simpa using hx)
  rw [decode, encode]
  simpa using h

end Varuint

/-! ## Strings -/

namespace Str

/-- `string::encode`: the byte length as a varuint, then the UTF-8 bytes. -/
def encode (s : String) : List UInt8 :=
  Varuint.encode s.utf8ByteSize.toUInt64 ++ s.toUTF8.data.toList

/-- `string::decode`: `Ok(None)` when the bytes are not all there, `NonUtf8String` when they are
    not UTF-8. -/
def decode : Decode String := do
  let len := (← Varuint.decode).toNat
  Decode.ensure len
  let bytes ← Decode.getBytes len
  match String.fromUTF8? ⟨bytes.toArray⟩ with
  | some s => pure s
  | none => throw (.error .nonUtf8String)

/-- The string decoder reads a prefix: the length, then that many bytes. -/
theorem decode_readsPrefix : ReadsPrefix decode := by
  unfold decode
  refine Varuint.decode_readsPrefix.bind fun len => (Decode.ensure_readsPrefix _).bind fun _ =>
    (Decode.getBytes_readsPrefix _).bind fun bytes => ?_
  -- the bytes are UTF-8 or not, whatever follows them
  split
  · exact ReadsPrefix.pure _
  · exact ReadsPrefix.throw _

/-- The UTF-8 bytes of a string are valid UTF-8, and read back as the string. -/
theorem fromUTF8?_toUTF8 (s : String) : String.fromUTF8? ⟨s.toUTF8.data.toList.toArray⟩ = some s := by
  rw [Array.toArray_toList, String.fromUTF8?, String.toUTF8_eq_toByteArray, dif_pos s.isValidUTF8]
  rfl

/-- **`string::decode` reads back what `string::encode` writes**, for a string whose byte length
    fits the `u64` the encoder casts it to. -/
theorem reads_decode_encode {s : String} (hs : s.utf8ByteSize < 2 ^ 64) :
    Reads decode (encode s) s := by
  have hlen : s.utf8ByteSize.toUInt64.toNat = s.toUTF8.data.toList.length := by
    rw [Array.length_toList, ← ByteArray.size, String.toUTF8_eq_toByteArray,
      String.size_toByteArray, Nat.toUInt64_eq, UInt64.toNat_ofNat', Nat.mod_eq_of_lt hs]
  unfold decode encode
  refine (Varuint.reads_decode_encode _).bind ?_
  dsimp only
  rw [hlen]
  refine Decode.reads_ensure_bind le_rfl ?_
  refine (Decode.reads_getBytes _).bind_last ?_
  rw [fromUTF8?_toUTF8]
  exact Reads.pure s

example : encode "Hello, world!" =
    [0x0d, 0x48, 0x65, 0x6c, 0x6c, 0x6f, 0x2c, 0x20, 0x77, 0x6f, 0x72, 0x6c, 0x64, 0x21] := by
  decide

end Str

end Omicron.Native
