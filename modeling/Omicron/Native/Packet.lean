import Omicron.Native.TableColumns

/-!
# ClickHouse native protocol: the server's packets

`io::packet::server::Decoder`, the `tokio_util` decoder of the packets the server sends. A packet
is a kind byte and a body; the body's decoder reads from a view of the buffer, and the buffer
is changed only when the view's reading ends:

* a packet: the bytes it took are removed from the buffer;
* `Ok(None)`, more bytes needed: the buffer is left as it was (`decode_needMore`);
* an error: the buffer is cleared.

A panic on the way is the fourth outcome, and the decoder reaches it on a `Progress` packet
whose first varuint has ten continuation bytes (`decode_progress_panics`): whatever follows,
the decoder does not return.
-/

namespace Omicron.Native

/-- `PasswordComplexityRule`. -/
structure PasswordComplexityRule where
  pattern : String
  exception : String
  deriving DecidableEq, Repr

/-- `Hello`, the server's handshake. -/
structure Hello where
  name : String
  versionMajor : UInt64
  versionMinor : UInt64
  revision : UInt64
  tz : String
  displayName : String
  versionPatch : UInt64
  passwordComplexityRules : List PasswordComplexityRule
  interserverSecret : UInt64
  deriving DecidableEq, Repr

/-- `Exception`, one exception the server caught. -/
structure Exception where
  code : Int32
  name : String
  message : String
  stackTrace : String
  nested : Bool
  deriving DecidableEq, Repr

/-- `Progress`; the query time is its `Duration` in nanoseconds. -/
structure Progress where
  rowsRead : UInt64
  bytesRead : UInt64
  totalRowsToRead : UInt64
  totalBytesToRead : UInt64
  rowsWritten : UInt64
  bytesWritten : UInt64
  queryTime : UInt64
  deriving DecidableEq, Repr

/-- `ProfileInfo`. -/
structure ProfileInfo where
  nRows : UInt64
  nBlocks : UInt64
  nBytes : UInt64
  appliedLimit : Bool
  rowsBeforeLimit : UInt64
  calculatedRowsBeforeLimit : Bool
  deriving DecidableEq, Repr

/-- `packets::server::Packet`. -/
inductive Packet where
  | hello (hello : Hello)
  | data (block : Block)
  | exception (exceptions : List Exception)
  | progress (progress : Progress)
  | pong
  | endOfStream
  | profileInfo (info : ProfileInfo)
  | tableColumns (columns : List ColumnDescription)
  | profileEvents (block : Block)

/-! ## The bodies -/

/-- `Decoder::decode_hello`: the rules are counted, the secret is eight bytes. -/
def decodeHello : Decode Hello := do
  let name ← Str.decode
  let versionMajor ← Varuint.decode
  let versionMinor ← Varuint.decode
  let revision ← Varuint.decode
  let tz ← Str.decode
  let displayName ← Str.decode
  let versionPatch ← Varuint.decode
  let nRules ← Varuint.decode
  let rules ← (List.range nRules.toNat).mapM fun _ => do
    let pattern ← Str.decode
    let exception ← Str.decode
    pure ⟨pattern, exception⟩
  let secret ← Decode.takeBytes 8
  pure ⟨name, versionMajor, versionMinor, revision, tz, displayName, versionPatch, rules,
    (ofLe secret).toUInt64⟩

/-- One round of `io::exception::decode`: a code, three strings and whether another follows. -/
def decodeException : Decode Exception := do
  Decode.ensure 4
  let code ← Decode.getBytes 4
  let name ← Str.decode
  let message ← Str.decode
  let stackTrace ← Str.decode
  Decode.ensure 1
  let nested := (← Decode.getU8) == 1
  pure ⟨Int32.ofInt (ofLeSigned 4 code), name, message, stackTrace, nested⟩

/-- The loop of `io::exception::decode`, for as long as an exception says another follows; the
    fuel is the buffer's length, and every round reads at least eight bytes. -/
def decodeExceptionsFrom : Nat → List Exception → Decode (List Exception)
  | 0, _ => throw .needMore
  | fuel + 1, out => do
    let exc ← decodeException
    if !exc.nested then pure (out ++ [exc]) else decodeExceptionsFrom fuel (out ++ [exc])

/-- `io::exception::decode`. -/
def decodeExceptions : Decode (List Exception) := do
  let src ← get
  decodeExceptionsFrom src.length []

/-- `io::progress::decode`: seven varuints. -/
def decodeProgress : Decode Progress := do
  let rowsRead ← Varuint.decode
  let bytesRead ← Varuint.decode
  let totalRowsToRead ← Varuint.decode
  let totalBytesToRead ← Varuint.decode
  let rowsWritten ← Varuint.decode
  let bytesWritten ← Varuint.decode
  let queryTimeNanos ← Varuint.decode
  pure ⟨rowsRead, bytesRead, totalRowsToRead, totalBytesToRead, rowsWritten, bytesWritten,
    queryTimeNanos⟩

/-- `io::profile_info::decode`. -/
def decodeProfileInfo : Decode ProfileInfo := do
  let nRows ← Varuint.decode
  let nBlocks ← Varuint.decode
  let nBytes ← Varuint.decode
  Decode.ensure 1
  let appliedLimit := (← Decode.getU8) == 1
  let rowsBeforeLimit ← Varuint.decode
  Decode.ensure 1
  let calculatedRowsBeforeLimit := (← Decode.getU8) == 1
  pure ⟨nRows, nBlocks, nBytes, appliedLimit, rowsBeforeLimit, calculatedRowsBeforeLimit⟩

/-! ## The decoder -/

/-- The body of a packet of kind `kind` (`Packet::HELLO = 0` and so on); an unknown kind is an
    `UnrecognizedServerPacket` error. -/
def decodeBody (env : Env) (kind : UInt8) : Decode Packet :=
  match kind with
  | 0 => .hello <$> decodeHello
  | 1 => .data <$> Block.decode env
  | 2 => .exception <$> decodeExceptions
  | 3 => .progress <$> decodeProgress
  | 4 => pure .pong
  | 5 => pure .endOfStream
  | 6 => .profileInfo <$> decodeProfileInfo
  | 11 => .tableColumns <$> decodeTableColumns env
  -- profile events are a data block
  | 14 => .profileEvents <$> Block.decode env
  | _ => throw (.error (.unrecognizedServerPacket kind))

/-- `<Decoder as tokio_util::codec::Decoder>::decode`: what it returns and the buffer it leaves,
    or `none` for a panic. -/
def Decoder.decode (env : Env) (src : List UInt8) :
    Option (Except Error (Option Packet) × List UInt8) :=
  match src with
  | [] => some (.ok none, src)
  | kind :: buf =>
    match (decodeBody env kind).run buf with
    -- `src.advance(n_consumed)`
    | .ok (packet, rest) => some (.ok (some packet), rest)
    | .error .needMore => some (.ok none, src)
    -- `src.clear()`
    | .error (.error e) => some (.error e, [])
    | .error .panic => none

/-- **`Ok(None)` leaves the buffer as it was.** -/
theorem decode_needMore {env : Env} {src src' : List UInt8}
    (h : Decoder.decode env src = some (.ok none, src')) : src' = src := by
  unfold Decoder.decode at h
  split at h
  · exact (Prod.mk.inj (Option.some.inj h)).2.symm
  · split at h <;> simp_all

/-- Ten bytes with the continuation bit. -/
def tenContinuations : List UInt8 := List.replicate 10 0x80

/-- **The decoder panics on a `Progress` packet whose first varuint has ten continuation
    bytes**, whatever follows them: `varuint::decode` reaches `unreachable!()`. -/
theorem decode_progress_panics (env : Env) (r : List UInt8) :
    Decoder.decode env (3 :: tenContinuations ++ r) = none := by
  have hcont : ∀ b ∈ tenContinuations, Varuint.Continues b := fun b hb => by
    rw [List.eq_of_mem_replicate hb]
    decide
  have hpanic : (decodeBody env 3).run (tenContinuations ++ r) = .error .panic := by
    have hfirst := Varuint.decode_panics tenContinuations r rfl hcont
    simp [decodeBody, decodeProgress, StateT.run_bind, hfirst]
  simp [Decoder.decode, hpanic]

end Omicron.Native
