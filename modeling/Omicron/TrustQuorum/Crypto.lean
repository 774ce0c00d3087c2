import Omicron.TrustQuorum.Types
import Mathlib.Tactic.Ring

/-!
# Trust quorum: digests, configurations and the encrypted chain of rack secrets

The protocol crate's own cryptographic code over the `Primitives` it calls:

* `shareDigest`, `validateShare` -- `Share::digest::<Sha3_256>` (the x-coordinate byte, then the
  y-coordinate bytes) and `lib.rs`'s `validate_share` (epoch, membership, digest, in that order);
* `newConfiguration` -- `configuration.rs`: the members in `BTreeSet` order zipped with the shares
  `x = 1 .. n` of a split of a fresh rack secret; the secret and the random stream of the split
  are arguments, as the random draws of the source;
* `reconstruct` -- `RackSecret::reconstruct`: `compute_secret`, then the 32-byte size check;
* `deriveEncryptionKey`, `encrypt`, `decryptRackSecrets` -- `crypto.rs`: the HKDF key for a rack,
  epoch and salt, the plaintext of 40-byte records (big-endian epoch, then secret) in epoch order,
  and its decoding by `chunks_exact(40)`.

Where the source panics (`assert!`, `expect`) the function returns `none`; where it returns a
`Result`, the model returns an `Except`.
-/

namespace Omicron.TrustQuorum

open Omicron.Gfss

variable {ι : Type} [LinearOrder ι]

/-- `Share::digest::<Sha3_256>`: SHA3-256 of the x-coordinate byte followed by the y-coordinates. -/
def shareDigest (P : Primitives) (s : Share) : Sha3Digest :=
  P.sha3 (s.xCoordinate.val :: s.yCoordinates.map (·.val))

/-- `validate_share`: the share is for the configuration's epoch, the sender is a member, and the
    share's digest is the one the configuration records for the sender. -/
def validateShare (P : Primitives) (config : Configuration ι) (sender : ι) (epoch : Nat)
    (share : Share) : Bool :=
  epoch == config.epoch &&
    match config.members.lookup sender with
    | none => false
    | some expected => shareDigest P share == expected

/-- `ConfigurationError`. -/
inductive ConfigurationError where
  | rackSecretSplit (err : SplitError)
  | tooManyMembers
  deriving DecidableEq

/-- `NewConfigParams`. -/
structure NewConfigParams (ι : Type) where
  rackId : RackUuid
  epoch : Nat
  members : Finset ι
  threshold : Nat
  coordinatorId : ι

/-- `RackSecret::split(threshold, total_shares)`: `shamir::split_secret(secret, n, k)`. -/
def RackSecret.split (s : RackSecret) (threshold : Nat) (totalShares : UInt8)
    (rng : Nat → UInt8) : Except SplitError SecretShares :=
  splitSecretImpl s.bytes totalShares threshold.toUInt8 rng

/-- The member maps of `new_configuration`: member `i` in `BTreeSet` order gets share `i` and its
    digest (the `zip` stops at the shorter of the two). -/
def memberMaps (P : Primitives) : List ι → List Share →
    (Finmap fun _ : ι => Sha3Digest) × (Finmap fun _ : ι => Share)
  | id :: ids, s :: ss =>
    let (members, shares) := memberMaps P ids ss
    (members.insert id (shareDigest P s), shares.insert id s)
  | _, _ => (∅, ∅)

/-- `new_configuration`: split a fresh rack secret `secret` among the members (`rng` is the random
    stream of the split) and record each member's digest. The configuration starts without
    encrypted rack secrets. -/
def newConfiguration (P : Primitives) (params : NewConfigParams ι) (secret : RackSecret)
    (rng : Nat → UInt8) :
    Except ConfigurationError (Configuration ι × (Finmap fun _ : ι => Share)) :=
  if params.members.card > 255 then .error .tooManyMembers
  else
    match secret.split params.threshold params.members.card.toUInt8 rng with
    | .error e => .error (.rackSecretSplit e)
    | .ok shares =>
      let (members, shareMap) := memberMaps P (params.members.ascending) shares.shares
      .ok (⟨params.rackId, params.epoch, params.coordinatorId, members, params.threshold, none⟩,
        shareMap)

/-- `RackSecret::reconstruct`: combine the shares, then insist on 32 bytes. -/
def reconstruct (shares : List Share) :
    Except RackSecretReconstructError ReconstructedRackSecret :=
  match computeSecret shares with
  | .error e => .error (.combine e)
  | .ok bytes => if h : bytes.length = secretLen then .ok ⟨bytes, h⟩ else .error .size

/-! ## Keys and the encoding of the secrets of earlier epochs -/

/-- `u64::to_be_bytes`. -/
def u64ToBeBytes (n : Nat) : List UInt8 :=
  (List.range 8).reverse.map fun i => (n / 256 ^ i).toUInt8

/-- `u64::from_be_bytes`. -/
def u64FromBeBytes (bs : List UInt8) : Nat :=
  bs.foldl (fun acc b => acc * 256 + b.toNat) 0

/-- `KEY_CONTEXT` of `derive_encryption_key_for_rack_secrets`. -/
def keyContext : List UInt8 := "trust-quorum-v1-rack-secrets".toUTF8.toList

/-- The all-zero nonce: each key encrypts a single plaintext. -/
def zeroNonce : List UInt8 := List.replicate 12 0

/-- `derive_encryption_key_for_rack_secrets`: HKDF-SHA3 with the salt over the secret, its info the
    context, the rack id and the big-endian epoch; `none` where the source's `assert!` that the key
    is not all zero panics. -/
def deriveEncryptionKey (P : Primitives) (rackId : RackUuid) (epoch : Nat) (salt : Salt)
    (secret : ReconstructedRackSecret) : Option (List UInt8) :=
  let key := P.hkdfExpand salt secret.bytes (keyContext ++ rackId ++ u64ToBeBytes epoch)
  if key = List.replicate secretLen 0 then none else some key

/-- `PlaintextRackSecrets`: the secrets of earlier epochs by epoch. -/
abbrev PlaintextRackSecrets := Finmap fun _ : Nat => ReconstructedRackSecret

/-- `PlaintextRackSecrets::insert`: `none` where the source's `assert!` finds the epoch already
    there. -/
def plaintextInsert (m : PlaintextRackSecrets) (epoch : Nat)
    (secret : ReconstructedRackSecret) : Option PlaintextRackSecrets :=
  if epoch ∈ m then none else some (m.insert epoch secret)

/-- The plaintext of `PlaintextRackSecrets::encrypt`: per epoch in increasing order, its 8
    big-endian bytes and then its 32 secret bytes. -/
def encodeSecrets (m : PlaintextRackSecrets) : List UInt8 :=
  m.keys.ascending.flatMap fun e =>
    u64ToBeBytes e ++ ((m.lookup e).map (·.bytes)).getD []

/-- `PlaintextRackSecrets::encrypt` under the fresh salt `salt`: `none` for the source's panics
    (an empty set of secrets, an all-zero key), `some (.error ())` for an AEAD failure. -/
def encrypt (P : Primitives) (m : PlaintextRackSecrets) (rackId : RackUuid) (newEpoch : Nat)
    (newRackSecret : ReconstructedRackSecret) (salt : Salt) :
    Option (Except Unit EncryptedRackSecrets) := do
  if m.keys = ∅ then none
  let key ← deriveEncryptionKey P rackId newEpoch salt newRackSecret
  pure <| match P.chachaEncrypt key zeroNonce (encodeSecrets m) with
    | some data => .ok ⟨salt, data⟩
    | none => .error ()

/-- The loop over `plaintext.chunks_exact(SECRET_LEN + EPOCH_LEN)` of `decrypt_rack_secrets`:
    each record's epoch and secret, inserted with `PlaintextRackSecrets::insert`. -/
def decodeRecords (m : PlaintextRackSecrets) : List (List UInt8) → Option PlaintextRackSecrets
  | [] => some m
  | r :: rs =>
    if h : (r.drop 8).length = secretLen then do
      let m' ← plaintextInsert m (u64FromBeBytes (r.take 8)) ⟨r.drop 8, h⟩
      decodeRecords m' rs
    else none

/-- `plaintext.chunks_exact(40)` on a plaintext whose length is a multiple of 40. -/
def chunks40 (bs : List UInt8) : List (List UInt8) :=
  (List.range (bs.length / 40)).map fun i => (bs.drop (40 * i)).take 40

/-- `decrypt_rack_secrets`: `none` for the source's panics, an error for an AEAD rejection or a
    plaintext whose length is not a multiple of 40. -/
def decryptRackSecrets (P : Primitives) (encrypted : EncryptedRackSecrets) (rackId : RackUuid)
    (epoch : Nat) (rackSecret : ReconstructedRackSecret) :
    Option (Except DecryptionError PlaintextRackSecrets) := do
  let key ← deriveEncryptionKey P rackId epoch encrypted.salt rackSecret
  match P.chachaDecrypt key zeroNonce encrypted.data with
  | none => pure (.error .aead)
  | some plaintext =>
    if plaintext.length % (secretLen + 8) ≠ 0 then pure (.error .invalidLength)
    else (decodeRecords ∅ (chunks40 plaintext)).map .ok

/-! ## The round trip of the encoding -/

@[simp] theorem length_u64ToBeBytes (n : Nat) : (u64ToBeBytes n).length = 8 := by
  simp [u64ToBeBytes]

/-- Folding in the big-endian digits `k - 1` down to `0` of `n` appends `n % 256 ^ k` to the
    accumulator. -/
theorem foldl_beDigits (n : Nat) : ∀ k acc,
    ((List.range k).reverse.map fun i => (n / 256 ^ i).toUInt8).foldl
      (fun acc b => acc * 256 + b.toNat) acc = acc * 256 ^ k + n % 256 ^ k
  | 0, acc => by simp [Nat.mod_one]
  | k + 1, acc => by
    rw [List.range_succ, List.reverse_append, List.reverse_singleton, List.singleton_append,
      List.map_cons, List.foldl_cons, foldl_beDigits n k, Nat.mod_pow_succ]
    simp only [Nat.toUInt8_eq, UInt8.toNat_ofNat']
    ring

/-- **`u64::from_be_bytes` undoes `u64::to_be_bytes`** on a `u64`. -/
theorem u64FromBeBytes_u64ToBeBytes {n : Nat} (h : n < 2 ^ 64) :
    u64FromBeBytes (u64ToBeBytes n) = n := by
  rw [u64FromBeBytes, u64ToBeBytes, foldl_beDigits, zero_mul, zero_add]
  exact Nat.mod_eq_of_lt (by simpa using h)

/-- `chunks_exact(40)` takes off a leading record of 40 bytes. -/
theorem chunks40_append {r : List UInt8} (hr : r.length = 40) (rest : List UInt8) :
    chunks40 (r ++ rest) = r :: chunks40 rest := by
  have hlen : (r ++ rest).length / 40 = rest.length / 40 + 1 := by
    rw [List.length_append, hr]
    omega
  rw [chunks40, hlen, List.range_succ_eq_map, List.map_cons, List.map_map]
  congr 1
  · simp [← hr]
  · refine List.map_congr_left fun i _ => ?_
    -- the `i + 1`-th record of `r ++ rest` is the `i`-th of `rest`
    have hdrop : (r ++ rest).drop (40 * (i + 1)) = rest.drop (40 * i) := by
      rw [show 40 * (i + 1) = r.length + 40 * i by omega, ← List.drop_drop, List.drop_left]
    simp only [Function.comp_apply, hdrop]

/-- `chunks_exact(40)` of records of 40 bytes, one after the other, gives the records back. -/
theorem chunks40_flatten : ∀ rs : List (List UInt8), (∀ r ∈ rs, r.length = 40) →
    chunks40 rs.flatten = rs
  | [], _ => rfl
  | r :: rs, h => by
    rw [List.flatten_cons, chunks40_append (h r List.mem_cons_self),
      chunks40_flatten rs fun r' hr' => h r' (List.mem_cons_of_mem r hr')]

/-- The 40-byte record of one epoch. -/
def secretRecord (p : Nat × ReconstructedRackSecret) : List UInt8 := u64ToBeBytes p.1 ++ p.2.bytes

theorem length_secretRecord (p : Nat × ReconstructedRackSecret) : (secretRecord p).length = 40 := by
  simp [secretRecord, p.2.length_eq, secretLen]

/-- The plaintext is the records of the entries in epoch order. -/
theorem encodeSecrets_eq (m : PlaintextRackSecrets) :
    encodeSecrets m = (m.sortedEntries.map secretRecord).flatten := by
  rw [encodeSecrets, Finmap.sortedEntries, List.flatMap_def]
  congr 1
  rw [List.map_filterMap]
  refine (List.filterMap_eq_map_iff_forall_eq_some.mpr fun e he => ?_).symm
  rw [Finset.mem_ascending, Finmap.mem_keys] at he
  obtain ⟨v, hv⟩ := Finmap.mem_iff.mp he
  simp [hv, secretRecord]

/-- **Decoding the records of distinct epochs, none of them yet in the map, inserts them all.** -/
theorem decodeRecords_records : ∀ (l : List (Nat × ReconstructedRackSecret)) (acc : PlaintextRackSecrets),
    (l.map Prod.fst).Nodup → (∀ p ∈ l, p.1 ∉ acc ∧ p.1 < 2 ^ 64) →
      decodeRecords acc (l.map secretRecord) = some (l.foldl (fun m p => m.insert p.1 p.2) acc)
  | [], _, _, _ => rfl
  | (e, s) :: l, acc, hnd, hfresh => by
    obtain ⟨he, hlt⟩ := hfresh (e, s) List.mem_cons_self
    have hdrop : (secretRecord (e, s)).drop 8 = s.bytes := List.drop_left' (length_u64ToBeBytes e)
    have htake : (secretRecord (e, s)).take 8 = u64ToBeBytes e :=
      List.take_left' (length_u64ToBeBytes e)
    have hlen : ((secretRecord (e, s)).drop 8).length = secretLen := hdrop ▸ s.length_eq
    have hsecret : (⟨_, hlen⟩ : ReconstructedRackSecret) = s := by
      cases s
      simpa only [ReconstructedRackSecret.mk.injEq] using hdrop
    have hins : plaintextInsert acc e s = some (acc.insert e s) := by
      rw [plaintextInsert, if_neg he]
    rw [List.map_cons, decodeRecords, dif_pos hlen, hsecret, htake,
      u64FromBeBytes_u64ToBeBytes hlt, hins, Option.bind_eq_bind, Option.bind_some,
      List.foldl_cons]
    -- the later epochs are neither this one nor in the map
    refine decodeRecords_records l _ (List.nodup_cons.mp hnd).2 fun p hp => ⟨fun hmem => ?_,
      (hfresh p (List.mem_cons_of_mem _ hp)).2⟩
    rcases Finmap.mem_insert.mp hmem with hpe | hpa
    · have hmem' : p.1 ∈ l.map Prod.fst := List.mem_map_of_mem hp
      rw [hpe] at hmem'
      exact (List.nodup_cons.mp hnd).1 hmem'
    · exact (hfresh p (List.mem_cons_of_mem _ hp)).1 hpa

/-- **The plaintext decodes to the map it encodes**, for epochs that are `u64`s. -/
theorem decodeRecords_encodeSecrets (m : PlaintextRackSecrets) (hm : ∀ e ∈ m, e < 2 ^ 64) :
    decodeRecords ∅ (chunks40 (encodeSecrets m)) = some m := by
  rw [encodeSecrets_eq, chunks40_flatten _ fun r hr => by
      obtain ⟨p, -, rfl⟩ := List.mem_map.mp hr
      exact length_secretRecord p,
    decodeRecords_records _ _ (Finmap.nodup_sortedEntries_map_fst m) fun p hp =>
      ⟨Finmap.notMem_empty, hm p.1 (Finmap.mem_of_lookup_eq_some (Finmap.mem_sortedEntries.mp hp))⟩]
  exact congrArg some (Finmap.ofPairs_sortedEntries m)

theorem length_encodeSecrets (m : PlaintextRackSecrets) :
    (encodeSecrets m).length = 40 * m.sortedEntries.length := by
  rw [encodeSecrets_eq, List.length_flatten, List.map_map]
  have hconst : (List.length ∘ secretRecord) = fun _ => 40 := funext length_secretRecord
  rw [hconst, List.map_const', List.sum_replicate]
  simp [Nat.mul_comm]

/-- **Rack secrets decrypt to what was encrypted**: under the key of the same rack, epoch, salt
    and secret, and a cipher whose decryption undoes its encryption, the plaintext of every
    successful `PlaintextRackSecrets::encrypt` decodes to the same map. -/
theorem decryptRackSecrets_encrypt (P : Primitives)
    (hchacha : ∀ key nonce plaintext ciphertext, P.chachaEncrypt key nonce plaintext = some ciphertext →
      P.chachaDecrypt key nonce ciphertext = some plaintext)
    (m : PlaintextRackSecrets) (hm : ∀ e ∈ m, e < 2 ^ 64) (rackId : RackUuid) (epoch : Nat)
    (secret : ReconstructedRackSecret) (salt : Salt) (encrypted : EncryptedRackSecrets)
    (henc : encrypt P m rackId epoch secret salt = some (.ok encrypted)) :
    decryptRackSecrets P encrypted rackId epoch secret = some (.ok m) := by
  -- take the encryption apart: the key it derived, and the ciphertext
  unfold encrypt at henc
  split at henc
  · cases henc
  · cases hkey : deriveEncryptionKey P rackId epoch salt secret with
    | none => simp [hkey] at henc
    | some key =>
      cases hc : P.chachaEncrypt key zeroNonce (encodeSecrets m) with
      | none => simp [hkey, hc] at henc
      | some data =>
        simp only [hkey, hc, Option.bind_eq_bind, Option.bind_some, pure, Option.some.injEq,
          Except.ok.injEq] at henc
        subst henc
        have hlen : (encodeSecrets m).length % (secretLen + 8) = 0 := by
          rw [length_encodeSecrets, secretLen]
          omega
        simp only [decryptRackSecrets, hkey, hchacha _ _ _ _ hc, hlen, ne_eq, not_true_eq_false,
          if_false, decodeRecords_encodeSecrets m hm, Option.bind_eq_bind, Option.bind_some,
          Option.map_some]

/-- Primitives whose cipher is the identity and whose key derivation gives a nonzero key. -/
def identityCipherPrimitives : Primitives where
  sha3 _ := []
  hkdfExpand _ _ _ := List.replicate secretLen 1
  chachaEncrypt _ _ plaintext := some plaintext
  chachaDecrypt _ _ ciphertext := some ciphertext
  lrtqCombineShares _ := none

/-- The secret of epoch 3, all sevens. -/
def sevensSecret : ReconstructedRackSecret := ⟨List.replicate secretLen 7, by rfl⟩

theorem decryptRackSecrets_encrypt_sevens :
    decryptRackSecrets identityCipherPrimitives
        ⟨[], encodeSecrets ((∅ : PlaintextRackSecrets).insert 3 sevensSecret)⟩ [] 4 sevensSecret =
      some (.ok ((∅ : PlaintextRackSecrets).insert 3 sevensSecret)) :=
  decryptRackSecrets_encrypt identityCipherPrimitives
    (fun _ _ _ _ h => by simpa [identityCipherPrimitives] using h.symm)
    _ (fun e he => by
      rcases Finmap.mem_insert.mp he with rfl | h
      · decide
      · exact absurd h Finmap.notMem_empty)
    [] 4 sevensSecret [] _ rfl

end Omicron.TrustQuorum
