import Omicron.Gfss.Shamir
import Omicron.Lib.SortedFinmap
import Mathlib.Data.Finmap
import Mathlib.Data.Finset.Sort
import Mathlib.Data.Finset.Max

/-!
# Trust quorum: the data the protocol keeps and sends

The types of `trust-quorum-types` and of the protocol crate's `persistent_state.rs` and
`messages.rs`, over a type `ι` of `BaseboardId`s whose order is the derived one the source's
`BTreeMap`s and `BTreeSet`s iterate in:

* `Primitives` -- the cryptographic functions the protocol calls and does not implement: SHA3-256,
  HKDF over SHA3-256, ChaCha20-Poly1305, and the LRTQ (bootstore v0) share combination. Every
  theorem that needs one of their properties states it as a hypothesis on this record;
* `Configuration`, `PersistentState` -- the configuration of an epoch and the state a node keeps on
  disk; a `BTreeMap` is a `Finmap` (equality is the source's, entry by entry) and a `BTreeSet` a
  `Finset`, with the source's ordered views (`latestConfig`, `latestCommittedEpoch`) as maxima;
* `PeerMsgKind`, `PeerMsg`, `Envelope`, `Alarm` -- what nodes send each other and raise.

`Epoch(u64)` and `Threshold(u8)` are natural numbers: the protocol only compares epochs and counts
against thresholds, and `Nat::next` refuses to pass `2^64`.
-/

namespace Omicron.TrustQuorum

open Omicron.Gfss

/-- `RackUuid`, by its sixteen bytes (`as_ref`). -/
abbrev RackUuid := List UInt8

/-- `Sha3_256Digest([u8; 32])`. -/
abbrev Sha3Digest := List UInt8

/-- `SECRET_LEN`: a rack secret is 32 bytes. -/
def secretLen : Nat := 32

/-- `LRTQ_SHARE_SIZE`: an LRTQ share is 33 bytes. -/
def lrtqShareSize : Nat := 33

/-- `ReconstructedRackSecret`: 32 bytes (`TryFrom<&[u8]>` refuses any other length). -/
structure ReconstructedRackSecret where
  bytes : List UInt8
  length_eq : bytes.length = secretLen

instance : DecidableEq ReconstructedRackSecret := fun a b =>
  decidable_of_iff (a.bytes = b.bytes) (by
    cases a; cases b
    simp only [ReconstructedRackSecret.mk.injEq])

/-- `RackSecret`: 32 bytes drawn by `RackSecret::new`, which draws again while they are all zero. -/
structure RackSecret where
  bytes : List UInt8
  length_eq : bytes.length = secretLen
  ne_zero : bytes ≠ List.replicate secretLen 0

/-- `impl From<RackSecret> for ReconstructedRackSecret`. -/
def RackSecret.toReconstructed (s : RackSecret) : ReconstructedRackSecret :=
  ⟨s.bytes, s.length_eq⟩

/-- The primitives the protocol calls from other crates. -/
structure Primitives where
  /-- `sha3::Sha3_256::digest`. -/
  sha3 : List UInt8 → Sha3Digest
  /-- `Hkdf::<Sha3_256>::new(Some(salt), ikm).expand_multi_info(info, okm)` for a 32-byte okm. -/
  hkdfExpand : (salt ikm info : List UInt8) → List UInt8
  /-- `ChaCha20Poly1305::new(key).encrypt(nonce, plaintext)`. -/
  chachaEncrypt : (key nonce plaintext : List UInt8) → Option (List UInt8)
  /-- `ChaCha20Poly1305::new(key).decrypt(nonce, ciphertext)`. -/
  chachaDecrypt : (key nonce ciphertext : List UInt8) → Option (List UInt8)
  /-- `bootstore::trust_quorum::RackSecret::combine_shares`, then its 32 bytes
      (`impl From<LrtqRackSecret> for ReconstructedRackSecret`). -/
  lrtqCombineShares : List (List UInt8) → Option ReconstructedRackSecret

/-- `Salt([u8; 32])`. -/
abbrev Salt := List UInt8

/-- `EncryptedRackSecrets`: a salt and a ciphertext. -/
structure EncryptedRackSecrets where
  salt : Salt
  data : List UInt8
  deriving DecidableEq

/-- `Configuration`: the configuration of one epoch, its members with the digests of their
    key shares. -/
structure Configuration (ι : Type) where
  rackId : RackUuid
  epoch : Nat
  coordinator : ι
  members : Finmap fun _ : ι => Sha3Digest
  threshold : Nat
  encryptedRackSecrets : Option EncryptedRackSecrets

instance {ι : Type} [DecidableEq ι] : DecidableEq (Configuration ι) := fun a b =>
  decidable_of_iff
    (a.rackId = b.rackId ∧ a.epoch = b.epoch ∧ a.coordinator = b.coordinator ∧
      a.members = b.members ∧ a.threshold = b.threshold ∧
      a.encryptedRackSecrets = b.encryptedRackSecrets) (by
    cases a; cases b
    simp only [Configuration.mk.injEq])

/-- `SharePkgCommon` of bootstore v0: what an LRTQ node brings to the upgrade. -/
structure LrtqShareData where
  rackUuid : RackUuid
  epoch : Nat
  threshold : Nat
  share : List UInt8
  shareDigests : Finset Sha3Digest
  deriving DecidableEq

/-- `ExpungedMetadata`: the epoch of the expungement and who reported it. -/
structure ExpungedMetadata (ι : Type) where
  epoch : Nat
  sender : ι
  deriving DecidableEq

/-- `PersistentState`: everything a node writes to its ledger. The configurations are keyed by
    their epoch (`IdOrdMap<Configuration>`). -/
structure PersistentState (ι : Type) where
  lrtq : Option LrtqShareData
  configs : Finmap fun _ : Nat => Configuration ι
  shares : Finmap fun _ : Nat => Share
  commits : Finset Nat
  expunged : Option (ExpungedMetadata ι)

/-- `LrtqShare(Vec<u8>)`. -/
abbrev LrtqShare := List UInt8

/-- `PeerMsgKind`. -/
inductive PeerMsgKind (ι : Type) where
  | prepare (config : Configuration ι) (share : Share)
  | prepareAck (epoch : Nat)
  | getShare (epoch : Nat)
  | share (epoch : Nat) (share : Share)
  | getLrtqShare
  | lrtqShare (share : LrtqShare)
  | expunged (epoch : Nat)
  | commitAdvance (config : Configuration ι)

/-- `PeerMsg`: a message kind stamped with the sender's rack id. -/
structure PeerMsg (ι : Type) where
  rackId : RackUuid
  kind : PeerMsgKind ι

/-- `Envelope`: a routable message (`to` is `dest`, `from` is `sender`). -/
structure Envelope (ι : Type) where
  dest : ι
  sender : ι
  msg : PeerMsg ι

/-- The `from: &str` of `handle_commit_advance`: Nexus, or the peer that sent a `CommitAdvance`. -/
inductive CommitSource (ι : Type) where
  | nexus
  | peer (id : ι)

/-- `DecryptionError`. -/
inductive DecryptionError where
  | aead
  | invalidLength
  deriving DecidableEq

/-- `RackSecretReconstructError`. -/
inductive RackSecretReconstructError where
  | combine (err : CombineError)
  | size
  deriving DecidableEq

/-- `Alarm`: conditions the protocol reports as never expected. -/
inductive Alarm (ι : Type) where
  | mismatchedConfigurations (config1 config2 : Configuration ι) (sender : CommitSource ι)
  | shareComputationFailed (epoch : Nat) (err : CombineError)
  | committedConfigurationLost (latestCommittedEpoch collectingEpoch : Nat)
  | rackSecretDecryptionFailed (epoch : Nat) (err : DecryptionError)
  | rackSecretReconstructionFailed (epoch : Nat) (err : RackSecretReconstructError)

namespace PersistentState

variable {ι : Type} [DecidableEq ι]

/-- `PersistentState::empty`. -/
def empty : PersistentState ι := ⟨none, ∅, ∅, ∅, none⟩

/-- `PersistentState::new_lrtq_only`. -/
def newLrtqOnly (lrtq : LrtqShareData) : PersistentState ι := ⟨some lrtq, ∅, ∅, ∅, none⟩

/-- `latest_committed_epoch`: the last element of `commits`. -/
def latestCommittedEpoch (ps : PersistentState ι) : Option Nat :=
  if h : ps.commits.Nonempty then some (ps.commits.max' h) else none

/-- `latest_config`: the configuration of the largest epoch. -/
def latestConfig (ps : PersistentState ι) : Option (Configuration ι) :=
  if h : ps.configs.keys.Nonempty then ps.configs.lookup (ps.configs.keys.max' h) else none

/-- `configuration(epoch)`. -/
def configuration (ps : PersistentState ι) (epoch : Nat) : Option (Configuration ι) :=
  ps.configs.lookup epoch

/-- `latest_committed_configuration`, `none` where the source's `expect("missing prepare")`
    panics: a commit without its configuration. -/
def latestCommittedConfiguration (ps : PersistentState ι) :
    Option (Option (Configuration ι)) :=
  match ps.latestCommittedEpoch with
  | none => some none
  | some e => (ps.configuration e).map some

/-- `latest_committed_config_and_share`, `none` where either `expect` panics. -/
def latestCommittedConfigAndShare (ps : PersistentState ι) :
    Option (Option (Configuration ι × Share)) :=
  match ps.latestCommittedEpoch with
  | none => some none
  | some e => do
    let c ← ps.configs.lookup e
    let s ← ps.shares.lookup e
    pure (some (c, s))

/-- `rack_id`: the latest configuration's, else the LRTQ package's. -/
def rackId (ps : PersistentState ι) : Option RackUuid :=
  (ps.latestConfig.map (·.rackId)).orElse fun _ => ps.lrtq.map (·.rackUuid)

/-- `is_lrtq_only`. -/
def isLrtqOnly (ps : PersistentState ι) : Bool :=
  ps.lrtq.isSome && ps.latestCommittedEpoch.isNone

/-- `is_uninitialized`. -/
def isUninitialized (ps : PersistentState ι) : Bool :=
  ps.lrtq.isNone && ps.latestCommittedEpoch.isNone

/-- `has_prepared(epoch)`: a configuration and a share for the epoch. -/
def hasPrepared (ps : PersistentState ι) (epoch : Nat) : Prop :=
  epoch ∈ ps.configs ∧ epoch ∈ ps.shares

instance (ps : PersistentState ι) (epoch : Nat) : Decidable (ps.hasPrepared epoch) :=
  inferInstanceAs (Decidable (_ ∧ _))

/-- `is_expunged`. -/
def isExpunged (ps : PersistentState ι) : Bool := ps.expunged.isSome

/-! The updates the protocol makes to the persistent state, each the body of one
`update_persistent_state` closure of the source. -/

/-- `ps.commits.insert(epoch)`. -/
def commit (ps : PersistentState ι) (epoch : Nat) : PersistentState ι :=
  { ps with commits := insert epoch ps.commits }

/-- `ps.configs.insert_unique(config)`, where it succeeds. -/
def saveConfig (ps : PersistentState ι) (config : Configuration ι) : PersistentState ι :=
  { ps with configs := ps.configs.insert config.epoch config }

/-- `handle_prepare`'s update: the share always, the configuration unless one is saved for its
    epoch (the ignored failure of `insert_unique`). -/
def savePrepare (ps : PersistentState ι) (config : Configuration ι) (share : Share) :
    PersistentState ι :=
  { ps with shares := ps.shares.insert config.epoch share,
            configs := if config.epoch ∈ ps.configs then ps.configs
              else ps.configs.insert config.epoch config }

/-- A coordinator's update: its share and the configuration it created. -/
def saveConfigAndShare (ps : PersistentState ι) (config : Configuration ι) (share : Share) :
    PersistentState ι :=
  { ps with shares := ps.shares.insert config.epoch share,
            configs := ps.configs.insert config.epoch config }

/-- `KeyShareComputer`'s update: the computed share, and the commit it completes. -/
def saveShareAndCommit (ps : PersistentState ι) (epoch : Nat) (share : Share) :
    PersistentState ι :=
  { ps with shares := ps.shares.insert epoch share, commits := insert epoch ps.commits }

/-- `ps.expunged = Some(..)`. -/
def expunge (ps : PersistentState ι) (m : ExpungedMetadata ι) : PersistentState ι :=
  { ps with expunged := some m }

end PersistentState

end Omicron.TrustQuorum
