import Omicron.TrustQuorum.Types

/-!
# Trust quorum: what the persistent state records

Facts about `PersistentState` that every proof about the protocol reads.

* field lemmas for the five updates the protocol makes (`commit`, `saveConfig`, `savePrepare`,
  `saveConfigAndShare`, `saveShareAndCommit`, `expunge`);
* `latestCommittedEpoch`, `latestConfig`, `rackId`: what they return, from the maps;
* `Extends`: what no update undoes -- a saved configuration, an epoch with a share, a commit,
  an expungement. `hasPrepared` and the latest committed epoch only grow along it;
* `Wf`: every commit is of a prepared epoch, kept by each update under the condition its caller
  checks; on such a ledger the `expect`s of the two latest-commit lookups never fire.
-/

set_option linter.unusedSectionVars false

namespace Omicron.TrustQuorum

open Omicron.Gfss

namespace PersistentState

variable {ι : Type} [DecidableEq ι]

/-! ## 1. The updates, field by field -/

section Fields

variable (ps : PersistentState ι) (e : Nat) (c : Configuration ι) (s : Share)
  (m : ExpungedMetadata ι)

@[simp] theorem commit_configs : (ps.commit e).configs = ps.configs := rfl
@[simp] theorem commit_shares : (ps.commit e).shares = ps.shares := rfl
@[simp] theorem commit_commits : (ps.commit e).commits = insert e ps.commits := rfl
@[simp] theorem commit_expunged : (ps.commit e).expunged = ps.expunged := rfl
@[simp] theorem commit_lrtq : (ps.commit e).lrtq = ps.lrtq := rfl

@[simp] theorem saveConfig_configs : (ps.saveConfig c).configs = ps.configs.insert c.epoch c := rfl
@[simp] theorem saveConfig_shares : (ps.saveConfig c).shares = ps.shares := rfl
@[simp] theorem saveConfig_commits : (ps.saveConfig c).commits = ps.commits := rfl
@[simp] theorem saveConfig_expunged : (ps.saveConfig c).expunged = ps.expunged := rfl
@[simp] theorem saveConfig_lrtq : (ps.saveConfig c).lrtq = ps.lrtq := rfl

@[simp] theorem savePrepare_configs : (ps.savePrepare c s).configs =
    if c.epoch ∈ ps.configs then ps.configs else ps.configs.insert c.epoch c := rfl
@[simp] theorem savePrepare_shares : (ps.savePrepare c s).shares = ps.shares.insert c.epoch s := rfl
@[simp] theorem savePrepare_commits : (ps.savePrepare c s).commits = ps.commits := rfl
@[simp] theorem savePrepare_expunged : (ps.savePrepare c s).expunged = ps.expunged := rfl
@[simp] theorem savePrepare_lrtq : (ps.savePrepare c s).lrtq = ps.lrtq := rfl

@[simp] theorem saveConfigAndShare_configs :
    (ps.saveConfigAndShare c s).configs = ps.configs.insert c.epoch c := rfl
@[simp] theorem saveConfigAndShare_shares :
    (ps.saveConfigAndShare c s).shares = ps.shares.insert c.epoch s := rfl
@[simp] theorem saveConfigAndShare_commits : (ps.saveConfigAndShare c s).commits = ps.commits := rfl
@[simp] theorem saveConfigAndShare_expunged :
    (ps.saveConfigAndShare c s).expunged = ps.expunged := rfl
@[simp] theorem saveConfigAndShare_lrtq : (ps.saveConfigAndShare c s).lrtq = ps.lrtq := rfl

@[simp] theorem saveShareAndCommit_configs : (ps.saveShareAndCommit e s).configs = ps.configs := rfl
@[simp] theorem saveShareAndCommit_shares :
    (ps.saveShareAndCommit e s).shares = ps.shares.insert e s := rfl
@[simp] theorem saveShareAndCommit_commits :
    (ps.saveShareAndCommit e s).commits = insert e ps.commits := rfl
@[simp] theorem saveShareAndCommit_expunged :
    (ps.saveShareAndCommit e s).expunged = ps.expunged := rfl
@[simp] theorem saveShareAndCommit_lrtq : (ps.saveShareAndCommit e s).lrtq = ps.lrtq := rfl

@[simp] theorem expunge_configs : (ps.expunge m).configs = ps.configs := rfl
@[simp] theorem expunge_shares : (ps.expunge m).shares = ps.shares := rfl
@[simp] theorem expunge_commits : (ps.expunge m).commits = ps.commits := rfl
@[simp] theorem expunge_expunged : (ps.expunge m).expunged = some m := rfl
@[simp] theorem expunge_lrtq : (ps.expunge m).lrtq = ps.lrtq := rfl

end Fields

/-- `handle_prepare` leaves a saved configuration in place. -/
theorem savePrepare_lookup_of_mem {ps : PersistentState ι} {c : Configuration ι} {s : Share}
    {e : Nat} {c' : Configuration ι} (h : ps.configs.lookup e = some c') :
    (ps.savePrepare c s).configs.lookup e = some c' := by
  rw [savePrepare_configs]
  split_ifs with hc
  · exact h
  · have hne : e ≠ c.epoch := by
      rintro rfl
      exact hc (Finmap.mem_iff.mpr ⟨c', h⟩)
    rw [Finmap.lookup_insert_of_ne _ hne, h]

/-- After `handle_prepare` the epoch has a configuration: the saved one, or the message's. -/
theorem savePrepare_lookup_epoch (ps : PersistentState ι) (c : Configuration ι) (s : Share) :
    (ps.savePrepare c s).configs.lookup c.epoch =
      (ps.configs.lookup c.epoch).orElse fun _ => some c := by
  rw [savePrepare_configs]
  split_ifs with hc
  · obtain ⟨c', hc'⟩ := Finmap.mem_iff.mp hc
    rw [hc']
    rfl
  · rw [Finmap.lookup_insert, Finmap.lookup_eq_none.mpr hc]
    rfl

/-- After `handle_prepare` the epoch is prepared. -/
theorem savePrepare_hasPrepared (ps : PersistentState ι) (c : Configuration ι) (s : Share) :
    (ps.savePrepare c s).hasPrepared c.epoch := by
  refine ⟨Finmap.mem_iff.mpr ?_, by simp⟩
  rw [savePrepare_lookup_epoch]
  cases ps.configs.lookup c.epoch <;> simp

theorem saveConfigAndShare_hasPrepared (ps : PersistentState ι) (c : Configuration ι)
    (s : Share) : (ps.saveConfigAndShare c s).hasPrepared c.epoch :=
  ⟨by simp, by simp⟩

/-! Where a configuration found after a write came from: it was there, or it is the one saved. -/

theorem saveConfig_lookup_eq_some {ps : PersistentState ι} {c c' : Configuration ι} {e : Nat}
    (h : (ps.saveConfig c).configs.lookup e = some c') : ps.configs.lookup e = some c' ∨ c' = c :=
  (Finmap.lookup_insert_eq_some h).symm.imp_right And.right

theorem saveConfigAndShare_lookup_eq_some {ps : PersistentState ι} {c c' : Configuration ι}
    {s : Share} {e : Nat} (h : (ps.saveConfigAndShare c s).configs.lookup e = some c') :
    ps.configs.lookup e = some c' ∨ c' = c :=
  saveConfig_lookup_eq_some (c := c) h

theorem savePrepare_lookup_eq_some {ps : PersistentState ι} {c c' : Configuration ι} {s : Share}
    {e : Nat} (h : (ps.savePrepare c s).configs.lookup e = some c') :
    ps.configs.lookup e = some c' ∨ c' = c := by
  rw [savePrepare_configs] at h
  split_ifs at h
  · exact .inl h
  · exact saveConfig_lookup_eq_some (c := c) h

/-! ## 2. The latest epochs -/

theorem latestCommittedEpoch_eq_some {ps : PersistentState ι} {e : Nat} :
    ps.latestCommittedEpoch = some e ↔ e ∈ ps.commits ∧ ∀ x ∈ ps.commits, x ≤ e := by
  unfold latestCommittedEpoch
  split_ifs with h
  · simp only [Option.some.injEq]
    constructor
    · rintro rfl
      exact ⟨Finset.max'_mem _ _, fun x hx => Finset.le_max' _ _ hx⟩
    · rintro ⟨he, hmax⟩
      exact le_antisymm (Finset.max'_le _ _ _ hmax) (Finset.le_max' _ _ he)
  · simp only [false_iff, not_and, not_forall]
    intro he
    exact absurd ⟨e, he⟩ h

theorem latestCommittedEpoch_eq_none {ps : PersistentState ι} :
    ps.latestCommittedEpoch = none ↔ ps.commits = ∅ := by
  unfold latestCommittedEpoch
  split_ifs with h
  · simp only [false_iff]
    exact h.ne_empty
  · simpa [Finset.not_nonempty_iff_eq_empty] using h

theorem mem_commits_le_latest {ps : PersistentState ι} {e : Nat} (he : e ∈ ps.commits) :
    ∃ l, ps.latestCommittedEpoch = some l ∧ e ≤ l := by
  unfold latestCommittedEpoch
  rw [dif_pos ⟨e, he⟩]
  exact ⟨_, rfl, Finset.le_max' _ _ he⟩

theorem latestConfig_eq_some {ps : PersistentState ι} {c : Configuration ι}
    (h : ps.latestConfig = some c) :
    ∃ e, ps.configs.lookup e = some c ∧ ∀ x ∈ ps.configs, x ≤ e := by
  unfold latestConfig at h
  split_ifs at h with hne
  exact ⟨_, h, fun x hx => Finset.le_max' _ _ (Finmap.mem_keys.mpr hx)⟩

theorem latestConfig_isSome {ps : PersistentState ι} :
    ps.latestConfig.isSome ↔ ps.configs ≠ ∅ := by
  unfold latestConfig
  split_ifs with hne
  · have hmem : _ ∈ ps.configs := Finmap.mem_keys.mp (Finset.max'_mem _ hne)
    obtain ⟨c, hc⟩ := Finmap.mem_iff.mp hmem
    simp only [hc, Option.isSome_some, ne_eq, true_iff]
    intro h
    rw [h, Finmap.keys_empty] at hne
    exact Finset.not_nonempty_empty hne
  · simp only [Option.isSome_none, Bool.false_eq_true, ne_eq, false_iff, not_not]
    apply Finmap.ext_lookup
    intro x
    rw [Finmap.lookup_empty, Finmap.lookup_eq_none]
    exact fun hx => hne ⟨x, Finmap.mem_keys.mpr hx⟩

/-- A configuration under an epoch no saved one exceeds is the latest. -/
theorem latestConfig_eq_of_max {ps : PersistentState ι} {e : Nat} {c : Configuration ι}
    (h : ps.configs.lookup e = some c) (hmax : ∀ x ∈ ps.configs, x ≤ e) :
    ps.latestConfig = some c := by
  have he : e ∈ ps.configs.keys := Finmap.mem_keys.mpr (Finmap.mem_of_lookup_eq_some h)
  have hmax' : ps.configs.keys.max' ⟨e, he⟩ = e :=
    le_antisymm (Finset.max'_le _ _ _ fun x hx => hmax x (Finmap.mem_keys.mp hx))
      (Finset.le_max' _ _ he)
  unfold latestConfig
  rw [dif_pos ⟨e, he⟩, hmax', h]

/-- The latest committed configuration is a committed epoch's configuration. -/
theorem latestCommittedConfiguration_mem {ps : PersistentState ι} {c : Configuration ι}
    (h : ps.latestCommittedConfiguration = some (some c)) :
    ∃ e ∈ ps.commits, ps.configs.lookup e = some c := by
  unfold latestCommittedConfiguration at h
  split at h
  · cases h
  · rename_i e he
    simp only [configuration, Option.map_eq_some_iff, Option.some.injEq, exists_eq_right] at h
    exact ⟨e, (latestCommittedEpoch_eq_some.mp he).1, h⟩

/-- A node with a configuration has a rack id. -/
theorem rackId_isSome_of_mem {ps : PersistentState ι} {e : Nat} (he : e ∈ ps.configs) :
    ps.rackId.isSome := by
  have hne : ps.configs ≠ ∅ := by
    rintro h
    rw [h] at he
    exact Finmap.notMem_empty he
  obtain ⟨c, hc⟩ := Option.isSome_iff_exists.mp (latestConfig_isSome.mpr hne)
  simp [rackId, hc]

/-! ## 3. What no update undoes -/

/-- `ps'` extends `ps`: saved configurations stay as they are; epochs with a share, commits and
    an expungement stay; the LRTQ package never changes. -/
structure Extends (ps ps' : PersistentState ι) : Prop where
  configs : ∀ e c, ps.configs.lookup e = some c → ps'.configs.lookup e = some c
  shares : ∀ e, e ∈ ps.shares → e ∈ ps'.shares
  commits : ps.commits ⊆ ps'.commits
  expunged : ∀ m, ps.expunged = some m → ps'.expunged = some m
  lrtq : ps'.lrtq = ps.lrtq

namespace Extends

@[refl] theorem refl (ps : PersistentState ι) : Extends ps ps :=
  ⟨fun _ _ h => h, fun _ h => h, subset_rfl, fun _ h => h, rfl⟩

theorem trans {ps₁ ps₂ ps₃ : PersistentState ι} (h₁ : Extends ps₁ ps₂) (h₂ : Extends ps₂ ps₃) :
    Extends ps₁ ps₃ :=
  ⟨fun e c h => h₂.configs e c (h₁.configs e c h), fun e h => h₂.shares e (h₁.shares e h),
    h₁.commits.trans h₂.commits, fun m h => h₂.expunged m (h₁.expunged m h),
    h₂.lrtq.trans h₁.lrtq⟩

theorem mem_configs {ps ps' : PersistentState ι} (h : Extends ps ps') {e : Nat}
    (he : e ∈ ps.configs) : e ∈ ps'.configs := by
  obtain ⟨c, hc⟩ := Finmap.mem_iff.mp he
  exact Finmap.mem_iff.mpr ⟨c, h.configs e c hc⟩

theorem hasPrepared {ps ps' : PersistentState ι} (h : Extends ps ps') {e : Nat}
    (he : ps.hasPrepared e) : ps'.hasPrepared e :=
  ⟨h.mem_configs he.1, h.shares e he.2⟩

theorem latestCommittedEpoch_le {ps ps' : PersistentState ι} (h : Extends ps ps') {l : Nat}
    (hl : ps.latestCommittedEpoch = some l) : ∃ l', ps'.latestCommittedEpoch = some l' ∧ l ≤ l' :=
  mem_commits_le_latest (h.commits (latestCommittedEpoch_eq_some.mp hl).1)

end Extends

theorem extends_commit (ps : PersistentState ι) (e : Nat) : Extends ps (ps.commit e) :=
  ⟨fun _ _ h => h, fun _ h => h, Finset.subset_insert _ _, fun _ h => h, rfl⟩

theorem extends_saveConfig {ps : PersistentState ι} {c : Configuration ι}
    (hc : c.epoch ∉ ps.configs) : Extends ps (ps.saveConfig c) := by
  refine ⟨fun e c' h => ?_, fun _ h => h, subset_rfl, fun _ h => h, rfl⟩
  have hne : e ≠ c.epoch := by
    rintro rfl
    exact hc (Finmap.mem_iff.mpr ⟨c', h⟩)
  rw [saveConfig_configs, Finmap.lookup_insert_of_ne _ hne, h]

theorem extends_savePrepare (ps : PersistentState ι) (c : Configuration ι) (s : Share) :
    Extends ps (ps.savePrepare c s) :=
  ⟨fun _ _ h => savePrepare_lookup_of_mem h,
    fun _ h => by rw [savePrepare_shares, Finmap.mem_insert]; exact .inr h,
    subset_rfl, fun _ h => h, rfl⟩

theorem extends_saveConfigAndShare {ps : PersistentState ι} {c : Configuration ι} (s : Share)
    (hc : c.epoch ∉ ps.configs) : Extends ps (ps.saveConfigAndShare c s) :=
  ⟨(extends_saveConfig hc).configs,
    fun _ h => by rw [saveConfigAndShare_shares, Finmap.mem_insert]; exact .inr h,
    subset_rfl, fun _ h => h, rfl⟩

theorem extends_saveShareAndCommit (ps : PersistentState ι) (e : Nat) (s : Share) :
    Extends ps (ps.saveShareAndCommit e s) :=
  ⟨fun _ _ h => h, fun _ h => by rw [saveShareAndCommit_shares, Finmap.mem_insert]; exact .inr h,
    Finset.subset_insert _ _, fun _ h => h, rfl⟩

theorem extends_expunge {ps : PersistentState ι} (m : ExpungedMetadata ι)
    (h : ps.expunged = none) : Extends ps (ps.expunge m) := by
  refine ⟨fun _ _ h => h, fun _ h => h, subset_rfl, fun m' h' => ?_, rfl⟩
  rw [h] at h'
  cases h'

/-! ## 4. Well-formed ledgers -/

/-- What the protocol keeps true of a node's persistent state: each configuration is saved
    under its own epoch, and an epoch is committed only once its configuration and our share of
    it are saved. -/
structure Wf (ps : PersistentState ι) : Prop where
  keyed : ∀ e c, ps.configs.lookup e = some c → c.epoch = e
  committed : ∀ e ∈ ps.commits, ps.hasPrepared e

/-- Saving a configuration under its own epoch keeps every configuration under its epoch. -/
theorem keyed_insert {configs : Finmap fun _ : Nat => Configuration ι}
    (hk : ∀ e c, configs.lookup e = some c → c.epoch = e) (c : Configuration ι) :
    ∀ e c', (configs.insert c.epoch c).lookup e = some c' → c'.epoch = e := by
  intro e c' h
  by_cases he : e = c.epoch
  · subst he
    rw [Finmap.lookup_insert, Option.some.injEq] at h
    exact h ▸ rfl
  · rw [Finmap.lookup_insert_of_ne _ he] at h
    exact hk e c' h

namespace Wf

variable {ps : PersistentState ι}

theorem empty : Wf (PersistentState.empty : PersistentState ι) :=
  ⟨fun _ _ h => by simp [PersistentState.empty] at h, fun _ h => by simp [PersistentState.empty] at h⟩

theorem newLrtqOnly (d : LrtqShareData) : Wf (PersistentState.newLrtqOnly d : PersistentState ι) :=
  ⟨fun _ _ h => by simp [PersistentState.newLrtqOnly] at h,
    fun _ h => by simp [PersistentState.newLrtqOnly] at h⟩

theorem commit (h : Wf ps) {e : Nat} (he : ps.hasPrepared e) : Wf (ps.commit e) := by
  refine ⟨h.keyed, fun x hx => ?_⟩
  rw [commit_commits, Finset.mem_insert] at hx
  rcases hx with rfl | hx
  · exact he
  · exact h.committed x hx

theorem saveConfig (h : Wf ps) {c : Configuration ι} (hc : c.epoch ∉ ps.configs) :
    Wf (ps.saveConfig c) :=
  ⟨keyed_insert h.keyed c, fun e he => (extends_saveConfig hc).hasPrepared (h.committed e he)⟩

theorem savePrepare (h : Wf ps) (c : Configuration ι) (s : Share) : Wf (ps.savePrepare c s) := by
  refine ⟨fun e c' hc' => ?_, fun e he => (extends_savePrepare ps c s).hasPrepared
    (h.committed e he)⟩
  rw [savePrepare_configs] at hc'
  split_ifs at hc'
  · exact h.keyed e c' hc'
  · exact keyed_insert h.keyed c e c' hc'

theorem saveConfigAndShare (h : Wf ps) {c : Configuration ι} (hc : c.epoch ∉ ps.configs)
    (s : Share) : Wf (ps.saveConfigAndShare c s) :=
  ⟨keyed_insert h.keyed c, fun e he =>
    (extends_saveConfigAndShare s hc).hasPrepared (h.committed e he)⟩

/-- The key share computer's write: the share it computed, for an epoch whose configuration is
    saved, with the commit. -/
theorem saveShareAndCommit (h : Wf ps) {e : Nat} (he : e ∈ ps.configs) (s : Share) :
    Wf (ps.saveShareAndCommit e s) := by
  refine ⟨h.keyed, fun x hx => ?_⟩
  rw [saveShareAndCommit_commits, Finset.mem_insert] at hx
  rcases hx with rfl | hx
  · exact ⟨he, by simp⟩
  · exact (extends_saveShareAndCommit ps e s).hasPrepared (h.committed x hx)

theorem expunge (h : Wf ps) (m : ExpungedMetadata ι) : Wf (ps.expunge m) :=
  ⟨h.keyed, h.committed⟩

/-- The latest configuration is saved under its own epoch, the largest. -/
theorem latestConfig_eq_some (h : Wf ps) {c : Configuration ι} (hl : ps.latestConfig = some c) :
    ps.configs.lookup c.epoch = some c ∧ ∀ e ∈ ps.configs, e ≤ c.epoch := by
  obtain ⟨e, hc, hmax⟩ := PersistentState.latestConfig_eq_some hl
  rw [h.keyed e c hc]
  exact ⟨hc, hmax⟩

/-- Every saved epoch is at most the latest configuration's: a bound on that one bounds them
    all. -/
theorem lt_of_latestConfig (h : Wf ps) {bound : Nat}
    (hl : ∀ c, ps.latestConfig = some c → c.epoch < bound) : ∀ e ∈ ps.configs, e < bound := by
  intro e he
  have hne : ps.configs ≠ ∅ := by
    rintro hempty
    rw [hempty] at he
    exact Finmap.notMem_empty he
  obtain ⟨c, hc⟩ := Option.isSome_iff_exists.mp (latestConfig_isSome.mpr hne)
  calc e ≤ c.epoch := (h.latestConfig_eq_some hc).2 e he
    _ < bound := hl c hc

/-- **`latest_committed_configuration`** never reaches its `expect` on a well-formed ledger. -/
theorem latestCommittedConfiguration_isSome {ps : PersistentState ι} (h : Wf ps) :
    ps.latestCommittedConfiguration.isSome := by
  unfold latestCommittedConfiguration
  split
  · rfl
  · rename_i e he
    obtain ⟨c, hc⟩ := Finmap.mem_iff.mp (h.committed e (latestCommittedEpoch_eq_some.mp he).1).1
    simp [configuration, hc]

/-- **`latest_committed_config_and_share`** never reaches either `expect` on a well-formed
    ledger. -/
theorem latestCommittedConfigAndShare_isSome {ps : PersistentState ι} (h : Wf ps) :
    ps.latestCommittedConfigAndShare.isSome := by
  unfold latestCommittedConfigAndShare
  split
  · rfl
  · rename_i e he
    obtain ⟨hc, hs⟩ := h.committed e (latestCommittedEpoch_eq_some.mp he).1
    obtain ⟨c, hc⟩ := Finmap.mem_iff.mp hc
    obtain ⟨s, hs⟩ := Finmap.mem_iff.mp hs
    simp [hc, hs]

end Wf

end PersistentState

end Omicron.TrustQuorum
