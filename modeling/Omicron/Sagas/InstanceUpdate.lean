import Omicron.Planning.Clickhouse

/-!
# The instance update saga: what an update requires

`UpdatesRequired::for_instance` (`app::sagas::instance_update`) reads a snapshot of an instance
(`InstanceGestalt`: the instance, the VMMs its active and target Propolis ids name, and the
migration its migration id names) and decides what the update saga writes back. Its body is a run
of blocks over a few mutable locals, kept here as one block each, in the source's order:

* `activeVmmDestroyed` -- a terminal active VMM unlinks the active Propolis id;
* `targetVmmDestroyed` -- a terminal target VMM unlinks the target Propolis id;
* `migrationUpdate` -- a failed migration is cleared; a completed one moves the active id to the
  target (the `expect` on the target VMM is `none`), drops it again if the target is gone, and
  is cleared once the target reports completion;
* `deprovisionIfNoVmm` -- with no active id left the instance is deprovisioned and its network
  configuration deleted.

`Generation::next` is the one other panic (`none`), past `i64::MAX`. The time stamp the update
writes (`Utc::now()`) and the log lines are left out. `Records.gestalt` reads a snapshot the way
`instance_fetch_all` does, so that the snapshot after an update can be re-read from the same
records.
-/

namespace Omicron.Sagas

open Omicron.Planning (Generation)

/-- `VmmState`. -/
inductive VmmState where
  | creating
  | starting
  | running
  | stopping
  | stopped
  | rebooting
  | migrating
  | failed
  | destroyed
  | sagaUnwound
  deriving DecidableEq, Repr

/-- `VmmState::is_terminal`: `Destroyed` or `Failed`. -/
def VmmState.isTerminal : VmmState → Bool
  | .destroyed | .failed => true
  | _ => false

/-- `MigrationState`. -/
inductive MigrationState where
  | pending
  | inProgress
  | completed
  | failed
  deriving DecidableEq, Repr

/-- `InstanceState`, the instance's own state without a VMM. -/
inductive InstanceState where
  | creating
  | noVmm
  | vmm
  | failed
  | destroyed
  deriving DecidableEq, Repr

/-- `InstanceIntendedState`. -/
inductive InstanceIntendedState where
  | running
  | stopped
  | guestShutdown
  | destroyed
  deriving DecidableEq, Repr

variable {υ σ π : Type}

/-- `Vmm`: its id, its sled and its state. -/
structure Vmm (υ σ : Type) where
  id : υ
  sledId : σ
  state : VmmState

/-- `Migration`: its id, and both sides' Propolis ids and states. -/
structure Migration (υ : Type) where
  id : υ
  sourceState : MigrationState
  targetState : MigrationState
  sourcePropolisId : υ
  targetPropolisId : υ

/-- `Migration::either_side_failed`. -/
def Migration.eitherSideFailed (self : Migration υ) : Bool :=
  self.sourceState == .failed || self.targetState == .failed

/-- `Migration::either_side_completed`. -/
def Migration.eitherSideCompleted (self : Migration υ) : Bool :=
  self.sourceState == .completed || self.targetState == .completed

/-- `InstanceRuntimeState`, less its time stamp. -/
structure InstanceRuntimeState (υ : Type) where
  generation : Generation
  propolisId : Option υ
  dstPropolisId : Option υ
  migrationId : Option υ
  nexusState : InstanceState

/-- `Instance`: its runtime state, its intended state, and what deprovisioning releases. -/
structure Instance (υ π : Type) where
  runtime : InstanceRuntimeState υ
  intendedState : InstanceIntendedState
  projectId : π
  ncpus : Nat
  memory : Nat

/-- `InstanceGestalt`, its `instance` field named `inst`. -/
structure InstanceGestalt (υ σ π : Type) where
  inst : Instance υ π
  activeVmm : Option (Vmm υ σ)
  targetVmm : Option (Vmm υ σ)
  migration : Option (Migration υ)

/-- `MigrateSuccessUpdate`. -/
structure MigrateSuccessUpdate (υ : Type) where
  activeVmmId : υ
  targetVmmId : υ

/-- `NetworkConfigUpdate`. -/
inductive NetworkConfigUpdate (υ σ : Type) where
  | delete
  | update (activePropolisId : υ) (newSledId : σ)

/-- `NetworkConfigUpdate::to_vmm`. -/
def NetworkConfigUpdate.toVmm (vmm : Vmm υ σ) : NetworkConfigUpdate υ σ :=
  .update vmm.id vmm.sledId

/-- `Deprovision`. -/
structure Deprovision (π : Type) where
  projectId : π
  cpusDiff : Int
  ramDiff : Nat

/-- `UpdatesRequired`. -/
structure UpdatesRequired (υ σ π : Type) where
  newRuntime : InstanceRuntimeState υ
  newIntent : Option InstanceIntendedState
  destroyActiveVmm : Option υ
  updateSledReservationsForMigrationSuccess : Option (MigrateSuccessUpdate υ)
  destroyTargetVmm : Option υ
  deprovision : Option (Deprovision π)
  networkConfig : Option (NetworkConfigUpdate υ σ)

/-! ## 1. The blocks of `for_instance` -/

/-- The mutable locals of `for_instance`. -/
structure Locals (υ σ : Type) where
  newRuntime : InstanceRuntimeState υ
  newIntent : Option InstanceIntendedState
  updateRequired : Bool
  activeVmmFailed : Bool
  networkConfig : Option (NetworkConfigUpdate υ σ)
  updateSledReservationsForMigrationSuccess : Option (MigrateSuccessUpdate υ)

namespace Locals

/-- The locals with a new active Propolis id. -/
def setPropolisId (l : Locals υ σ) (propolisId : Option υ) : Locals υ σ :=
  { l with newRuntime := { l.newRuntime with propolisId := propolisId } }

/-- The locals with the migration ids cleared. -/
def clearMigrationIds (l : Locals υ σ) : Locals υ σ :=
  { l with newRuntime := { l.newRuntime with migrationId := none, dstPropolisId := none } }

end Locals

/-- "Has the active VMM been destroyed?": a terminal active VMM is unlinked and returned for
    destruction; a failed one marks the instance failed, and one that stopped while meant to run,
    with no migration, records that the guest shut down. -/
def activeVmmDestroyed (snapshot : InstanceGestalt υ σ π) (l : Locals υ σ) :
    Locals υ σ × Option υ :=
  match snapshot.activeVmm with
  | none => (l, none)
  | some activeVmm =>
    if activeVmm.state.isTerminal then
      let l := { l.setPropolisId none with updateRequired := true }
      let l :=
        if activeVmm.state = .failed then { l with activeVmmFailed := true }
        else if snapshot.inst.intendedState = .running ∧ snapshot.migration.isNone then
          { l with newIntent := some .guestShutdown }
        else l
      (l, some activeVmm.id)
    else (l, none)

/-- "Okay, what about the target?": a terminal target VMM is unlinked and returned for
    destruction. -/
def targetVmmDestroyed (snapshot : InstanceGestalt υ σ π) (l : Locals υ σ) :
    Locals υ σ × Option υ :=
  match snapshot.targetVmm with
  | none => (l, none)
  | some targetVmm =>
    if targetVmm.state.isTerminal then
      ({ l with newRuntime := { l.newRuntime with dstPropolisId := none }, updateRequired := true },
        some targetVmm.id)
    else (l, none)

/-- The failed-migration branch: the migration ids are cleared, and while the active VMM lives the
    network configuration points back at it. -/
def migrationFailed (snapshot : InstanceGestalt υ σ π) (destroyActiveVmm : Option υ)
    (l : Locals υ σ) : Locals υ σ :=
  let l := { l.clearMigrationIds with updateRequired := true }
  if destroyActiveVmm.isNone then
    match snapshot.activeVmm with
    | some activeVmm => { l with networkConfig := some (.toVmm activeVmm) }
    | none => l
  else l

/-- "setting active VMM ID to target and updating network config", unless the active id is the
    target's already. `none` is the `expect` on the target VMM. -/
def moveToTarget [DecidableEq υ] (snapshot : InstanceGestalt υ σ π) (migration : Migration υ)
    (l : Locals υ σ) : Option (Locals υ σ) :=
  if l.newRuntime.propolisId ≠ some migration.targetPropolisId then
    snapshot.targetVmm.map fun newVmm =>
      { l.setPropolisId (some migration.targetPropolisId) with
        networkConfig := some (.toVmm newVmm), updateRequired := true }
  else some l

/-- "target VMM has gone away": no active VMM is left. -/
def dropGoneTarget (destroyTargetVmm : Option υ) (l : Locals υ σ) : Locals υ σ :=
  if destroyTargetVmm.isSome then { l.setPropolisId none with updateRequired := true } else l

/-- "migration target completed: clearing migration IDs", and the sled reservations move. -/
def clearCompletedMigration (migration : Migration υ) (l : Locals υ σ) : Locals υ σ :=
  if migration.targetState = .completed then
    { l.clearMigrationIds with
      updateSledReservationsForMigrationSuccess :=
        some ⟨migration.sourcePropolisId, migration.targetPropolisId⟩
      updateRequired := true }
  else l

/-- The completed-migration branch: its three steps in order. -/
def migrationCompleted [DecidableEq υ] (snapshot : InstanceGestalt υ σ π) (migration : Migration υ)
    (destroyTargetVmm : Option υ) (l : Locals υ σ) : Option (Locals υ σ) :=
  (moveToTarget snapshot migration l).map fun l =>
    clearCompletedMigration migration (dropGoneTarget destroyTargetVmm l)

/-- "If there's an active migration, determine how to update the instance record". -/
def migrationUpdate [DecidableEq υ] (snapshot : InstanceGestalt υ σ π) (destroyActiveVmm destroyTargetVmm : Option υ)
    (l : Locals υ σ) : Option (Locals υ σ) :=
  match snapshot.migration with
  | none => some l
  | some migration =>
    if migration.eitherSideFailed then some (migrationFailed snapshot destroyActiveVmm l)
    else if migration.eitherSideCompleted then migrationCompleted snapshot migration destroyTargetVmm l
    else some l

/-- "If the *new* state no longer has a `propolis_id` field": the instance has no VMM, its network
    configuration is deleted and its provisioning released. -/
def deprovisionIfNoVmm (snapshot : InstanceGestalt υ σ π) (l : Locals υ σ) :
    Locals υ σ × Option (Deprovision π) :=
  if l.newRuntime.propolisId.isNone then
    ({ l with
        newRuntime := { l.newRuntime with
          nexusState := if l.activeVmmFailed then .failed else .noVmm }
        networkConfig := some .delete },
      some ⟨snapshot.inst.projectId, snapshot.inst.ncpus, snapshot.inst.memory⟩)
  else (l, none)

/-- The locals as `for_instance` starts them: the runtime state with the next generation. -/
def Locals.initial (runtime : InstanceRuntimeState υ) (generation : Generation) : Locals υ σ :=
  ⟨{ runtime with generation }, none, false, false, none, none⟩

/-- `UpdatesRequired::for_instance`: `none` is a panic, `some none` no update. -/
def forInstance [DecidableEq υ] (snapshot : InstanceGestalt υ σ π) : Option (Option (UpdatesRequired υ σ π)) := do
  let generation ← snapshot.inst.runtime.generation.next
  let active := activeVmmDestroyed snapshot (.initial snapshot.inst.runtime generation)
  let target := targetVmmDestroyed snapshot active.1
  let l ← migrationUpdate snapshot active.2 target.2 target.1
  let deprovisioned := deprovisionIfNoVmm snapshot l
  if !deprovisioned.1.updateRequired then return none
  return some ⟨deprovisioned.1.newRuntime, deprovisioned.1.newIntent, active.2,
    deprovisioned.1.updateSledReservationsForMigrationSuccess, target.2, deprovisioned.2,
    deprovisioned.1.networkConfig⟩

/-! ## 2. Reading a snapshot -/

/-- The VMM and migration records a snapshot is read from, each under its own id. -/
structure Records (υ σ : Type) where
  vmm : υ → Option (Vmm υ σ)
  migration : υ → Option (Migration υ)
  vmm_id : ∀ {id v}, vmm id = some v → v.id = id
  migration_id : ∀ {id m}, migration id = some m → m.id = id

/-- `instance_fetch_all`: the records the instance's ids name. -/
def Records.gestalt (records : Records υ σ) (inst : Instance υ π) : InstanceGestalt υ σ π where
  inst := inst
  activeVmm := inst.runtime.propolisId.bind records.vmm
  targetVmm := inst.runtime.dstPropolisId.bind records.vmm
  migration := inst.runtime.migrationId.bind records.migration

section Spec

variable {snapshot : InstanceGestalt υ σ π} {l l' : Locals υ σ}

@[simp] theorem Locals.setPropolisId_newRuntime (l : Locals υ σ) (p : Option υ) :
    (l.setPropolisId p).newRuntime = { l.newRuntime with propolisId := p } := rfl

@[simp] theorem Locals.clearMigrationIds_newRuntime (l : Locals υ σ) :
    l.clearMigrationIds.newRuntime = { l.newRuntime with migrationId := none, dstPropolisId := none } := rfl

/-! ## 3. What each block writes to the runtime state -/

/-- The active block unlinks the active id exactly when it returns a VMM to destroy. -/
theorem activeVmmDestroyed_newRuntime (snapshot : InstanceGestalt υ σ π) (l : Locals υ σ) :
    (activeVmmDestroyed snapshot l).1.newRuntime =
      if (activeVmmDestroyed snapshot l).2.isSome then { l.newRuntime with propolisId := none }
      else l.newRuntime := by
  unfold activeVmmDestroyed
  split
  · rfl
  · split
    · dsimp only
      split
      · rfl
      · split <;> rfl
    · rfl

/-- The target block unlinks the target id exactly when it returns a VMM to destroy. -/
theorem targetVmmDestroyed_newRuntime (snapshot : InstanceGestalt υ σ π) (l : Locals υ σ) :
    (targetVmmDestroyed snapshot l).1.newRuntime =
      if (targetVmmDestroyed snapshot l).2.isSome then { l.newRuntime with dstPropolisId := none }
      else l.newRuntime := by
  unfold targetVmmDestroyed
  split
  · rfl
  · split <;> rfl

@[simp] theorem activeVmmFailed_targetVmmDestroyed (snapshot : InstanceGestalt υ σ π) (l : Locals υ σ) :
    (targetVmmDestroyed snapshot l).1.activeVmmFailed = l.activeVmmFailed := by
  unfold targetVmmDestroyed
  split
  · rfl
  · split <;> rfl

/-- How a step of the migration block may move the runtime state: the generation and the
    instance state stay, and the active id stays, is unlinked, or points at the target. -/
def MovesActiveId (target : Option υ) (r r' : InstanceRuntimeState υ) : Prop :=
  r'.generation = r.generation ∧ r'.nexusState = r.nexusState ∧
    (r'.propolisId = r.propolisId ∨ r'.propolisId = none ∨ r'.propolisId = target)

theorem MovesActiveId.refl (target : Option υ) (r : InstanceRuntimeState υ) : MovesActiveId target r r :=
  ⟨rfl, rfl, .inl rfl⟩

theorem MovesActiveId.trans {target : Option υ} {r r' r'' : InstanceRuntimeState υ}
    (h : MovesActiveId target r r') (h' : MovesActiveId target r' r'') : MovesActiveId target r r'' := by
  obtain ⟨hg, hn, hp⟩ := h
  obtain ⟨hg', hn', hp'⟩ := h'
  refine ⟨hg'.trans hg, hn'.trans hn, ?_⟩
  rcases hp' with hp' | hp' | hp'
  · rw [hp']
    exact hp
  · exact .inr (.inl hp')
  · exact .inr (.inr hp')

theorem moveToTarget_moves [DecidableEq υ] {migration : Migration υ}
    (h : moveToTarget snapshot migration l = some l') :
    MovesActiveId (some migration.targetPropolisId) l.newRuntime l'.newRuntime := by
  unfold moveToTarget at h
  split at h
  · obtain ⟨_, _, rfl⟩ := Option.map_eq_some_iff.mp h
    exact ⟨rfl, rfl, .inr (.inr rfl)⟩
  · cases h
    exact .refl _ _

theorem dropGoneTarget_moves (target : Option υ) (destroyTargetVmm : Option υ) (l : Locals υ σ) :
    MovesActiveId target l.newRuntime (dropGoneTarget destroyTargetVmm l).newRuntime := by
  unfold dropGoneTarget
  split
  · exact ⟨rfl, rfl, .inr (.inl rfl)⟩
  · exact .refl _ _

theorem clearCompletedMigration_moves (target : Option υ) (migration : Migration υ) (l : Locals υ σ) :
    MovesActiveId target l.newRuntime (clearCompletedMigration migration l).newRuntime := by
  unfold clearCompletedMigration
  split
  · exact ⟨rfl, rfl, .inl rfl⟩
  · exact .refl _ _

theorem migrationUpdate_moves [DecidableEq υ] {destroyActiveVmm destroyTargetVmm : Option υ}
    (h : migrationUpdate snapshot destroyActiveVmm destroyTargetVmm l = some l') :
    l'.newRuntime = l.newRuntime ∨
      ∃ m, snapshot.migration = some m ∧ MovesActiveId (some m.targetPropolisId) l.newRuntime l'.newRuntime := by
  unfold migrationUpdate at h
  split at h
  · cases h
    exact .inl rfl
  · rename_i migration hm
    refine .inr ⟨migration, hm, ?_⟩
    split at h
    · cases h
      unfold migrationFailed
      split
      · split <;> exact ⟨rfl, rfl, .inl rfl⟩
      · exact ⟨rfl, rfl, .inl rfl⟩
    · split at h
      · obtain ⟨l₁, h₁, rfl⟩ := Option.map_eq_some_iff.mp h
        exact ((moveToTarget_moves h₁).trans (dropGoneTarget_moves _ _ _)).trans
          (clearCompletedMigration_moves _ _ _)
      · cases h
        exact .refl _ _

/-! ## 4. What the last block writes -/

section Deprovision

variable (snapshot : InstanceGestalt υ σ π) (l : Locals υ σ)

@[simp] theorem generation_deprovisionIfNoVmm :
    (deprovisionIfNoVmm snapshot l).1.newRuntime.generation = l.newRuntime.generation := by
  unfold deprovisionIfNoVmm
  split <;> rfl

@[simp] theorem propolisId_deprovisionIfNoVmm :
    (deprovisionIfNoVmm snapshot l).1.newRuntime.propolisId = l.newRuntime.propolisId := by
  unfold deprovisionIfNoVmm
  split <;> rfl

@[simp] theorem updateRequired_deprovisionIfNoVmm :
    (deprovisionIfNoVmm snapshot l).1.updateRequired = l.updateRequired := by
  unfold deprovisionIfNoVmm
  split <;> rfl

/-- Deprovisioning happens exactly when no active id is left. -/
theorem isSome_deprovisionIfNoVmm :
    (deprovisionIfNoVmm snapshot l).2.isSome ↔ l.newRuntime.propolisId = none := by
  unfold deprovisionIfNoVmm
  split <;> simp_all

/-- With no active id left, the network configuration is deleted and the instance is without a
    VMM, or failed. -/
theorem deprovisionIfNoVmm_of_none (h : l.newRuntime.propolisId = none) :
    (deprovisionIfNoVmm snapshot l).1.networkConfig = some .delete ∧
      ((deprovisionIfNoVmm snapshot l).1.newRuntime.nexusState = .noVmm ∨
        (deprovisionIfNoVmm snapshot l).1.newRuntime.nexusState = .failed) := by
  unfold deprovisionIfNoVmm
  rw [if_pos (by simp [h])]
  refine ⟨rfl, ?_⟩
  dsimp only
  split
  · exact .inr rfl
  · exact .inl rfl

end Deprovision

theorem generation_activeVmmDestroyed (snapshot : InstanceGestalt υ σ π) (l : Locals υ σ) :
    (activeVmmDestroyed snapshot l).1.newRuntime.generation = l.newRuntime.generation := by
  rw [activeVmmDestroyed_newRuntime]
  split <;> rfl

/-- The VMM blocks move the active id as a migration step may: they keep the generation and the
    state, and at most unlink the active id. -/
theorem activeVmmDestroyed_moves (target : Option υ) (snapshot : InstanceGestalt υ σ π) (l : Locals υ σ) :
    MovesActiveId target l.newRuntime (activeVmmDestroyed snapshot l).1.newRuntime := by
  rw [activeVmmDestroyed_newRuntime]
  split
  · exact ⟨rfl, rfl, .inr (.inl rfl)⟩
  · exact .refl _ _

theorem targetVmmDestroyed_moves (target : Option υ) (snapshot : InstanceGestalt υ σ π) (l : Locals υ σ) :
    MovesActiveId target l.newRuntime (targetVmmDestroyed snapshot l).1.newRuntime := by
  rw [targetVmmDestroyed_newRuntime]
  split
  · exact ⟨rfl, rfl, .inl rfl⟩
  · exact .refl _ _

/-! ## 5. What an update writes -/

section ForInstance

variable [DecidableEq υ] {u : UpdatesRequired υ σ π}

/-- **What `for_instance` does when it returns an update**: the next generation, the four blocks
    in order, and an update that was required. -/
theorem forInstance_eq_some_some (h : forInstance snapshot = some (some u)) :
    ∃ generation l, snapshot.inst.runtime.generation.next = some generation ∧
      migrationUpdate snapshot
        (activeVmmDestroyed snapshot (.initial snapshot.inst.runtime generation)).2
        (targetVmmDestroyed snapshot
          (activeVmmDestroyed snapshot (.initial snapshot.inst.runtime generation)).1).2
        (targetVmmDestroyed snapshot
          (activeVmmDestroyed snapshot (.initial snapshot.inst.runtime generation)).1).1 = some l ∧
      u.newRuntime = (deprovisionIfNoVmm snapshot l).1.newRuntime ∧
      u.deprovision = (deprovisionIfNoVmm snapshot l).2 ∧
      u.networkConfig = (deprovisionIfNoVmm snapshot l).1.networkConfig := by
  unfold forInstance at h
  simp only [Option.bind_eq_bind, Option.pure_def, Option.bind_eq_some_iff] at h
  obtain ⟨generation, hgen, l, hl, hu⟩ := h
  refine ⟨generation, l, hgen, hl, ?_⟩
  split at hu
  · cases hu
  · cases hu
    exact ⟨rfl, rfl, rfl⟩

/-- **The generation goes up by one.** -/
theorem forInstance_generation (h : forInstance snapshot = some (some u)) :
    u.newRuntime.generation.val = snapshot.inst.runtime.generation.val + 1 := by
  obtain ⟨generation, l, hgen, hl, hruntime, -, -⟩ := forInstance_eq_some_some h
  have hblocks : l.newRuntime.generation = generation := by
    rcases migrationUpdate_moves hl with heq | ⟨m, -, hmoves⟩
    · rw [heq, (targetVmmDestroyed_moves none snapshot _).1, generation_activeVmmDestroyed]
      rfl
    · rw [hmoves.1, (targetVmmDestroyed_moves none snapshot _).1, generation_activeVmmDestroyed]
      rfl
  rw [hruntime, generation_deprovisionIfNoVmm, hblocks]
  exact Omicron.Planning.Generation.val_of_next_eq_some hgen

/-- **The active id stays, is unlinked, or moves to the migration's target.** -/
theorem forInstance_propolisId (h : forInstance snapshot = some (some u)) :
    u.newRuntime.propolisId = snapshot.inst.runtime.propolisId ∨ u.newRuntime.propolisId = none ∨
      ∃ m, snapshot.migration = some m ∧ u.newRuntime.propolisId = some m.targetPropolisId := by
  obtain ⟨generation, l, -, hl, hruntime, -, -⟩ := forInstance_eq_some_some h
  rw [hruntime, propolisId_deprovisionIfNoVmm]
  rcases migrationUpdate_moves hl with heq | ⟨m, hm, hmoves⟩
  · -- no migration step: only the VMM blocks moved it
    obtain ⟨-, -, hp⟩ := (activeVmmDestroyed_moves none snapshot _).trans
      (targetVmmDestroyed_moves none snapshot _)
    rw [heq]
    rcases hp with hp | hp | hp
    · exact .inl hp
    · exact .inr (.inl hp)
    · exact .inr (.inl hp)
  · obtain ⟨-, -, hp⟩ := ((activeVmmDestroyed_moves _ snapshot _).trans
      (targetVmmDestroyed_moves _ snapshot _)).trans hmoves
    rcases hp with hp | hp | hp
    · exact .inl hp
    · exact .inr (.inl hp)
    · exact .inr (.inr ⟨m, hm, hp⟩)

/-- **Deprovisioning goes with no active id**, and then the network configuration is deleted and
    the instance is without a VMM, or failed. -/
theorem forInstance_deprovision (h : forInstance snapshot = some (some u)) :
    (u.deprovision.isSome ↔ u.newRuntime.propolisId = none) ∧
      (u.newRuntime.propolisId = none → u.networkConfig = some .delete ∧
        (u.newRuntime.nexusState = .noVmm ∨ u.newRuntime.nexusState = .failed)) := by
  obtain ⟨generation, l, -, -, hruntime, hdeprovision, hnetwork⟩ := forInstance_eq_some_some h
  rw [hdeprovision, hruntime, propolisId_deprovisionIfNoVmm, hnetwork]
  exact ⟨isSome_deprovisionIfNoVmm snapshot l, deprovisionIfNoVmm_of_none snapshot l⟩

/-- The migration block does not panic when a migration that completed on either side has its
    target VMM in the snapshot. -/
theorem migrationUpdate_isSome
    (htarget : ∀ m ∈ snapshot.migration, m.eitherSideCompleted = true → snapshot.targetVmm.isSome)
    (destroyActiveVmm destroyTargetVmm : Option υ) (l : Locals υ σ) : (migrationUpdate snapshot destroyActiveVmm destroyTargetVmm l).isSome := by
  unfold migrationUpdate
  split
  · rfl
  · rename_i migration hm
    split
    · rfl
    · split
      · rename_i hcompleted
        unfold migrationCompleted moveToTarget
        split
        · rw [Option.map_map, Option.isSome_map]
          exact htarget migration hm hcompleted
        · rfl
      · rfl

/-- **`for_instance` does not panic** below the last generation, when a completed migration has
    its target VMM in the snapshot. -/
theorem forInstance_isSome (hgen : snapshot.inst.runtime.generation.val < 2 ^ 63 - 1)
    (htarget : ∀ m ∈ snapshot.migration, m.eitherSideCompleted = true → snapshot.targetVmm.isSome) :
    (forInstance snapshot).isSome := by
  obtain ⟨generation, hnext⟩ := Option.isSome_iff_exists.mp (Omicron.Planning.Generation.next_isSome hgen)
  unfold forInstance
  simp only [hnext, Option.bind_eq_bind, Option.pure_def, Option.bind_some]
  set active := activeVmmDestroyed snapshot (.initial snapshot.inst.runtime generation)
  set target := targetVmmDestroyed snapshot active.1
  obtain ⟨l, hl⟩ := Option.isSome_iff_exists.mp (migrationUpdate_isSome htarget active.2 target.2 target.1)
  rw [hl, Option.bind_some]
  split <;> rfl

end ForInstance

end Spec

/-! ## 6. The snapshot after an update -/

/-- A snapshot whose VMMs and migration agree with the instance's ids: the migration's target is
    the target id when there is one, and the active id is none or one side of the migration. -/
def InstanceGestalt.Consistent (snapshot : InstanceGestalt υ σ π) : Prop :=
  (∀ v ∈ snapshot.activeVmm, snapshot.inst.runtime.propolisId = some v.id) ∧
    (∀ v ∈ snapshot.targetVmm, snapshot.inst.runtime.dstPropolisId = some v.id) ∧
    ∀ m ∈ snapshot.migration, snapshot.inst.runtime.migrationId = some m.id ∧
      (∀ d ∈ snapshot.inst.runtime.dstPropolisId, m.targetPropolisId = d) ∧
      (snapshot.inst.runtime.propolisId = none ∨
        snapshot.inst.runtime.propolisId = some m.sourcePropolisId ∨
        snapshot.inst.runtime.propolisId = some m.targetPropolisId)

instance [DecidableEq υ] (snapshot : InstanceGestalt υ σ π) : Decidable snapshot.Consistent :=
  inferInstanceAs (Decidable (_ ∧ _ ∧ _))

/-- A migrating instance: its source VMM 1 runs, its target VMM 2 is destroyed, and migration 3
    has completed on the source side only. -/
def targetGone : Records Nat Unit where
  vmm id := if id = 1 then some ⟨1, (), .running⟩ else if id = 2 then some ⟨2, (), .destroyed⟩ else none
  migration id := if id = 3 then some ⟨3, .completed, .inProgress, 1, 2⟩ else none
  vmm_id {id v} h := by
    split_ifs at h with h1 h2
    · cases h
      exact h1.symm
    · cases h
      exact h2.symm
  migration_id {id m} h := by
    split_ifs at h with h3
    cases h
    exact h3.symm

/-- The instance of `targetGone`, at its first generation. -/
def migratingInstance : Instance Nat Unit :=
  ⟨⟨Omicron.Planning.Generation.new, some 1, some 2, some 3, .vmm⟩, .running, (), 1, 1⟩

theorem forInstance_panics_after_own_update :
    (targetGone.gestalt migratingInstance).Consistent ∧
    ∃ u : UpdatesRequired Nat Unit Unit, forInstance (targetGone.gestalt migratingInstance) = some (some u) ∧
      (targetGone.gestalt { migratingInstance with runtime := u.newRuntime }).Consistent ∧
      forInstance (targetGone.gestalt { migratingInstance with runtime := u.newRuntime }) = none :=
  ⟨by decide, _, rfl, by decide, rfl⟩

end Omicron.Sagas
