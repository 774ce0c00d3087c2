import Omicron.Lib.SortedFinmap

/-!
# Reconfigurator: planning MGS-driven updates

`MgsUpdatePlanner::plan` (`planning::mgs_updates`) decides which SP, RoT and host updates the
next blueprint carries, at most one per baseboard (`PendingMgsUpdates` is keyed by baseboard
and its `insert` overwrites):

* the current updates are looked at in baseboard order; one that is done, or impossible under
  `Reevaluate`, is dropped and its board preferred. Every other update is kept: not done, of
  unknown status, or impossible under `Keep`;
* with a target release, the current boards are then tried, preferred boards first, while fewer
  than `nmax_updates` updates are pending; `try_make_update` tries the components of a board in
  the order RoT bootloader, RoT, SP, host OS, and the first that needs an update gives it.

What `plan` reads of inventory and of the target release is left abstract: the status of an
update (`mgs_update_status`) and the outcome of each component's `try_make_update` are
parameters, `Planner`, and every result holds for every such pair.

`plan_len_le` bounds the number of updates by `max nmax_updates |kept|`, and
`plan_keeps_of_nmax_le` shows that the kept updates survive when there are at least
`nmax_updates` of them, always the case under today's policy of one (with none kept there is
nothing to keep). With room for a second update, a board that has a kept update is tried again
and its new update overwrites the kept one (`plan_overwrites_kept_update`).
-/

namespace Omicron.Planning

/-- `MgsUpdateStatus`. -/
inductive MgsUpdateStatus where
  | done
  | notDone
  | impossible
  deriving DecidableEq, Repr

/-- `ImpossibleUpdatePolicy`. -/
inductive ImpossibleUpdatePolicy where
  | keep
  | reevaluate
  deriving DecidableEq, Repr

/-- `MgsUpdateComponent`. -/
inductive MgsUpdateComponent where
  | rotBootloader
  | rot
  | sp
  | hostOs
  deriving DecidableEq, Repr

/-- `PendingMgsUpdate`: the baseboard, and what to do to it (its type and slot, the component's
    details, the artifact's hash and version), kept abstract as `details`. -/
structure PendingMgsUpdate (β υ : Type) where
  baseboardId : β
  details : υ
  deriving DecidableEq

variable {β σ χ υ ε εs τ : Type} [LinearOrder β]

/-- `PendingMgsUpdates`: the updates by baseboard, each under its own baseboard (the key of the
    `IdOrdMap`). -/
structure PendingMgsUpdates (β υ : Type) [LinearOrder β] where
  byBaseboard : Finmap fun _ : β => PendingMgsUpdate β υ
  key_eq : ∀ {b u}, byBaseboard.lookup b = some u → u.baseboardId = b

namespace PendingMgsUpdates

/-- `PendingMgsUpdates::new`. -/
def new : PendingMgsUpdates β υ := ⟨∅, by simp⟩

/-- `PendingMgsUpdates::len`. -/
def len (updates : PendingMgsUpdates β υ) : Nat := updates.byBaseboard.keys.card

/-- `PendingMgsUpdates::iter`: by baseboard. -/
def iter (updates : PendingMgsUpdates β υ) : List (PendingMgsUpdate β υ) :=
  updates.byBaseboard.sortedValues

/-- `PendingMgsUpdates::insert`, an `insert_overwrite`: the update replaces the one of its
    baseboard. -/
def insert (updates : PendingMgsUpdates β υ) (update : PendingMgsUpdate β υ) :
    PendingMgsUpdates β υ where
  byBaseboard := updates.byBaseboard.insert update.baseboardId update
  key_eq {b u} h := by
    by_cases hb : b = update.baseboardId
    · subst hb
      rw [Finmap.lookup_insert] at h
      cases h
      rfl
    · rw [Finmap.lookup_insert_of_ne _ hb] at h
      exact updates.key_eq h

theorem lookup_insert (updates : PendingMgsUpdates β υ) (update : PendingMgsUpdate β υ) (b : β) :
    (updates.insert update).byBaseboard.lookup b =
      if b = update.baseboardId then some update else updates.byBaseboard.lookup b := by
  by_cases hb : b = update.baseboardId
  · subst hb
    simp [insert]
  · simp [insert, hb, Finmap.lookup_insert_of_ne _ hb]

theorem len_insert_le (updates : PendingMgsUpdates β υ) (update : PendingMgsUpdate β υ) :
    (updates.insert update).len ≤ updates.len + 1 := by
  have hsub : (updates.insert update).byBaseboard.keys ⊆
      Insert.insert update.baseboardId updates.byBaseboard.keys := by
    intro b hb
    simp only [insert, Finmap.mem_keys, Finmap.mem_insert] at hb
    simpa [Finmap.mem_keys] using hb
  calc (updates.insert update).len
      ≤ (Insert.insert update.baseboardId updates.byBaseboard.keys).card := Finset.card_le_card hsub
    _ ≤ updates.len + 1 := Finset.card_insert_le _ _

theorem len_new : (new : PendingMgsUpdates β υ).len = 0 := rfl

theorem pos_len_of_lookup {updates : PendingMgsUpdates β υ} {b : β} {u : PendingMgsUpdate β υ}
    (h : updates.byBaseboard.lookup b = some u) : 0 < updates.len := by
  unfold len
  exact Finset.card_pos.mpr ⟨b, Finmap.mem_keys.mpr (Finmap.mem_of_lookup_eq_some h)⟩

/-- The baseboards of `iter` are those of the updates, each once. -/
theorem nodup_iter_map_baseboardId (updates : PendingMgsUpdates β υ) :
    (updates.iter.map (·.baseboardId)).Nodup := by
  have hkeys : updates.iter.map (·.baseboardId) = updates.byBaseboard.sortedEntries.map Prod.fst := by
    unfold iter Finmap.sortedValues
    rw [List.map_map]
    refine List.map_congr_left fun e he => ?_
    exact updates.key_eq (Finmap.mem_sortedEntries.mp he)
  rw [hkeys]
  exact Finmap.nodup_sortedEntries_map_fst _

end PendingMgsUpdates

/-- `PendingHostPhase2Changes`: the host phase 2 contents to set, by sled. -/
abbrev PendingHostPhase2Changes (σ χ : Type) := Finmap fun _ : σ => χ

/-- `PendingHostPhase2Changes::append`: `none` is its `assert_eq!` on a sled changed twice. -/
def PendingHostPhase2Changes.append [DecidableEq σ] (self other : PendingHostPhase2Changes σ χ) :
    Option (PendingHostPhase2Changes σ χ) :=
  if Disjoint self.keys other.keys then some (self ∪ other) else none

/-- `BlockedMgsUpdate`. -/
structure BlockedMgsUpdate (β ε : Type) where
  baseboardId : β
  reason : ε

/-- `PlannedMgsUpdates`. -/
structure PlannedMgsUpdates (β σ χ υ ε : Type) [LinearOrder β] where
  pendingUpdates : PendingMgsUpdates β υ
  pendingHostPhase2Changes : PendingHostPhase2Changes σ χ
  blockedMgsUpdates : List (BlockedMgsUpdate β ε)

/-- `PlannedMgsUpdates::new`. -/
def PlannedMgsUpdates.new : PlannedMgsUpdates β σ χ υ ε := ⟨.new, ∅, []⟩

/-- `UpdateableBoard`. -/
inductive UpdateableBoard (β σ : Type) where
  | power (baseboardId : β)
  | switch (baseboardId : β)
  | sled (baseboardId : β) (sledId : σ)
  deriving DecidableEq

/-- `UpdateableBoard::baseboard_id`. -/
def UpdateableBoard.baseboardId : UpdateableBoard β σ → β
  | .power b | .switch b | .sled b _ => b

/-- `MgsUpdateOutcome`. -/
inductive MgsUpdateOutcome (β σ χ υ : Type) where
  | noUpdateNeeded
  | pending (update : PendingMgsUpdate β υ) (changes : PendingHostPhase2Changes σ χ)

/-- `TargetReleaseDescription`. -/
inductive TargetReleaseDescription (τ : Type) where
  | initial
  | tufRepo (description : τ)

/-- What the planner reads of inventory and of the target release: the status of a pending
    update (`mgs_update_status`), and the outcome of each component's `try_make_update` for a
    board under a release. -/
structure Planner (β σ χ υ ε εs τ : Type) where
  mgsUpdateStatus : PendingMgsUpdate β υ → Except εs MgsUpdateStatus
  componentUpdate : MgsUpdateComponent → UpdateableBoard β σ → τ →
    Except ε (MgsUpdateOutcome β σ χ υ)

namespace Planner

variable (P : Planner β σ χ υ ε εs τ)

/-- The loop of `try_make_update` over the components, from `component` on: the first that
    needs an update, or fails, ends it. -/
def tryComponents (board : UpdateableBoard β σ) (currentArtifacts : τ) :
    List MgsUpdateComponent → PlannedMgsUpdates β σ χ υ ε
  | [] => .new
  | component :: rest =>
    match P.componentUpdate component board currentArtifacts with
    | .ok .noUpdateNeeded => tryComponents board currentArtifacts rest
    | .ok (.pending update changes) => ⟨PendingMgsUpdates.new.insert update, changes, []⟩
    | .error reason => ⟨.new, ∅, [⟨board.baseboardId, reason⟩]⟩

/-- `try_make_update`: the components in the order of RFD 565. -/
def tryMakeUpdate (board : UpdateableBoard β σ) (currentArtifacts : τ) : PlannedMgsUpdates β σ χ υ ε :=
  P.tryComponents board currentArtifacts [.rotBootloader, .rot, .sp, .hostOs]

/-- One round of the loop over the current updates: keep the update, or prefer its board. -/
def reviewUpdate (policy : ImpossibleUpdatePolicy)
    (acc : PendingMgsUpdates β υ × Finset β) (update : PendingMgsUpdate β υ) :
    PendingMgsUpdates β υ × Finset β :=
  match P.mgsUpdateStatus update with
  | .ok .done => (acc.1, insert update.baseboardId acc.2)
  | .ok .impossible =>
    match policy with
    | .keep => (acc.1.insert update, acc.2)
    | .reevaluate => (acc.1, insert update.baseboardId acc.2)
  | .ok .notDone | .error _ => (acc.1.insert update, acc.2)

/-- Whether the loop over the current updates keeps an update: not done, of unknown status, or
    impossible under `Keep`. -/
def keeps (policy : ImpossibleUpdatePolicy) (update : PendingMgsUpdate β υ) : Bool :=
  match P.mgsUpdateStatus update with
  | .ok .done => false
  | .ok .impossible => policy == .keep
  | .ok .notDone | .error _ => true

section Loops

variable [DecidableEq σ]

/-- The loop over the candidate boards: while fewer than `nmaxUpdates` updates are pending,
    the first update `try_make_update` finds for the board is inserted. -/
def candidatesLoop (nmaxUpdates : Nat) (currentArtifacts : τ) :
    List (UpdateableBoard β σ) → PlannedMgsUpdates β σ χ υ ε → Option (PlannedMgsUpdates β σ χ υ ε)
  | [], acc => some acc
  | board :: rest, acc =>
    if nmaxUpdates ≤ acc.pendingUpdates.len then some acc
    else
      let attempt := P.tryMakeUpdate board currentArtifacts
      let pendingUpdates := match attempt.pendingUpdates.iter with
        | update :: _ => acc.pendingUpdates.insert update
        | [] => acc.pendingUpdates
      match acc.pendingHostPhase2Changes.append attempt.pendingHostPhase2Changes with
      | none => none
      | some changes =>
        candidatesLoop nmaxUpdates currentArtifacts rest
          ⟨pendingUpdates, changes, acc.blockedMgsUpdates ++ attempt.blockedMgsUpdates⟩

/-- `MgsUpdatePlanner::plan`, the current boards in the order of their set. -/
def plan (currentBoards : List (UpdateableBoard β σ)) (currentUpdates : PendingMgsUpdates β υ)
    (currentArtifacts : TargetReleaseDescription τ) (nmaxUpdates : Nat)
    (impossibleUpdatePolicy : ImpossibleUpdatePolicy) : Option (PlannedMgsUpdates β σ χ υ ε) :=
  -- the pending updates kept, and the boards preferred
  let reviewed := currentUpdates.iter.foldl (P.reviewUpdate impossibleUpdatePolicy) (.new, ∅)
  match currentArtifacts with
  | .initial => some ⟨reviewed.1, ∅, []⟩
  | .tufRepo description =>
    let candidates := currentBoards.filter (fun b => b.baseboardId ∈ reviewed.2) ++
      currentBoards.filter fun b => b.baseboardId ∉ reviewed.2
    P.candidatesLoop nmaxUpdates description candidates ⟨reviewed.1, ∅, []⟩

end Loops

theorem reviewUpdate_fst (policy : ImpossibleUpdatePolicy)
    (acc : PendingMgsUpdates β υ × Finset β) (update : PendingMgsUpdate β υ) :
    (P.reviewUpdate policy acc update).1 = if P.keeps policy update then acc.1.insert update else acc.1 := by
  unfold reviewUpdate keeps
  rcases P.mgsUpdateStatus update with _ | (_ | _ | _)
  all_goals (try cases policy) <;> rfl

section Review

variable (policy : ImpossibleUpdatePolicy)

/-- The loop over the current updates adds at most the updates it keeps. -/
theorem len_foldl_reviewUpdate_le (updates : List (PendingMgsUpdate β υ))
    (acc : PendingMgsUpdates β υ × Finset β) :
    (updates.foldl (P.reviewUpdate policy) acc).1.len ≤
      acc.1.len + (updates.filter (P.keeps policy)).length := by
  induction updates generalizing acc with
  | nil => simp
  | cons update rest ih =>
    rw [List.foldl_cons, List.filter_cons]
    have hstep : (P.reviewUpdate policy acc update).1.len ≤
        acc.1.len + if P.keeps policy update then 1 else 0 := by
      rw [reviewUpdate_fst]
      split
      · exact PendingMgsUpdates.len_insert_le _ _
      · simp
    have hrest := ih (P.reviewUpdate policy acc update)
    cases hk : P.keeps policy update
    · simp only [hk, Bool.false_eq_true, if_false] at hstep ⊢
      omega
    · simp only [hk, if_true, List.length_cons] at hstep ⊢
      omega

/-- The loop leaves the update of a baseboard that none of its updates names as it was. -/
theorem lookup_foldl_reviewUpdate_of_forall_ne (updates : List (PendingMgsUpdate β υ))
    (acc : PendingMgsUpdates β υ × Finset β) {b : β} (hb : ∀ u ∈ updates, u.baseboardId ≠ b) :
    (updates.foldl (P.reviewUpdate policy) acc).1.byBaseboard.lookup b = acc.1.byBaseboard.lookup b := by
  induction updates generalizing acc with
  | nil => rfl
  | cons update rest ih =>
    rw [List.foldl_cons, ih _ fun u hu => hb u (List.mem_cons_of_mem _ hu), reviewUpdate_fst]
    have hne : b ≠ update.baseboardId := fun h => hb update List.mem_cons_self h.symm
    split
    · rw [PendingMgsUpdates.lookup_insert, if_neg hne]
    · rfl

/-- Over updates of distinct baseboards, every update the loop keeps is in its result. -/
theorem lookup_foldl_reviewUpdate_of_keeps (updates : List (PendingMgsUpdate β υ))
    (hnodup : (updates.map (·.baseboardId)).Nodup) (acc : PendingMgsUpdates β υ × Finset β)
    {u : PendingMgsUpdate β υ} (hu : u ∈ updates) (hkeeps : P.keeps policy u) :
    (updates.foldl (P.reviewUpdate policy) acc).1.byBaseboard.lookup u.baseboardId = some u := by
  induction updates generalizing acc with
  | nil => cases hu
  | cons update rest ih =>
    rw [List.map_cons, List.nodup_cons] at hnodup
    rw [List.foldl_cons]
    rcases List.mem_cons.mp hu with rfl | hrest
    · -- the update is kept here, and no later update names its baseboard
      have hne : ∀ u' ∈ rest, u'.baseboardId ≠ u.baseboardId :=
        fun u' hu' h => hnodup.1 (h ▸ List.mem_map_of_mem hu')
      rw [lookup_foldl_reviewUpdate_of_forall_ne P policy rest _ hne, reviewUpdate_fst, if_pos hkeeps,
        PendingMgsUpdates.lookup_insert, if_pos rfl]
    · exact ih hnodup.2 _ hrest

/-- The loop over the current updates keeps exactly the updates `keeps` names, each under its
    own baseboard. -/
theorem len_reviewed (currentUpdates : PendingMgsUpdates β υ) :
    (currentUpdates.iter.foldl (P.reviewUpdate policy) (.new, ∅)).1.len =
      (currentUpdates.iter.filter (P.keeps policy)).length := by
  have hupper := P.len_foldl_reviewUpdate_le policy currentUpdates.iter (.new, ∅)
  set kept := currentUpdates.iter.filter (P.keeps policy)
  have hnodup : (kept.map (·.baseboardId)).Nodup :=
    currentUpdates.nodup_iter_map_baseboardId.sublist (List.filter_sublist.map _)
  -- each kept update sits under its own baseboard in the result
  have hsub : (kept.map (·.baseboardId)).toFinset ⊆
      (currentUpdates.iter.foldl (P.reviewUpdate policy) (.new, ∅)).1.byBaseboard.keys := by
    intro b hb
    obtain ⟨u, hu, rfl⟩ := List.mem_map.mp (List.mem_toFinset.mp hb)
    obtain ⟨hmem, hkeeps⟩ := List.mem_filter.mp hu
    rw [Finmap.mem_keys]
    exact Finmap.mem_of_lookup_eq_some (P.lookup_foldl_reviewUpdate_of_keeps policy _
      currentUpdates.nodup_iter_map_baseboardId _ hmem hkeeps)
  have hlower : kept.length ≤ (currentUpdates.iter.foldl (P.reviewUpdate policy) (.new, ∅)).1.len :=
    calc kept.length = (kept.map (·.baseboardId)).toFinset.card := by
          rw [List.toFinset_card_of_nodup hnodup, List.length_map]
      _ ≤ _ := Finset.card_le_card hsub
  rw [PendingMgsUpdates.len_new, Nat.zero_add] at hupper
  omega

end Review

section Candidates

variable [DecidableEq σ] {nmaxUpdates : Nat} {currentArtifacts : τ}

/-- With `nmaxUpdates` updates pending, the loop over the candidates adds none. -/
theorem candidatesLoop_of_le (boards : List (UpdateableBoard β σ)) {acc : PlannedMgsUpdates β σ χ υ ε}
    (h : nmaxUpdates ≤ acc.pendingUpdates.len) :
    P.candidatesLoop nmaxUpdates currentArtifacts boards acc = some acc := by
  cases boards with
  | nil => rfl
  | cons board rest => rw [candidatesLoop, if_pos h]

/-- One round of the loop over the candidates, below `nmaxUpdates`: at most one update more. -/
theorem candidatesLoop_cons_of_lt {board : UpdateableBoard β σ} {rest : List (UpdateableBoard β σ)}
    {acc r : PlannedMgsUpdates β σ χ υ ε} (hlt : ¬nmaxUpdates ≤ acc.pendingUpdates.len)
    (h : P.candidatesLoop nmaxUpdates currentArtifacts (board :: rest) acc = some r) :
    ∃ next : PlannedMgsUpdates β σ χ υ ε, next.pendingUpdates.len ≤ acc.pendingUpdates.len + 1 ∧
      P.candidatesLoop nmaxUpdates currentArtifacts rest next = some r := by
  rw [candidatesLoop, if_neg hlt] at h
  dsimp only at h
  split at h
  · cases h
  · refine ⟨_, ?_, h⟩
    -- the first update of the attempt, if any, is inserted
    split
    · exact PendingMgsUpdates.len_insert_le _ _
    · exact Nat.le_succ _

/-- The loop over the candidates stops at `nmaxUpdates` updates, or adds none. -/
theorem len_candidatesLoop_le (boards : List (UpdateableBoard β σ))
    {acc r : PlannedMgsUpdates β σ χ υ ε}
    (h : P.candidatesLoop nmaxUpdates currentArtifacts boards acc = some r) :
    r.pendingUpdates.len ≤ max nmaxUpdates acc.pendingUpdates.len := by
  induction boards generalizing acc with
  | nil =>
    cases h
    exact le_max_right _ _
  | cons board rest ih =>
    by_cases hle : nmaxUpdates ≤ acc.pendingUpdates.len
    · rw [candidatesLoop_of_le P _ hle] at h
      cases h
      exact le_max_right _ _
    · obtain ⟨next, hnext, hrest⟩ := P.candidatesLoop_cons_of_lt hle h
      have hr := ih hrest
      omega

end Candidates

section Plan

variable [DecidableEq σ] {currentBoards : List (UpdateableBoard β σ)}
  {currentUpdates : PendingMgsUpdates β υ} {currentArtifacts : TargetReleaseDescription τ}
  {nmaxUpdates : Nat} {policy : ImpossibleUpdatePolicy} {planned : PlannedMgsUpdates β σ χ υ ε}

/-- What `plan` starts its loop over the candidates from: the kept updates. -/
theorem plan_eq_candidatesLoop {description : τ} :
    P.plan currentBoards currentUpdates (.tufRepo description) nmaxUpdates policy =
      P.candidatesLoop nmaxUpdates description
        (currentBoards.filter (fun b => b.baseboardId ∈
            (currentUpdates.iter.foldl (P.reviewUpdate policy) (.new, ∅)).2) ++
          currentBoards.filter fun b => b.baseboardId ∉
            (currentUpdates.iter.foldl (P.reviewUpdate policy) (.new, ∅)).2)
        ⟨(currentUpdates.iter.foldl (P.reviewUpdate policy) (.new, ∅)).1, ∅, []⟩ := rfl

/-- `plan` holds at most `max nmax_updates |K|` updates, `K` the kept ones. -/
theorem plan_len_le (h : P.plan currentBoards currentUpdates currentArtifacts nmaxUpdates policy = some planned) :
    planned.pendingUpdates.len ≤ max nmaxUpdates (currentUpdates.iter.filter (P.keeps policy)).length := by
  rw [← P.len_reviewed policy currentUpdates]
  cases currentArtifacts with
  | initial =>
    cases h
    exact le_max_right _ _
  | tufRepo description =>
    rw [plan_eq_candidatesLoop] at h
    exact P.len_candidatesLoop_le _ h

/-- With at least `nmax_updates` updates kept, as always under today's policy of one, `plan` adds
    none, and every kept update is in its result unchanged. -/
theorem plan_keeps_of_nmax_le
    (hle : nmaxUpdates ≤ (currentUpdates.iter.filter (P.keeps policy)).length)
    (h : P.plan currentBoards currentUpdates currentArtifacts nmaxUpdates policy = some planned)
    {u : PendingMgsUpdate β υ} (hu : u ∈ currentUpdates.iter) (hkeeps : P.keeps policy u) :
    planned.pendingUpdates.byBaseboard.lookup u.baseboardId = some u := by
  have hkept := P.lookup_foldl_reviewUpdate_of_keeps policy _
    currentUpdates.nodup_iter_map_baseboardId (.new, ∅) hu hkeeps
  cases currentArtifacts with
  | initial =>
    cases h
    exact hkept
  | tufRepo description =>
    rw [← P.len_reviewed policy currentUpdates] at hle
    rw [plan_eq_candidatesLoop, candidatesLoop_of_le P _ hle] at h
    cases h
    exact hkept

end Plan

end Planner

/-- An inventory in which the RoT of every board is behind the target release, while the SP
    update in flight is not done. -/
def rotBehind : Planner Nat Nat Unit String Unit Unit Unit where
  mgsUpdateStatus _ := .ok .notDone
  componentUpdate component board _ :=
    match component with
    | .rot => .ok (.pending ⟨board.baseboardId, "rot"⟩ ∅)
    | _ => .ok .noUpdateNeeded

theorem plan_overwrites_kept_update :
    rotBehind.mgsUpdateStatus ⟨1, "sp"⟩ = .ok .notDone ∧
    (PendingMgsUpdates.new.insert ⟨1, "sp"⟩).iter = [⟨1, "sp"⟩] ∧
    ∃ planned, rotBehind.plan [.power 1] (PendingMgsUpdates.new.insert ⟨1, "sp"⟩) (.tufRepo ()) 2
        .keep = some planned ∧
      planned.pendingUpdates.iter = [⟨1, "rot"⟩] :=
  ⟨rfl, rfl, _, rfl, rfl⟩

end Omicron.Planning
