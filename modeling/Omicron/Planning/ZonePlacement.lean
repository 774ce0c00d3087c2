import Mathlib.Data.Prod.Lex
import Mathlib.Order.Compare
import Omicron.Lib.MaxHeap

/-!
# Reconfigurator: placing discretionary zones

`OmicronZonePlacement` (`planner::omicron_zone_placement`) keeps the sleds in a `BinaryHeap`
and answers each `place_zone(kind)` with the sled at the top of the heap among those eligible:
fewer zones of the kind first, then fewer discretionary zones, then the larger sled id
(`OrderedSledState::cmp`, reversed for a max-heap). The heap is ordered for one kind at a time;
`ensure_ordered_by` rebuilds it when the kind changes, so that every element carries the kind of
the heap (`OrderedSleds.ordered`, the invariant the source states in a comment and asserts in
`cmp`). Ineligible sleds are popped, kept aside and pushed back; the chosen one is pushed back
with the new zone.

The heap is `MaxHeap` keyed by `OrderedSledState.key`, which orders as `cmp` does
(`cmp_eq_compare_key`). The abstract layer says what a call is for: `PlaceSpec` (an error exactly
when no sled is eligible, else a best eligible sled gets the zone and nothing else changes) and
`PlaceRun` for a sequence of calls; `placeZone_spec` and `placeAll_run` prove the code meets them.
-/

namespace Omicron.Planning

/-- `DiscretionaryOmicronZone`. -/
inductive DiscretionaryOmicronZone where
  | boundaryNtp
  | clickhouse
  | clickhouseKeeper
  | clickhouseServer
  | cockroachDb
  | cruciblePantry
  | internalDns
  | externalDns
  | nexus
  | oximeter
  deriving DecidableEq, Repr

/-- `PlacementError`. -/
inductive PlacementError where
  | noSledsEligible (zoneKind : DiscretionaryOmicronZone)
  deriving DecidableEq, Repr

/-- `OmicronZonePlacementSledState`, over the type `ι` of sled ids. -/
structure OmicronZonePlacementSledState (ι : Type) where
  sledId : ι
  numZpools : Nat
  discretionaryZones : List DiscretionaryOmicronZone
  deriving DecidableEq, Repr

variable {ι : Type} [LinearOrder ι]

namespace OmicronZonePlacementSledState

/-- `num_discretionary_zones_of_kind`. -/
def numDiscretionaryZonesOfKind (self : OmicronZonePlacementSledState ι)
    (kind : DiscretionaryOmicronZone) : Nat :=
  (self.discretionaryZones.filter fun z => z == kind).length

/-- The sled with one more zone of kind `kind`, as `place_zone` records it. -/
def withZone (self : OmicronZonePlacementSledState ι) (kind : DiscretionaryOmicronZone) :
    OmicronZonePlacementSledState ι :=
  { self with discretionaryZones := self.discretionaryZones ++ [kind] }

/-- The order of `OrderedSledState::cmp` for a heap ordered by `kind`, as a key into a linear
    order: the greatest key has the fewest zones of the kind, then the fewest zones, then the
    largest sled id. -/
def placementKey (kind : DiscretionaryOmicronZone) (s : OmicronZonePlacementSledState ι) :
    Lex (Natᵒᵈ × Lex (Natᵒᵈ × ι)) :=
  toLex (OrderDual.toDual (s.numDiscretionaryZonesOfKind kind),
    toLex (OrderDual.toDual s.discretionaryZones.length, s.sledId))

/-- The order of keys, in the words of the source: fewer zones of the kind, else as many and
    fewer zones, else as many of both and a sled id no larger. -/
theorem placementKey_le_iff {kind : DiscretionaryOmicronZone} {s t : OmicronZonePlacementSledState ι} :
    placementKey kind t ≤ placementKey kind s ↔
      s.numDiscretionaryZonesOfKind kind < t.numDiscretionaryZonesOfKind kind ∨
        s.numDiscretionaryZonesOfKind kind = t.numDiscretionaryZonesOfKind kind ∧
          (s.discretionaryZones.length < t.discretionaryZones.length ∨
            s.discretionaryZones.length = t.discretionaryZones.length ∧ t.sledId ≤ s.sledId) := by
  unfold placementKey
  rw [Prod.Lex.toLex_le_toLex, Prod.Lex.toLex_le_toLex]
  simp only [OrderDual.toDual_lt_toDual, EmbeddingLike.apply_eq_iff_eq]
  constructor
  · rintro (h | ⟨h, h'⟩)
    · exact Or.inl h
    · exact Or.inr ⟨h.symm, h'.imp id fun ⟨hl, hi⟩ => ⟨hl.symm, hi⟩⟩
  · rintro (h | ⟨h, h'⟩)
    · exact Or.inl h
    · exact Or.inr ⟨h.symm, h'.imp id fun ⟨hl, hi⟩ => ⟨hl.symm, hi⟩⟩

end OmicronZonePlacementSledState

open OmicronZonePlacementSledState

/-! ## The heap -/

/-- `OrderedSledState`. -/
structure OrderedSledState (ι : Type) where
  orderedBy : DiscretionaryOmicronZone
  sled : OmicronZonePlacementSledState ι
  deriving DecidableEq

namespace OrderedSledState

/-- `OrderedSledState::cmp`, both sides counted for `self.ordered_by` (the `assert_eq!` that
    the other side is ordered by the same kind is `OrderedSleds.ordered`). -/
def cmp (self other : OrderedSledState ι) : Ordering :=
  let ourZonesOfInterest := self.sled.numDiscretionaryZonesOfKind self.orderedBy
  let otherZonesOfInterest := other.sled.numDiscretionaryZonesOfKind self.orderedBy
  (compare ourZonesOfInterest otherZonesOfInterest).swap.then
    ((compare self.sled.discretionaryZones.length other.sled.discretionaryZones.length).swap.then
      (compare self.sled.sledId other.sled.sledId))

/-- The key the heap orders by. -/
def key (self : OrderedSledState ι) : Lex (Natᵒᵈ × Lex (Natᵒᵈ × ι)) :=
  placementKey self.orderedBy self.sled

/-- Between states ordered by one kind, `cmp` is the order of keys: the heap of keys is the
    source's heap. -/
theorem cmp_eq_compare_key {a b : OrderedSledState ι} (h : a.orderedBy = b.orderedBy) :
    a.cmp b = compare a.key b.key := by
  have hdual : ∀ m n : Nat, (compare m n).swap = compare (OrderDual.toDual m) (OrderDual.toDual n) :=
    fun m n => (Std.OrientedOrd.eq_swap).symm
  simp only [cmp, key, placementKey, h, hdual, Prod.Lex.compare_def, compareLex, compareOn,
    ofLex_toLex]

end OrderedSledState

/-- `OrderedSleds`: the heap, each element of it ordered by the heap's kind. -/
structure OrderedSleds (ι : Type) [LinearOrder ι] where
  orderedBy : DiscretionaryOmicronZone
  heap : MaxHeap (OrderedSledState ι)
  ordered : ∀ s ∈ heap.data, s.orderedBy = orderedBy

namespace OrderedSleds

/-- `OrderedSleds::new`. -/
def new (orderedBy : DiscretionaryOmicronZone) (sleds : List (OmicronZonePlacementSledState ι)) :
    OrderedSleds ι where
  orderedBy := orderedBy
  heap := ⟨sleds.map fun sled => ⟨orderedBy, sled⟩⟩
  ordered s hs := by
    obtain ⟨_, _, rfl⟩ := List.mem_map.mp hs
    rfl

/-- `ensure_ordered_by`: the heap rebuilt with every element ordered by `orderedBy`. -/
def ensureOrderedBy (self : OrderedSleds ι) (orderedBy : DiscretionaryOmicronZone) :
    OrderedSleds ι :=
  if self.orderedBy = orderedBy then self
  else
    { orderedBy := orderedBy
      heap := ⟨self.heap.data.map fun s => { s with orderedBy := orderedBy }⟩
      ordered := fun s hs => by
        obtain ⟨_, _, rfl⟩ := List.mem_map.mp hs
        rfl }

/-- `OrderedSleds::pop`. -/
def pop (self : OrderedSleds ι) : Option (OmicronZonePlacementSledState ι × OrderedSleds ι) :=
  match h : self.heap.pop OrderedSledState.key with
  | none => none
  | some (ordered, rest) =>
    some (ordered.sled, ⟨self.orderedBy, rest, fun s hs =>
      self.ordered s ((MaxHeap.pop_eq_some _ h).2.1.mem_iff.mpr (List.mem_cons_of_mem _ hs))⟩)

/-- `OrderedSleds::push`. -/
def push (self : OrderedSleds ι) (sled : OmicronZonePlacementSledState ι) : OrderedSleds ι where
  orderedBy := self.orderedBy
  heap := self.heap.push ⟨self.orderedBy, sled⟩
  ordered s hs := by
    rcases List.mem_append.mp hs with hs | hs
    · exact self.ordered s hs
    · rw [List.mem_singleton.mp hs]

/-- The sleds the heap holds. -/
def contents (self : OrderedSleds ι) : List (OmicronZonePlacementSledState ι) :=
  self.heap.data.map OrderedSledState.sled

end OrderedSleds

/-- `OmicronZonePlacement`. -/
structure OmicronZonePlacement (ι : Type) [LinearOrder ι] where
  sleds : OrderedSleds ι

namespace OmicronZonePlacement

/-- `OmicronZonePlacement::new`: the heap starts ordered for Nexus. -/
def new (sleds : List (OmicronZonePlacementSledState ι)) : OmicronZonePlacement ι :=
  ⟨OrderedSleds.new .nexus sleds⟩

/-- The two `should_skip` of `place_zone`: a second boundary NTP zone, or as many zones of the
    kind as zpools. -/
def shouldSkip (zoneKind : DiscretionaryOmicronZone) (sled : OmicronZonePlacementSledState ι) :
    Bool :=
  let numExisting := sled.numDiscretionaryZonesOfKind zoneKind
  let shouldSkip := zoneKind == .boundaryNtp && decide (numExisting > 0)
  shouldSkip || decide (numExisting ≥ sled.numZpools)

theorem length_pop_lt {sleds rest : OrderedSleds ι} {sled : OmicronZonePlacementSledState ι}
    (h : sleds.pop = some (sled, rest)) : rest.heap.data.length < sleds.heap.data.length := by
  unfold OrderedSleds.pop at h
  split at h
  · cases h
  · rename_i hp
    cases h
    exact MaxHeap.length_pop_lt _ hp

/-- The `while let` loop of `place_zone`: sleds are popped until one is eligible, the skipped
    ones kept aside in the order they came. -/
def placeLoop (zoneKind : DiscretionaryOmicronZone) (sleds : OrderedSleds ι)
    (sledsSkipped : List (OmicronZonePlacementSledState ι)) :
    Option (OmicronZonePlacementSledState ι) × OrderedSleds ι × List (OmicronZonePlacementSledState ι) :=
  match h : sleds.pop with
  | none => (none, sleds, sledsSkipped)
  | some (sled, rest) =>
    -- each round pops one sled
    have _ := length_pop_lt h
    if shouldSkip zoneKind sled then placeLoop zoneKind rest (sledsSkipped ++ [sled])
    else (some sled, rest, sledsSkipped)
termination_by sleds.heap.data.length

/-- `OmicronZonePlacement::place_zone`. On an error the heap is the one after the skipped
    sleds were pushed back, as the source leaves it before its `?`. -/
def placeZone (self : OmicronZonePlacement ι) (zoneKind : DiscretionaryOmicronZone) :
    Except PlacementError ι × OmicronZonePlacement ι :=
  let looped := placeLoop zoneKind (self.sleds.ensureOrderedBy zoneKind) []
  -- push any skipped sleds back onto the heap
  let sleds := looped.2.2.foldl OrderedSleds.push looped.2.1
  match looped.1 with
  | none => (.error (.noSledsEligible zoneKind), ⟨sleds⟩)
  | some sled => (.ok sled.sledId, ⟨sleds.push (sled.withZone zoneKind)⟩)

/-- Calls of `place_zone` one after the other on one placement, and what each returned. -/
def placeAll : List DiscretionaryOmicronZone → OmicronZonePlacement ι → List (Except PlacementError ι)
  | [], _ => []
  | zoneKind :: rest, self => (self.placeZone zoneKind).1 :: placeAll rest (self.placeZone zoneKind).2

end OmicronZonePlacement

/-! ## What the heap and the loop do -/

namespace OrderedSleds

theorem key_eq {sleds : OrderedSleds ι} {o : OrderedSledState ι} (ho : o ∈ sleds.heap.data) :
    o.key = placementKey sleds.orderedBy o.sled := by
  rw [OrderedSledState.key, sleds.ordered o ho]

theorem contents_new (orderedBy : DiscretionaryOmicronZone) (sleds : List (OmicronZonePlacementSledState ι)) :
    (new orderedBy sleds).contents = sleds := by
  simp [new, contents, Function.comp_def]

@[simp] theorem orderedBy_ensureOrderedBy (sleds : OrderedSleds ι) (orderedBy : DiscretionaryOmicronZone) :
    (sleds.ensureOrderedBy orderedBy).orderedBy = orderedBy := by
  unfold ensureOrderedBy
  split
  · assumption
  · rfl

@[simp] theorem contents_ensureOrderedBy (sleds : OrderedSleds ι) (orderedBy : DiscretionaryOmicronZone) :
    (sleds.ensureOrderedBy orderedBy).contents = sleds.contents := by
  unfold ensureOrderedBy
  split
  · rfl
  · simp [contents, Function.comp_def]

@[simp] theorem orderedBy_push (sleds : OrderedSleds ι) (sled : OmicronZonePlacementSledState ι) :
    (sleds.push sled).orderedBy = sleds.orderedBy := rfl

theorem contents_push (sleds : OrderedSleds ι) (sled : OmicronZonePlacementSledState ι) :
    (sleds.push sled).contents.Perm (sled :: sleds.contents) :=
  (MaxHeap.push_perm sleds.heap _).map OrderedSledState.sled

theorem contents_foldl_push (l : List (OmicronZonePlacementSledState ι)) (sleds : OrderedSleds ι) :
    (l.foldl push sleds).contents.Perm (l ++ sleds.contents) := by
  induction l generalizing sleds with
  | nil => rfl
  | cons sled rest ih =>
    rw [List.foldl_cons]
    have hpushed : (rest ++ (sleds.push sled).contents).Perm (rest ++ sled :: sleds.contents) :=
      (contents_push sleds sled).append_left rest
    exact (ih _).trans (hpushed.trans List.perm_middle)

theorem pop_eq_none_iff (sleds : OrderedSleds ι) : sleds.pop = none ↔ sleds.contents = [] := by
  unfold pop contents
  split
  · rename_i h
    simp [(MaxHeap.pop_eq_none_iff _ _).mp h]
  · rename_i h
    simp only [reduceCtorEq, false_iff, List.map_eq_nil_iff]
    intro hnil
    rw [← MaxHeap.pop_eq_none_iff OrderedSledState.key] at hnil
    rw [hnil] at h
    cases h

/-- **What `pop` returns**: a sled of greatest key for the heap's kind, and the heap without it,
    ordered by the same kind. -/
theorem pop_eq_some {sleds rest : OrderedSleds ι} {sled : OmicronZonePlacementSledState ι}
    (h : sleds.pop = some (sled, rest)) :
    rest.orderedBy = sleds.orderedBy ∧ sleds.contents.Perm (sled :: rest.contents) ∧
      ∀ t ∈ sleds.contents, placementKey sleds.orderedBy t ≤ placementKey sleds.orderedBy sled := by
  unfold pop at h
  split at h
  · cases h
  · rename_i o remaining hp
    cases h
    obtain ⟨hmem, hperm, hmax⟩ := MaxHeap.pop_eq_some _ hp
    refine ⟨rfl, hperm.map OrderedSledState.sled, fun t ht => ?_⟩
    obtain ⟨o', ho', rfl⟩ := List.mem_map.mp ht
    rw [← key_eq hmem, ← key_eq ho']
    exact hmax o' ho'

end OrderedSleds

namespace OmicronZonePlacement

/-- A sled is eligible for a zone of kind `kind`: fewer zones of the kind than zpools, and for
    boundary NTP none yet. -/
def Eligible (kind : DiscretionaryOmicronZone) (s : OmicronZonePlacementSledState ι) : Prop :=
  s.numDiscretionaryZonesOfKind kind < s.numZpools ∧
    (kind = .boundaryNtp → s.numDiscretionaryZonesOfKind kind = 0)

instance (kind : DiscretionaryOmicronZone) : DecidablePred (Eligible kind : OmicronZonePlacementSledState ι → Prop) :=
  fun _ => inferInstanceAs (Decidable (_ ∧ _))

omit [LinearOrder ι] in
theorem shouldSkip_eq_false_iff {kind : DiscretionaryOmicronZone} {s : OmicronZonePlacementSledState ι} :
    shouldSkip kind s = false ↔ Eligible kind s := by
  unfold shouldSkip Eligible
  by_cases hk : kind = .boundaryNtp
  · subst hk
    simp only [beq_self_eq_true, Bool.true_and, Bool.or_eq_false_iff, decide_eq_false_iff_not,
      forall_const]
    omega
  · simp [hk]

variable {zoneKind : DiscretionaryOmicronZone}

theorem placeLoop_orderedBy (sleds : OrderedSleds ι) (sledsSkipped : List (OmicronZonePlacementSledState ι)) :
    (placeLoop zoneKind sleds sledsSkipped).2.1.orderedBy = sleds.orderedBy := by
  fun_induction placeLoop zoneKind sleds sledsSkipped with
  | case1 => rfl
  | case2 sleds sledsSkipped sled rest h _ _ ih => rw [ih, (OrderedSleds.pop_eq_some h).1]
  | case3 sleds sledsSkipped sled rest h _ _ => exact (OrderedSleds.pop_eq_some h).1

/-- The loop loses no sled: what it leaves in the heap, set aside and chose are what it was
    given. -/
theorem placeLoop_perm (sleds : OrderedSleds ι) (sledsSkipped : List (OmicronZonePlacementSledState ι)) :
    (sleds.contents ++ sledsSkipped).Perm ((placeLoop zoneKind sleds sledsSkipped).2.2 ++
      (placeLoop zoneKind sleds sledsSkipped).2.1.contents ++ (placeLoop zoneKind sleds sledsSkipped).1.toList) := by
  fun_induction placeLoop zoneKind sleds sledsSkipped with
  | case1 sleds sledsSkipped h =>
    rw [(OrderedSleds.pop_eq_none_iff sleds).mp h]
    simp
  | case2 sleds sledsSkipped sled rest h _ _ ih =>
    -- the skipped sled moves from the heap to the end of the skipped ones
    refine (((OrderedSleds.pop_eq_some h).2.1.append_right sledsSkipped).trans ?_).trans ih
    rw [List.cons_append, ← List.append_assoc]
    exact (List.perm_append_singleton sled _).symm
  | case3 sleds sledsSkipped sled rest h _ _ =>
    refine ((OrderedSleds.pop_eq_some h).2.1.append_right sledsSkipped).trans ?_
    rw [List.perm_iff_count]
    intro a
    simp only [List.cons_append, List.count_cons, List.count_append, Option.toList_some,
      List.count_nil]
    omega

/-- The loop chooses no sled only when none it was given is eligible. -/
theorem placeLoop_eq_none (sleds : OrderedSleds ι) (sledsSkipped : List (OmicronZonePlacementSledState ι))
    (h : (placeLoop zoneKind sleds sledsSkipped).1 = none) :
    ∀ t ∈ sleds.contents, ¬Eligible zoneKind t := by
  fun_induction placeLoop zoneKind sleds sledsSkipped with
  | case1 sleds sledsSkipped hpop =>
    rw [(OrderedSleds.pop_eq_none_iff sleds).mp hpop]
    simp
  | case2 sleds sledsSkipped sled rest hpop _ hskip ih =>
    intro t ht
    rcases List.mem_cons.mp ((OrderedSleds.pop_eq_some hpop).2.1.mem_iff.mp ht) with rfl | hrest
    · intro heligible
      rw [← shouldSkip_eq_false_iff, hskip] at heligible
      cases heligible
    · exact ih h t hrest
  | case3 => cases h

/-- The sled the loop chooses is eligible, and of greatest key among the eligible sleds it was
    given: the skipped ones were not eligible, and the heap orders the rest. -/
theorem placeLoop_eq_some (sleds : OrderedSleds ι) (sledsSkipped : List (OmicronZonePlacementSledState ι))
    (hk : sleds.orderedBy = zoneKind) {s : OmicronZonePlacementSledState ι}
    (h : (placeLoop zoneKind sleds sledsSkipped).1 = some s) :
    s ∈ sleds.contents ∧ Eligible zoneKind s ∧
      ∀ t ∈ sleds.contents, Eligible zoneKind t → placementKey zoneKind t ≤ placementKey zoneKind s := by
  fun_induction placeLoop zoneKind sleds sledsSkipped with
  | case1 => cases h
  | case2 sleds sledsSkipped sled rest hpop _ hskip ih =>
    obtain ⟨hordered, hperm, _⟩ := OrderedSleds.pop_eq_some hpop
    obtain ⟨hmem, heligible, hbest⟩ := ih (hordered.trans hk) h
    refine ⟨hperm.mem_iff.mpr (List.mem_cons_of_mem _ hmem), heligible, fun t ht hte => ?_⟩
    rcases List.mem_cons.mp (hperm.mem_iff.mp ht) with rfl | hrest
    · rw [← shouldSkip_eq_false_iff, hskip] at hte
      cases hte
    · exact hbest t hrest hte
  | case3 sleds sledsSkipped sled rest hpop _ hskip =>
    cases h
    obtain ⟨_, hperm, hmax⟩ := OrderedSleds.pop_eq_some hpop
    refine ⟨hperm.mem_iff.mpr List.mem_cons_self, shouldSkip_eq_false_iff.mp (by simpa using hskip),
      fun t ht _ => ?_⟩
    rw [← hk]
    exact hmax t ht

/-! ## What a call is for -/

/-- The sleds of the placement. -/
def contents (self : OmicronZonePlacement ι) : List (OmicronZonePlacementSledState ι) :=
  self.sleds.contents

/-- `sled` is a best sled of `sleds` for a zone of kind `kind`: eligible, and among the eligible
    sleds of fewest zones of the kind, then of fewest zones, then of largest sled id. -/
def IsBest (kind : DiscretionaryOmicronZone) (sleds : List (OmicronZonePlacementSledState ι))
    (sled : OmicronZonePlacementSledState ι) : Prop :=
  sled ∈ sleds ∧ Eligible kind sled ∧ ∀ t ∈ sleds, Eligible kind t →
    sled.numDiscretionaryZonesOfKind kind < t.numDiscretionaryZonesOfKind kind ∨
      sled.numDiscretionaryZonesOfKind kind = t.numDiscretionaryZonesOfKind kind ∧
        (sled.discretionaryZones.length < t.discretionaryZones.length ∨
          sled.discretionaryZones.length = t.discretionaryZones.length ∧ t.sledId ≤ sled.sledId)

/-- What one call `place_zone(kind)` is for, on the sleds before and after it: an error exactly
    when no sled is eligible, and then no change; else a best sled's id, that sled with the new
    zone, and every other sled as it was. -/
inductive PlaceSpec (kind : DiscretionaryOmicronZone) :
    List (OmicronZonePlacementSledState ι) → Except PlacementError ι →
      List (OmicronZonePlacementSledState ι) → Prop where
  | noSledsEligible {sleds sleds' : List (OmicronZonePlacementSledState ι)}
      (hnone : ∀ t ∈ sleds, ¬Eligible kind t) (hsame : sleds'.Perm sleds) :
      PlaceSpec kind sleds (.error (.noSledsEligible kind)) sleds'
  | placed {sleds sleds' : List (OmicronZonePlacementSledState ι)} {sled : OmicronZonePlacementSledState ι}
      (hbest : IsBest kind sleds sled) (hrecorded : sleds'.Perm (sled.withZone kind :: sleds.erase sled)) :
      PlaceSpec kind sleds (.ok sled.sledId) sleds'

/-- Calls one after the other, each on the sleds the one before left. -/
inductive PlaceRun : List DiscretionaryOmicronZone → List (OmicronZonePlacementSledState ι) →
    List (Except PlacementError ι) → Prop where
  | nil {sleds : List (OmicronZonePlacementSledState ι)} : PlaceRun [] sleds []
  | cons {kind : DiscretionaryOmicronZone} {kinds : List DiscretionaryOmicronZone}
      {sleds sleds' : List (OmicronZonePlacementSledState ι)} {result : Except PlacementError ι}
      {results : List (Except PlacementError ι)} :
      PlaceSpec kind sleds result sleds' → PlaceRun kinds sleds' results →
        PlaceRun (kind :: kinds) sleds (result :: results)

/-! ## The code meets it -/

/-- **`place_zone` meets its purpose**, from any placement. -/
theorem placeZone_spec (self : OmicronZonePlacement ι) (kind : DiscretionaryOmicronZone) :
    PlaceSpec kind self.contents (self.placeZone kind).1 (self.placeZone kind).2.contents := by
  have hk := OrderedSleds.orderedBy_ensureOrderedBy self.sleds kind
  have hcontents := OrderedSleds.contents_ensureOrderedBy self.sleds kind
  have hperm := @placeLoop_perm _ _ kind (self.sleds.ensureOrderedBy kind) []
  rw [hcontents, List.append_nil] at hperm
  unfold placeZone contents
  cases hchosen : (placeLoop kind (self.sleds.ensureOrderedBy kind) []).1 with
  | none =>
    simp only [hchosen]
    rw [hchosen, Option.toList_none, List.append_nil] at hperm
    refine .noSledsEligible (fun t ht => placeLoop_eq_none _ [] hchosen t (hcontents ▸ ht)) ?_
    -- the skipped sleds pushed back are all the sleds there were
    exact (OrderedSleds.contents_foldl_push _ _).trans hperm.symm
  | some sled =>
    simp only [hchosen]
    rw [hchosen, Option.toList_some] at hperm
    obtain ⟨hmem, heligible, hbest⟩ := placeLoop_eq_some _ [] hk hchosen
    rw [hcontents] at hmem hbest
    refine .placed ⟨hmem, heligible, fun t ht hte => placementKey_le_iff.mp (hbest t ht hte)⟩ ?_
    -- every other sled was set aside or left in the heap, and is pushed back as it was
    have hothers : (self.sleds.contents.erase sled).Perm
        ((placeLoop kind (self.sleds.ensureOrderedBy kind) []).2.2 ++
          (placeLoop kind (self.sleds.ensureOrderedBy kind) []).2.1.contents) := by
      have herase := (hperm.trans (List.perm_append_singleton sled _)).erase sled
      rwa [List.erase_cons_head] at herase
    exact (OrderedSleds.contents_push _ _).trans
      (((OrderedSleds.contents_foldl_push _ _).trans hothers.symm).cons _)

/-- A call fails exactly when no sled is eligible. -/
theorem PlaceSpec.eq_error_iff {kind : DiscretionaryOmicronZone}
    {sleds sleds' : List (OmicronZonePlacementSledState ι)} {result : Except PlacementError ι}
    (h : PlaceSpec kind sleds result sleds') :
    result = .error (.noSledsEligible kind) ↔ ∀ t ∈ sleds, ¬Eligible kind t := by
  cases h with
  | noSledsEligible hnone => exact iff_of_true rfl hnone
  | placed hbest =>
    constructor
    · intro herror
      cases herror
    · intro hnone
      exact absurd hbest.2.1 (hnone _ hbest.1)

/-- **Every sequence of calls meets the purpose of each**, from any placement. -/
theorem placeAll_run (kinds : List DiscretionaryOmicronZone) (self : OmicronZonePlacement ι) :
    PlaceRun kinds self.contents (self.placeAll kinds) := by
  induction kinds generalizing self with
  | nil => exact .nil
  | cons kind rest ih => exact .cons (placeZone_spec self kind) (ih _)

theorem contents_new (sleds : List (OmicronZonePlacementSledState ι)) : (new sleds).contents = sleds :=
  OrderedSleds.contents_new _ _

theorem placeAll_new_run (sleds : List (OmicronZonePlacementSledState ι))
    (kinds : List DiscretionaryOmicronZone) :
    PlaceRun kinds sleds ((new sleds).placeAll kinds) := by
  have hrun := placeAll_run kinds (new sleds)
  rwa [contents_new] at hrun

end OmicronZonePlacement

end Omicron.Planning
