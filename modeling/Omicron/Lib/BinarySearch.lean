import Mathlib

/-!
# Rust's `slice::binary_search_by`

The standard library's search, as the toolchain the code pins computes it: a window
`[base, base + size)` halved by `size / 2` each round, `base` moving to the midpoint unless the
comparison there is `Greater`; the number of rounds depends only on the length. One comparison
at the end decides between `Ok base` and an `Err` with the insertion point.

* `binarySearchBy_sound` -- an `Ok i` is an element the comparison calls `Equal`, whatever the
  order of the slice;
* `binarySearchBy_complete` -- on a slice ordered by the comparison (`Less`, then `Equal`, then
  `Greater`), an element called `Equal` is found;
* `binarySearchBy_error_le` -- an `Err` is at most the length, a place `Vec::insert` accepts;
* `binarySearchBy_error_spec` -- on an ordered slice, an `Err` is the insertion point: `Less`
  before it, `Greater` from it on; so `pairwise_insertIdx_of_error`, inserting there keeps a list
  strictly sorted by a key.

A sorted key array often comes with a parallel array of values (`timestamps` and `values`): a
key's entry is the value at its place, `List.lookup` over the `zip`. Inserting a new key with its
value at one place makes that value its entry (`lookup_zip_insertIdx`); setting the value at the
place of a key, the keys distinct, replaces that key's entry (`lookup_zip_set`); every other entry
stays.
-/

namespace Omicron

/-- The place of an `Ordering` in `Less < Equal < Greater`. -/
def Ordering.rank : Ordering → Nat
  | .lt => 0
  | .eq => 1
  | .gt => 2

variable {α : Type}

/-- The rounds of `binary_search_by`: while `size > 1`, compare at `mid = base + size / 2` and
    move `base` there unless that element compares `Greater`; `size` loses `size / 2` either way.
    `fuel` only bounds the recursion: each round takes at least one off `size`, so `size - 1`
    rounds are all there are. -/
def searchRounds (xs : List α) (f : α → Ordering) : (fuel base size : Nat) → Nat
  | 0, base, _ => base
  | fuel + 1, base, size =>
    if 1 < size then
      let half := size / 2
      let mid := base + half
      searchRounds xs f fuel (if xs[mid]?.map f = some .gt then base else mid) (size - half)
    else base

/-- `<[T]>::binary_search_by`, `Err` as `.error`. -/
def binarySearchBy (xs : List α) (f : α → Ordering) : Except Nat Nat :=
  if xs.length = 0 then .error 0
  else
    let base := searchRounds xs f xs.length 0 xs.length
    match xs[base]?.map f with
    | some .eq => .ok base
    | some .lt => .error (base + 1)
    | _ => .error base

/-- **Soundness**: an `Ok` holds an element the comparison calls `Equal`. -/
theorem binarySearchBy_sound {xs : List α} {f : α → Ordering} {i : Nat}
    (h : binarySearchBy xs f = .ok i) : ∃ hi : i < xs.length, f xs[i] = .eq := by
  unfold binarySearchBy at h
  split at h
  · cases h
  · dsimp only at h
    split at h
    · rename_i heq
      cases h
      obtain ⟨x, hx, hfx⟩ := Option.map_eq_some_iff.mp heq
      obtain ⟨hi, rfl⟩ := List.getElem?_eq_some_iff.mp hx
      exact ⟨hi, hfx⟩
    · cases h
    · cases h

/-- The slice is ordered by the comparison: `Less` elements, then `Equal`, then `Greater`. -/
def SortedBy (xs : List α) (f : α → Ordering) : Prop :=
  xs.Pairwise fun a b => Ordering.rank (f a) ≤ Ordering.rank (f b)

theorem SortedBy.rank_le {xs : List α} {f : α → Ordering} (hs : SortedBy xs f) {i j : Nat}
    (hij : i ≤ j) (hi : i < xs.length) (hj : j < xs.length) :
    Ordering.rank (f xs[i]) ≤ Ordering.rank (f xs[j]) := by
  rcases Nat.lt_or_eq_of_le hij with hij | rfl
  · exact List.pairwise_iff_getElem.mp hs i j hi hj hij
  · exact Nat.le_refl _

/-- Index `i` holds an element the comparison calls `Equal`. -/
def IsEqAt (xs : List α) (f : α → Ordering) (i : Nat) : Prop := ∃ hi : i < xs.length, f xs[i] = .eq

theorem searchRounds_succ {xs : List α} {f : α → Ordering} (fuel base : Nat) {size : Nat}
    (h : 1 < size) :
    searchRounds xs f (fuel + 1) base size =
      searchRounds xs f fuel (if xs[base + size / 2]?.map f = some .gt then base else base + size / 2)
        (size - size / 2) := by
  rw [searchRounds, if_pos h]

/-- The rounds keep an `Equal` element inside the window, and end on one. -/
theorem searchRounds_complete {xs : List α} {f : α → Ordering} (hs : SortedBy xs f) :
    ∀ fuel base size, base + size ≤ xs.length → size - 1 ≤ fuel →
      (∃ k, ∃ hk : k < xs.length, base ≤ k ∧ k < base + size ∧ f xs[k] = .eq) →
        IsEqAt xs f (searchRounds xs f fuel base size)
  | 0, base, size, _, hfuel, ⟨k, hk, hbk, hks, hfk⟩ => by
    -- out of rounds only with a window of one element: the `Equal` one
    have hkb : k = base := by omega
    subst hkb
    exact ⟨hk, hfk⟩
  | fuel + 1, base, size, hlen, hfuel, ⟨k, hk, hbk, hks, hfk⟩ => by
    by_cases hsize : 1 < size
    · have hmid : base + size / 2 < xs.length := by omega
      have hget : xs[base + size / 2]?.map f = some (f xs[base + size / 2]) := by
        simp [List.getElem?_eq_getElem hmid]
      rw [searchRounds_succ fuel base hsize, hget]
      -- which half keeps an `Equal` element depends on the comparison at the midpoint
      cases hm : f xs[base + size / 2] with
      | gt =>
        rw [if_pos rfl]
        have hkmid : k < base + size / 2 := Nat.lt_of_not_le fun hmk => by
          have := hs.rank_le hmk hmid hk
          rw [hm, hfk] at this
          simp [Ordering.rank] at this
        exact searchRounds_complete hs fuel base (size - size / 2) (by omega) (by omega)
          ⟨k, hk, hbk, by omega, hfk⟩
      | eq =>
        rw [if_neg (by simp)]
        exact searchRounds_complete hs fuel _ (size - size / 2) (by omega) (by omega)
          ⟨base + size / 2, hmid, Nat.le_refl _, by omega, hm⟩
      | lt =>
        rw [if_neg (by simp)]
        have hmidk : base + size / 2 ≤ k := Nat.le_of_not_lt fun hkm => by
          have := hs.rank_le (Nat.le_of_lt hkm) hk hmid
          rw [hm, hfk] at this
          simp [Ordering.rank] at this
        exact searchRounds_complete hs fuel _ (size - size / 2) (by omega) (by omega)
          ⟨k, hk, hmidk, by omega, hfk⟩
    · have hkb : k = base := by omega
      subst hkb
      rw [searchRounds, if_neg hsize]
      exact ⟨hk, hfk⟩

/-- The rounds end inside the window they start from. -/
theorem searchRounds_mem_window (xs : List α) (f : α → Ordering) :
    ∀ fuel base size, 0 < size →
      base ≤ searchRounds xs f fuel base size ∧ searchRounds xs f fuel base size < base + size
  | 0, base, size, h => by
    rw [searchRounds]
    omega
  | fuel + 1, base, size, h => by
    by_cases hsize : 1 < size
    · rw [searchRounds_succ fuel base hsize]
      -- either half is inside the window, and neither is empty
      split
      · have := searchRounds_mem_window xs f fuel base (size - size / 2) (by omega)
        omega
      · have := searchRounds_mem_window xs f fuel (base + size / 2) (size - size / 2) (by omega)
        omega
    · rw [searchRounds, if_neg hsize]
      omega

/-- An `Err` is a place to insert at: at most the length. -/
theorem binarySearchBy_error_le {xs : List α} {f : α → Ordering} {i : Nat}
    (h : binarySearchBy xs f = .error i) : i ≤ xs.length := by
  unfold binarySearchBy at h
  split at h
  · cases h
    exact Nat.zero_le _
  · have hb := searchRounds_mem_window xs f xs.length 0 xs.length (by omega)
    dsimp only at h
    split at h <;> cases h <;> omega

/-- **Completeness**: on a slice ordered by the comparison, an `Equal` element is found. -/
theorem binarySearchBy_complete {xs : List α} {f : α → Ordering} (hs : SortedBy xs f) {k : Nat}
    (hk : k < xs.length) (hfk : f xs[k] = .eq) :
    ∃ i, binarySearchBy xs f = .ok i := by
  obtain ⟨hb, hfb⟩ := searchRounds_complete hs xs.length 0 xs.length (by omega) (by omega)
    ⟨k, hk, Nat.zero_le k, by omega, hfk⟩
  refine ⟨searchRounds xs f xs.length 0 xs.length, ?_⟩
  unfold binarySearchBy
  rw [if_neg (by omega)]
  dsimp only
  simp only [List.getElem?_eq_getElem hb, Option.map_some, hfb]

/-- On an ordered slice an `Err` means that no element compares `Equal`. -/
theorem binarySearchBy_error_ne_eq {xs : List α} {f : α → Ordering} (hs : SortedBy xs f) {i : Nat}
    (h : binarySearchBy xs f = .error i) : ∀ x ∈ xs, f x ≠ .eq := by
  intro x hx hfx
  obtain ⟨k, hk, rfl⟩ := List.mem_iff_getElem.mp hx
  obtain ⟨j, hj⟩ := binarySearchBy_complete hs hk hfx
  rw [h] at hj
  cases hj

/-- The rounds keep every element before the window off `Greater` and every element after it
    `Greater`, and end on a window of one element. -/
theorem searchRounds_bounds {xs : List α} {f : α → Ordering} (hs : SortedBy xs f) :
    ∀ fuel base size, base + size ≤ xs.length → 0 < size → size - 1 ≤ fuel →
      (∀ j (hj : j < xs.length), j < base → f xs[j] ≠ .gt) →
      (∀ j (hj : j < xs.length), base + size ≤ j → f xs[j] = .gt) →
      (∀ j (hj : j < xs.length), j < searchRounds xs f fuel base size → f xs[j] ≠ .gt) ∧
        (∀ j (hj : j < xs.length), searchRounds xs f fuel base size < j → f xs[j] = .gt)
  | 0, base, size, _, hpos, hfuel, hlo, hhi => by
    rw [searchRounds]
    exact ⟨hlo, fun j hj hbj => hhi j hj (by omega)⟩
  | fuel + 1, base, size, hlen, hpos, hfuel, hlo, hhi => by
    by_cases hsize : 1 < size
    · have hmid : base + size / 2 < xs.length := by omega
      have hget : xs[base + size / 2]?.map f = some (f xs[base + size / 2]) := by
        simp [List.getElem?_eq_getElem hmid]
      rw [searchRounds_succ fuel base hsize, hget]
      -- a `Greater` midpoint closes the window above it; otherwise it opens the window there
      cases hm : f xs[base + size / 2] with
      | gt =>
        rw [if_pos rfl]
        refine searchRounds_bounds hs fuel base (size - size / 2) (by omega) (by omega) (by omega)
          hlo fun j hj hbj => ?_
        have := hs.rank_le (show base + size / 2 ≤ j by omega) hmid hj
        rw [hm] at this
        cases hfj : f xs[j] <;> simp_all [Ordering.rank]
      | eq | lt =>
        rw [if_neg (by simp)]
        refine searchRounds_bounds hs fuel _ (size - size / 2) (by omega) (by omega) (by omega)
          (fun j hj hjm => ?_) fun j hj hbj => hhi j hj (by omega)
        have := hs.rank_le (Nat.le_of_lt hjm) hj hmid
        rw [hm] at this
        intro hfj
        simp [hfj, Ordering.rank] at this
    · rw [searchRounds, if_neg hsize]
      exact ⟨hlo, fun j hj hbj => hhi j hj (by omega)⟩

/-- **The insertion point**: on a slice ordered by the comparison, an `Err i` has every element
    before `i` compare `Less` and every element from `i` on compare `Greater`. -/
theorem binarySearchBy_error_spec {xs : List α} {f : α → Ordering} (hs : SortedBy xs f) {i : Nat}
    (h : binarySearchBy xs f = .error i) :
    (∀ j (hj : j < xs.length), j < i → f xs[j] = .lt) ∧
      (∀ j (hj : j < xs.length), i ≤ j → f xs[j] = .gt) := by
  -- no element compares `Equal`, or the search would have found one
  have hne : ∀ k (hk : k < xs.length), f xs[k] ≠ .eq := fun k hk hfk => by
    obtain ⟨i', hi'⟩ := binarySearchBy_complete hs hk hfk
    rw [h] at hi'
    cases hi'
  unfold binarySearchBy at h
  split at h
  · cases h
    exact ⟨fun j hj => by omega, fun j hj => by omega⟩
  · dsimp only at h
    have hw := searchRounds_mem_window xs f xs.length 0 xs.length (by omega)
    obtain ⟨hlo, hhi⟩ := searchRounds_bounds hs xs.length 0 xs.length (by omega) (by omega)
      (by omega) (fun j hj hj0 => by omega) (fun j hj hj' => by omega)
    have hb : searchRounds xs f xs.length 0 xs.length < xs.length := by omega
    have hget : xs[searchRounds xs f xs.length 0 xs.length]?.map f =
        some (f xs[searchRounds xs f xs.length 0 xs.length]) := by
      simp [List.getElem?_eq_getElem hb]
    rw [hget] at h
    set b := searchRounds xs f xs.length 0 xs.length
    -- below the end of the rounds nothing is `Greater`, nor `Equal`: all is `Less`
    have hless : ∀ j (hj : j < xs.length), j < b → f xs[j] = .lt := fun j hj hjb => by
      cases hfj : f xs[j] with
      | lt => rfl
      | eq => exact absurd hfj (hne j hj)
      | gt => exact absurd hfj (hlo j hj hjb)
    cases hfb : f xs[b] with
    | eq => exact absurd hfb (hne b hb)
    | lt =>
      rw [hfb] at h
      cases h
      refine ⟨fun j hj hji => ?_, fun j hj hij => hhi j hj (by omega)⟩
      rcases Nat.lt_or_eq_of_le (Nat.le_of_lt_succ hji) with hjb | rfl
      · exact hless j hj hjb
      · exact hfb
    | gt =>
      rw [hfb] at h
      cases h
      refine ⟨hless, fun j hj hbj => ?_⟩
      rcases Nat.lt_or_eq_of_le hbj with hbj | rfl
      · exact hhi j hj hbj
      · exact hfb

/-! ## Inserting at the insertion point -/

theorem insertIdx_eq_take_append_drop {x : α} :
    ∀ (i : Nat) (xs : List α), i ≤ xs.length → xs.insertIdx i x = xs.take i ++ x :: xs.drop i
  | 0, xs, _ => by rw [List.insertIdx_zero, List.take_zero, List.drop_zero, List.nil_append]
  | i + 1, [], h => by simp at h
  | i + 1, y :: ys, h => by
    rw [List.insertIdx_succ_cons, insertIdx_eq_take_append_drop i ys (by simpa using h)]
    rfl

theorem rank_compare_le_of_le {β : Type} [LinearOrder β] {a b : β} (k : β) (h : a ≤ b) :
    Ordering.rank (compare a k) ≤ Ordering.rank (compare b k) := by
  rcases lt_trichotomy b k with hbk | rfl | hbk
  · rw [compare_lt_iff_lt.mpr (lt_of_le_of_lt h hbk), compare_lt_iff_lt.mpr hbk]
  · rw [compare_eq_iff_eq.mpr rfl]
    cases hab : compare a b with
    | gt => exact absurd h (not_le.mpr (compare_gt_iff_gt.mp hab))
    | lt | eq => simp [Ordering.rank]
  · rw [compare_gt_iff_gt.mpr hbk]
    cases compare a k <;> simp [Ordering.rank]

/-- A list strictly sorted by a key is ordered by the comparison of its keys with any key. -/
theorem SortedBy.of_pairwise_lt {β : Type} [LinearOrder β] {key : α → β} {xs : List α}
    (hs : (xs.map key).Pairwise (· < ·)) (k : β) : SortedBy xs fun p => compare (key p) k := by
  rw [List.pairwise_map] at hs
  exact hs.imp fun h => rank_compare_le_of_le k (le_of_lt h)

theorem exists_of_mem_take {xs : List α} {i : Nat} {p : α} (h : p ∈ xs.take i) :
    ∃ j, ∃ hj : j < xs.length, j < i ∧ xs[j] = p := by
  obtain ⟨j, hj, rfl⟩ := List.mem_iff_getElem.mp h
  rw [List.length_take] at hj
  exact ⟨j, by omega, by omega, (List.getElem_take ..).symm⟩

theorem exists_of_mem_drop {xs : List α} {i : Nat} {p : α} (h : p ∈ xs.drop i) :
    ∃ j, ∃ hj : j < xs.length, i ≤ j ∧ xs[j] = p := by
  obtain ⟨j, hj, rfl⟩ := List.mem_iff_getElem.mp h
  rw [List.length_drop] at hj
  exact ⟨i + j, by omega, by omega, (List.getElem_drop ..).symm⟩

/-- **Inserting at the `Err` of a search by key keeps a list strictly sorted by that key**:
    `binary_search_by` and then `insert`. -/
theorem pairwise_insertIdx_of_error {β : Type} [LinearOrder β] {key : α → β} {xs : List α}
    {x : α} {i : Nat} (hs : (xs.map key).Pairwise (· < ·))
    (h : binarySearchBy xs (fun p => compare (key p) (key x)) = .error i) :
    ((xs.insertIdx i x).map key).Pairwise (· < ·) := by
  obtain ⟨hbelow, habove⟩ := binarySearchBy_error_spec (SortedBy.of_pairwise_lt hs (key x)) h
  have hsplit := hs
  rw [← List.take_append_drop i xs, List.map_append, List.pairwise_append] at hsplit
  obtain ⟨htake, hdrop, hcross⟩ := hsplit
  rw [insertIdx_eq_take_append_drop i xs (binarySearchBy_error_le h), List.map_append,
    List.map_cons, List.pairwise_append, List.pairwise_cons]
  refine ⟨htake, ⟨fun z hz => ?_, hdrop⟩, fun y hy z hz => ?_⟩
  · -- what follows the insertion point compares `Greater`
    obtain ⟨p, hp, rfl⟩ := List.mem_map.mp hz
    obtain ⟨j, hj, hij, rfl⟩ := exists_of_mem_drop hp
    exact compare_gt_iff_gt.mp (habove j hj hij)
  · -- what precedes it compares `Less`
    obtain ⟨p, hp, rfl⟩ := List.mem_map.mp hy
    rcases List.mem_cons.mp hz with rfl | hz
    · obtain ⟨j, hj, hji, rfl⟩ := exists_of_mem_take hp
      exact compare_lt_iff_lt.mp (hbelow j hj hji)
    · exact hcross _ (List.mem_map_of_mem hp) z hz

/-! ## Parallel arrays -/

section ParallelArrays

variable {β γ : Type} [DecidableEq β]

theorem lookup_cons_of_ne {k a : β} {b : γ} {l : List (β × γ)} (h : k ≠ a) :
    ((a, b) :: l).lookup k = l.lookup k := by
  simp [List.lookup_cons, beq_false_of_ne h]

theorem lookup_zip_of_not_mem {keys : List β} {vals : List γ} {k : β} (hk : k ∉ keys) :
    (keys.zip vals).lookup k = none := by
  rw [List.lookup_eq_none_iff]
  intro p hp
  have hne : k ≠ p.1 := fun h => hk (h ▸ (List.of_mem_zip hp).1)
  simpa using hne

/-- With distinct keys, the entry of the key at a place is the value at that place. -/
theorem lookup_zip_getElem : ∀ {keys : List β} {vals : List γ} {j : Nat}, keys.Nodup →
    (hj : j < keys.length) → (hv : j < vals.length) → (keys.zip vals).lookup keys[j] = some vals[j]
  | [], _, _, _, hj, _ => absurd hj (Nat.not_lt_zero _)
  | _ :: _, [], _, _, _, hv => absurd hv (Nat.not_lt_zero _)
  | a :: keys, b :: vals, 0, _, _, _ => by simp
  | a :: keys, b :: vals, j + 1, hnodup, hj, hv => by
    have hj' : j < keys.length := by simpa using hj
    have ha : keys[j] ≠ a := fun h => (List.nodup_cons.mp hnodup).1 (h ▸ List.getElem_mem _)
    simp only [List.zip_cons_cons, List.getElem_cons_succ, lookup_cons_of_ne ha]
    exact lookup_zip_getElem (List.nodup_cons.mp hnodup).2 hj' (by simpa using hv)

/-- A new key inserted at a place, with its value at the same place, has that value as its
    entry; the other entries stay. -/
theorem lookup_zip_insertIdx {t k : β} {x : γ} : ∀ {keys : List β} {vals : List γ} {i : Nat},
    keys.length = vals.length → i ≤ keys.length → t ∉ keys →
    ((keys.insertIdx i t).zip (vals.insertIdx i x)).lookup k =
      if k = t then some x else (keys.zip vals).lookup k
  | keys, vals, 0, _, _, _ => by
    rw [List.insertIdx_zero, List.insertIdx_zero, List.zip_cons_cons]
    by_cases hk : k = t
    · simp [hk]
    · rw [lookup_cons_of_ne hk, if_neg hk]
  | [], _, _ + 1, _, hi, _ => absurd hi (by simp)
  | _ :: _, [], _ + 1, hlen, _, _ => absurd hlen (by simp)
  | a :: keys, b :: vals, i + 1, hlen, hi, ht => by
    -- the head stays in front, and is not the new key
    have hta : t ≠ a := fun h => ht (h ▸ List.mem_cons_self)
    rw [List.insertIdx_succ_cons, List.insertIdx_succ_cons, List.zip_cons_cons, List.zip_cons_cons,
      List.lookup_cons, List.lookup_cons,
      lookup_zip_insertIdx (by simpa using hlen) (by simpa using hi) (fun h => ht (List.mem_cons_of_mem a h))]
    by_cases hk : k = t
    · subst hk
      simp [beq_false_of_ne hta]
    · simp [hk]

/-- Setting the value at the place of a key, the keys distinct, replaces that key's entry; the
    other entries stay. -/
theorem lookup_zip_set {x : γ} {k : β} : ∀ {keys : List β} {vals : List γ} {j : Nat}, keys.Nodup →
    keys.length = vals.length → (hj : j < keys.length) →
    (keys.zip (vals.set j x)).lookup k = if k = keys[j] then some x else (keys.zip vals).lookup k
  | [], _, _, _, _, hj => absurd hj (Nat.not_lt_zero _)
  | _ :: _, [], _, _, hlen, _ => absurd hlen (by simp)
  | a :: keys, b :: vals, 0, _, _, _ => by
    rw [List.set_cons_zero, List.zip_cons_cons, List.zip_cons_cons, List.getElem_cons_zero]
    by_cases hk : k = a
    · simp [hk]
    · rw [lookup_cons_of_ne hk, lookup_cons_of_ne hk, if_neg hk]
  | a :: keys, b :: vals, j + 1, hnodup, hlen, hj => by
    have hj' : j < keys.length := by simpa using hj
    have ha : keys[j] ≠ a := fun h => (List.nodup_cons.mp hnodup).1 (h ▸ List.getElem_mem _)
    rw [List.set_cons_succ, List.zip_cons_cons, List.zip_cons_cons, List.getElem_cons_succ,
      List.lookup_cons, List.lookup_cons,
      lookup_zip_set (List.nodup_cons.mp hnodup).2 (by simpa using hlen) hj']
    by_cases hk : k = keys[j]
    · subst hk
      simp [beq_false_of_ne ha]
    · simp [hk]

end ParallelArrays

end Omicron
