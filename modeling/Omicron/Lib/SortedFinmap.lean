import Mathlib.Data.Finmap
import Mathlib.Data.Finset.Sort

/-!
# Finite maps read in key order

An ordered set (a `BTreeSet`) iterates in increasing order: `Finset.ascending`, the list
`Finset.sort` returns, computed by insertion sort so that the kernel evaluates it on a concrete
set (`Finset.sort` goes through `List.mergeSort`, whose well-founded recursion it does not unfold).

An ordered map (a `BTreeMap`) is a `Finmap` whose views iterate in increasing key order:

* `sortedEntries`, `sortedValues` -- the entries and the values, key by key upward;
* `ofPairs` -- collecting pairs into a map, a later pair replacing an earlier one for its key.

The lemmas say what a key's lookup is after each of these, which is all a caller needs;
`mem_of_lookup_ofPairs` is the converse: whatever `ofPairs` holds came from the pairs.

A scan that keeps the last match (`for v in m.values() { if p(v) { found = Some(v) } }`) ends
with the last value that matches (`foldl_keepLast`), which over a map iterated in key order is
the match of largest key (`foldl_keepLast_eq_some`); the last value of a map whose values carry
their key is the value of the largest key (`getLast?_sortedValues_eq_some`).
-/

namespace Finset

variable {α : Type} [LinearOrder α]

/-- The elements in increasing order. -/
def ascending (s : Finset α) : List α :=
  Quot.liftOn s.val (List.insertionSort (· ≤ ·)) fun _ _ h =>
    ((List.perm_insertionSort _ _).trans (h.trans (List.perm_insertionSort _ _).symm)).eq_of_pairwise'
      (List.pairwise_insertionSort _ _) (List.pairwise_insertionSort _ _)

theorem coe_ascending (s : Finset α) : (s.ascending : Multiset α) = s.val := by
  obtain ⟨m, hm⟩ := s
  revert hm
  refine Quot.inductionOn m fun l _ => ?_
  exact Quot.sound (List.perm_insertionSort _ l)

theorem pairwise_ascending (s : Finset α) : s.ascending.Pairwise (· ≤ ·) := by
  obtain ⟨m, hm⟩ := s
  revert hm
  refine Quot.inductionOn m fun l _ => ?_
  exact List.pairwise_insertionSort _ l

/-- The insertion sort returns what `Finset.sort` does. -/
theorem ascending_eq_sort (s : Finset α) : s.ascending = s.sort :=
  List.Perm.eq_of_pairwise' (pairwise_ascending s) (Finset.pairwise_sort s _)
    (Multiset.coe_eq_coe.mp ((coe_ascending s).trans (Finset.sort_eq s _).symm))

@[simp] theorem mem_ascending {s : Finset α} {a : α} : a ∈ s.ascending ↔ a ∈ s := by
  rw [ascending_eq_sort, Finset.mem_sort]

@[simp] theorem length_ascending (s : Finset α) : s.ascending.length = s.card := by
  rw [ascending_eq_sort, Finset.length_sort]

example : ({2, 0, 1} : Finset Nat).ascending = [0, 1, 2] := by decide

end Finset

namespace Finmap

variable {α β : Type} [LinearOrder α]

/-- The entries in increasing key order. -/
def sortedEntries (m : Finmap fun _ : α => β) : List (α × β) :=
  m.keys.ascending.filterMap fun k => (m.lookup k).map (k, ·)

/-- The values in increasing key order. -/
def sortedValues (m : Finmap fun _ : α => β) : List β :=
  m.sortedEntries.map Prod.snd

/-- Pairs collected into a map, left to right. -/
def ofPairs (l : List (α × β)) : Finmap fun _ : α => β :=
  l.foldl (fun m p => m.insert p.1 p.2) ∅

theorem mem_sortedEntries {m : Finmap fun _ : α => β} {k : α} {v : β} :
    (k, v) ∈ m.sortedEntries ↔ m.lookup k = some v := by
  unfold sortedEntries
  rw [List.mem_filterMap]
  constructor
  · rintro ⟨k', _, hk'⟩
    cases h : m.lookup k' with
    | none => simp [h] at hk'
    | some v' =>
      simp only [h, Option.map_some, Option.some.injEq, Prod.mk.injEq] at hk'
      obtain ⟨rfl, rfl⟩ := hk'
      exact h
  · intro h
    refine ⟨k, ?_, by simp [h]⟩
    rw [Finset.mem_ascending, Finmap.mem_keys]
    exact Finmap.mem_of_lookup_eq_some h

theorem mem_sortedValues {m : Finmap fun _ : α => β} {v : β} :
    v ∈ m.sortedValues ↔ ∃ k, m.lookup k = some v := by
  unfold sortedValues
  simp only [List.mem_map, Prod.exists, exists_eq_right, mem_sortedEntries]

theorem sortedEntries_map_fst (m : Finmap fun _ : α => β) :
    m.sortedEntries.map Prod.fst = m.keys.ascending := by
  unfold sortedEntries
  rw [List.map_filterMap]
  have hsome : ∀ k ∈ m.keys.ascending, Option.map Prod.fst ((m.lookup k).map (k, ·)) = some k := by
    intro k hk
    rw [Finset.mem_ascending, Finmap.mem_keys] at hk
    obtain ⟨v, hv⟩ := Finmap.mem_iff.mp hk
    simp [hv]
  rw [List.filterMap_congr hsome, List.filterMap_some]

theorem length_sortedValues (m : Finmap fun _ : α => β) :
    m.sortedValues.length = m.keys.card := by
  unfold sortedValues
  rw [List.length_map, ← List.length_map (f := Prod.fst), sortedEntries_map_fst,
    Finset.length_ascending]

theorem lookup_ofPairs_of_not_mem (l : List (α × β)) (m : Finmap fun _ : α => β) (k : α)
    (hk : k ∉ l.map Prod.fst) :
    (l.foldl (fun m p => m.insert p.1 p.2) m).lookup k = m.lookup k := by
  induction l generalizing m with
  | nil => rfl
  | cons p l ih =>
    simp only [List.map_cons, List.mem_cons, not_or] at hk
    rw [List.foldl_cons, ih _ hk.2, Finmap.lookup_insert_of_ne _ hk.1]

theorem lookup_ofPairs_of_mem (l : List (α × β)) (hl : (l.map Prod.fst).Nodup) {k : α} {v : β}
    (h : (k, v) ∈ l) : (ofPairs l).lookup k = some v := by
  unfold ofPairs
  generalize (∅ : Finmap fun _ : α => β) = m
  induction l generalizing m with
  | nil => simp at h
  | cons p l ih =>
    simp only [List.map_cons, List.nodup_cons] at hl
    rw [List.foldl_cons]
    rcases List.mem_cons.mp h with rfl | h'
    · rw [lookup_ofPairs_of_not_mem _ _ _ hl.1, Finmap.lookup_insert]
    · exact ih hl.2 h' _

theorem lookup_ofPairs_eq_none (l : List (α × β)) {k : α} (hk : k ∉ l.map Prod.fst) :
    (ofPairs l).lookup k = none := by
  unfold ofPairs
  rw [lookup_ofPairs_of_not_mem _ _ _ hk, Finmap.lookup_empty]

theorem lookup_ofPairs_foldl {l : List (α × β)} {m : Finmap fun _ : α => β} {k : α} {v : β}
    (h : (l.foldl (fun m p => m.insert p.1 p.2) m).lookup k = some v) :
    (k, v) ∈ l ∨ m.lookup k = some v := by
  induction l generalizing m with
  | nil => exact .inr h
  | cons p l ih =>
    rw [List.foldl_cons] at h
    rcases ih h with hl | hm
    · exact .inl (List.mem_cons_of_mem _ hl)
    · by_cases hk : k = p.1
      · subst hk
        rw [Finmap.lookup_insert, Option.some.injEq] at hm
        exact .inl (hm ▸ List.mem_cons_self)
      · rw [Finmap.lookup_insert_of_ne _ hk] at hm
        exact .inr hm

/-- A pair read back from `ofPairs` is one of the pairs. -/
theorem mem_of_lookup_ofPairs {l : List (α × β)} {k : α} {v : β}
    (h : (ofPairs l).lookup k = some v) : (k, v) ∈ l := by
  rcases lookup_ofPairs_foldl h with hl | hm
  · exact hl
  · simp at hm

/-- Over a map whose values carry their own key, the values come in increasing key order. -/
theorem pairwise_sortedValues {m : Finmap fun _ : α => β} {key : β → α}
    (hkey : ∀ k v, m.lookup k = some v → key v = k) :
    (m.sortedValues.map key).Pairwise (· ≤ ·) := by
  have hmap : m.sortedValues.map key = m.keys.ascending := by
    rw [← sortedEntries_map_fst, sortedValues, List.map_map]
    refine List.map_congr_left fun e he => ?_
    exact hkey e.1 e.2 (mem_sortedEntries.mp he)
  rw [hmap]
  exact Finset.pairwise_ascending _

end Finmap

/-! ## The last match of a scan -/

namespace List

variable {α γ : Type} [LinearOrder α]

/-- `let mut found = init; for x in l { if p(x) { found = Some(x) } }` ends with the last element
    of `l` that satisfies `p`, or `init` when none does. -/
theorem foldl_keepLast (p : γ → Prop) [DecidablePred p] (l : List γ) (init : Option γ) :
    l.foldl (fun found x => if p x then some x else found) init =
      (l.filter (p ·)).getLast?.or init := by
  induction l generalizing init with
  | nil => simp
  | cons x l ih =>
    rw [List.foldl_cons, ih]
    by_cases hx : p x
    · rw [if_pos hx, List.filter_cons_of_pos (by simpa using hx), ← List.singleton_append,
        List.getLast?_append, Option.or_assoc]
      simp
    · rw [if_neg hx, List.filter_cons_of_neg (by simpa using hx)]

/-- In a list ordered by key, the last element has the largest key. -/
theorem key_le_of_getLast? {key : γ → α} {l : List γ} (hs : (l.map key).Pairwise (· ≤ ·))
    {x y : γ} (hx : x ∈ l) (hy : l.getLast? = some y) : key x ≤ key y := by
  obtain ⟨ys, rfl⟩ := List.getLast?_eq_some_iff.mp hy
  rw [List.map_append, List.pairwise_append] at hs
  rcases List.mem_append.mp hx with hx | hx
  · exact hs.2.2 _ (List.mem_map_of_mem hx) _ (by simp)
  · rw [List.mem_singleton.mp hx]

/-- The last match of a scan over a list ordered by key: it matches, and no match has a larger
    key. -/
theorem foldl_keepLast_eq_some {p : γ → Prop} [DecidablePred p] {key : γ → α} {l : List γ}
    (hs : (l.map key).Pairwise (· ≤ ·)) {y : γ}
    (hy : l.foldl (fun found x => if p x then some x else found) none = some y) :
    y ∈ l ∧ p y ∧ ∀ x ∈ l, p x → key x ≤ key y := by
  rw [foldl_keepLast, Option.or_none] at hy
  have hmem := List.mem_filter.mp (List.mem_of_getLast? hy)
  refine ⟨hmem.1, by simpa using hmem.2, fun x hx hpx => ?_⟩
  have hsf : ((l.filter (p ·)).map key).Pairwise (· ≤ ·) :=
    hs.sublist ((List.filter_sublist (p := (p ·))).map key)
  exact key_le_of_getLast? hsf (List.mem_filter.mpr ⟨hx, by simpa using hpx⟩) hy

/-- A scan that keeps the last match ends with nothing exactly when nothing matches. -/
theorem foldl_keepLast_eq_none {p : γ → Prop} [DecidablePred p] {l : List γ} :
    l.foldl (fun found x => if p x then some x else found) none = none ↔ ∀ x ∈ l, ¬ p x := by
  rw [foldl_keepLast, Option.or_none, List.getLast?_eq_none_iff, List.filter_eq_nil_iff]
  simp

end List

namespace Finmap

variable {α β : Type} [LinearOrder α]

/-- The last value of a map whose values carry their own key (`iter().last()`): the value of
    the largest key. -/
theorem getLast?_sortedValues_eq_some {m : Finmap fun _ : α => β} {key : β → α}
    (hkey : ∀ k v, m.lookup k = some v → key v = k) {v : β}
    (h : m.sortedValues.getLast? = some v) :
    m.lookup (key v) = some v ∧ ∀ k ∈ m, k ≤ key v := by
  obtain ⟨k, hk⟩ := mem_sortedValues.mp (List.mem_of_getLast? h)
  refine ⟨hkey k v hk ▸ hk, fun k' hk' => ?_⟩
  obtain ⟨v', hv'⟩ := Finmap.mem_iff.mp hk'
  have hle := List.key_le_of_getLast? (pairwise_sortedValues hkey)
    (mem_sortedValues.mpr ⟨k', hv'⟩) h
  rwa [hkey k' v' hv'] at hle

/-- After an insert a lookup finds the inserted value, or what was there. -/
theorem lookup_insert_eq_some {m : Finmap fun _ : α => β} {k a : α} {v b : β}
    (h : (m.insert k v).lookup a = some b) : (a = k ∧ b = v) ∨ m.lookup a = some b := by
  by_cases ha : a = k
  · subst ha
    rw [Finmap.lookup_insert, Option.some.injEq] at h
    exact .inl ⟨rfl, h.symm⟩
  · rw [Finmap.lookup_insert_of_ne _ ha] at h
    exact .inr h

/-- What a lookup finds after an erase was there before. -/
theorem lookup_of_lookup_erase {m : Finmap fun _ : α => β} {k a : α} {b : β}
    (h : (m.erase k).lookup a = some b) : m.lookup a = some b := by
  by_cases ha : a = k
  · subst ha
    rw [Finmap.lookup_erase] at h
    cases h
  · rwa [Finmap.lookup_erase_ne ha] at h

/-- Inserting a value under its own key keeps every value under its key. -/
theorem keyed_insert {m : Finmap fun _ : α => β} {key : β → α}
    (hkey : ∀ k v, m.lookup k = some v → key v = k) (v : β) :
    ∀ k v', (m.insert (key v) v).lookup k = some v' → key v' = k := by
  intro k v' h
  rcases lookup_insert_eq_some h with ⟨rfl, rfl⟩ | hold
  · rfl
  · exact hkey k v' hold

/-- A map with a key has a last value. -/
theorem getLast?_sortedValues_isSome {m : Finmap fun _ : α => β} {k : α} (hk : k ∈ m) :
    m.sortedValues.getLast?.isSome := by
  rw [List.getLast?_isSome, ne_eq, ← List.length_eq_zero_iff, length_sortedValues,
    Finset.card_eq_zero, ← ne_eq, ← Finset.nonempty_iff_ne_empty]
  exact ⟨k, Finmap.mem_keys.mpr hk⟩

/-- A map of one entry is read as that entry. -/
@[simp] theorem sortedEntries_insert_empty (k : α) (v : β) :
    ((∅ : Finmap fun _ : α => β).insert k v).sortedEntries = [(k, v)] := by
  have hkeys : ((∅ : Finmap fun _ : α => β).insert k v).keys = {k} := by
    ext a
    simp [Finmap.mem_keys, Finmap.mem_insert, Finmap.notMem_empty]
  have hasc : ((∅ : Finmap fun _ : α => β).insert k v).keys.ascending = [k] := by
    rw [Finset.ascending_eq_sort, hkeys, Finset.sort_singleton]
  simp [sortedEntries, hasc]

@[simp] theorem sortedValues_insert_empty (k : α) (v : β) :
    ((∅ : Finmap fun _ : α => β).insert k v).sortedValues = [v] := by
  simp [sortedValues]

/-- A map of two entries is read in key order. -/
theorem sortedEntries_insert_insert_of_lt {k₁ k₂ : α} (hk : k₁ < k₂) (v₁ v₂ : β) :
    (((∅ : Finmap fun _ : α => β).insert k₁ v₁).insert k₂ v₂).sortedEntries =
      [(k₁, v₁), (k₂, v₂)] := by
  have hne : k₁ ≠ k₂ := ne_of_lt hk
  have hkeys : (((∅ : Finmap fun _ : α => β).insert k₁ v₁).insert k₂ v₂).keys =
      ({k₁, k₂} : Finset α) := by
    ext a
    simp [Finmap.mem_keys, Finmap.mem_insert, Finmap.notMem_empty, or_comm]
  have hasc : (((∅ : Finmap fun _ : α => β).insert k₁ v₁).insert k₂ v₂).keys.ascending =
      [k₁, k₂] := by
    rw [Finset.ascending_eq_sort, hkeys, Finset.sort_insert _ (by simpa using hk.le)
      (by simpa using hne), Finset.sort_singleton]
  simp [sortedEntries, hasc, Finmap.lookup_insert_of_ne _ hne, Finmap.lookup_insert]

end Finmap

/-! ## Keeping some entries, and popping the largest -/

namespace Finmap

variable {α β : Type} [LinearOrder α]

/-- `BTreeMap::retain`: the entries whose key and value pass `p`. -/
def retain (p : α → β → Bool) (m : Finmap fun _ : α => β) : Finmap fun _ : α => β :=
  ofPairs (m.sortedEntries.filter fun e => p e.1 e.2)

theorem nodup_sortedEntries_map_fst (m : Finmap fun _ : α => β) :
    (m.sortedEntries.map Prod.fst).Nodup := by
  rw [sortedEntries_map_fst, Finset.ascending_eq_sort]
  exact Finset.sort_nodup _ _

@[simp] theorem lookup_retain (p : α → β → Bool) (m : Finmap fun _ : α => β) (k : α) :
    (m.retain p).lookup k = (m.lookup k).filter (p k) := by
  have hnd : ((m.sortedEntries.filter fun e => p e.1 e.2).map Prod.fst).Nodup :=
    (nodup_sortedEntries_map_fst m).sublist (List.filter_sublist.map Prod.fst)
  -- an entry kept for `k` is the entry of `k`
  have hkept : ∀ v, (k, v) ∈ m.sortedEntries.filter (fun e => p e.1 e.2) ↔
      m.lookup k = some v ∧ p k v = true := by
    intro v
    rw [List.mem_filter, mem_sortedEntries]
  cases hk : m.lookup k with
  | none =>
    refine lookup_ofPairs_eq_none _ fun hmem => ?_
    obtain ⟨⟨k', v⟩, he, rfl⟩ := List.mem_map.mp hmem
    rw [hkept] at he
    simp [hk] at he
  | some v =>
    by_cases hp : p k v = true
    · rw [Option.filter_some, if_pos hp]
      exact lookup_ofPairs_of_mem _ hnd ((hkept v).mpr ⟨hk, hp⟩)
    · rw [Option.filter_some, if_neg hp]
      refine lookup_ofPairs_eq_none _ fun hmem => ?_
      obtain ⟨⟨k', v'⟩, he, rfl⟩ := List.mem_map.mp hmem
      obtain ⟨hv', hp'⟩ := (hkept v').mp he
      rw [hk, Option.some.injEq] at hv'
      exact hp (hv' ▸ hp')

/-- Collecting a map's own entries gives the map back. -/
theorem lookup_of_lookup_retain {p : α → β → Bool} {m : Finmap fun _ : α => β} {k : α} {v : β}
    (h : (m.retain p).lookup k = some v) : m.lookup k = some v := by
  rw [lookup_retain] at h
  exact (Option.filter_eq_some_iff.mp h).1

theorem ofPairs_sortedEntries (m : Finmap fun _ : α => β) : ofPairs m.sortedEntries = m := by
  refine Finmap.ext_lookup fun k => ?_
  cases hk : m.lookup k with
  | none =>
    refine lookup_ofPairs_eq_none _ fun hmem => ?_
    rw [sortedEntries_map_fst, Finset.mem_ascending, Finmap.mem_keys] at hmem
    exact Finmap.lookup_eq_none.mp hk hmem
  | some v => exact lookup_ofPairs_of_mem _ (nodup_sortedEntries_map_fst m) (mem_sortedEntries.mpr hk)

/-- Popping the largest entry again and again (`pop_last`) meets the entries in decreasing key
    order. -/
theorem pairwise_sortedEntries_reverse (m : Finmap fun _ : α => β) :
    (m.sortedEntries.reverse.map Prod.fst).Pairwise (· ≥ ·) := by
  rw [List.map_reverse, List.pairwise_reverse, sortedEntries_map_fst]
  exact Finset.pairwise_ascending _

end Finmap
