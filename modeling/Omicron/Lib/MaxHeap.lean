import Mathlib.Data.List.MinMax
import Mathlib.Data.List.Perm.Basic

/-!
# Max-heaps by their contract

A binary max-heap is used here through what its operations promise, not through the array that
holds it: `push` adds an element, and `pop` removes and returns one of greatest key. Of several
elements of greatest key `pop` takes the first pushed; no result below depends on that choice.
Every result is about the elements as a multiset (`List.Perm`) and about the key of what `pop`
returns, so that a heap ordered by any key into a linear order can be reasoned about from

* `pop_eq_none_iff` -- `pop` fails exactly on the empty heap;
* `pop_eq_some` -- what it returns was in the heap, is of greatest key, and the rest is what
  remains;
* `push_perm`, `foldl_push_perm` -- pushing adds the elements.
-/

/-- A max-heap, as the elements it holds in the order they were pushed. -/
structure MaxHeap (α : Type) where
  data : List α

namespace MaxHeap

variable {α κ : Type} [LinearOrder κ] (key : α → κ)

/-- The empty heap. -/
def empty : MaxHeap α := ⟨[]⟩

/-- Adds an element. -/
def push (h : MaxHeap α) (a : α) : MaxHeap α := ⟨h.data ++ [a]⟩

/-- Removes an element of greatest key and returns it, with the heap that remains. -/
def pop [DecidableEq α] (h : MaxHeap α) : Option (α × MaxHeap α) :=
  (h.data.argmax key).map fun a => (a, ⟨h.data.erase a⟩)

theorem push_perm (h : MaxHeap α) (a : α) : (h.push a).data.Perm (a :: h.data) :=
  List.perm_append_singleton a h.data

theorem foldl_push_perm (l : List α) (h : MaxHeap α) :
    (l.foldl push h).data.Perm (l ++ h.data) := by
  induction l generalizing h with
  | nil => rfl
  | cons a rest ih =>
    rw [List.foldl_cons]
    have hpushed : (rest ++ (h.push a).data).Perm (rest ++ a :: h.data) :=
      (push_perm h a).append_left rest
    exact (ih _).trans (hpushed.trans List.perm_middle)

variable [DecidableEq α]

theorem pop_eq_none_iff (h : MaxHeap α) : h.pop key = none ↔ h.data = [] := by
  simp [pop, List.argmax_eq_none]

/-- **What `pop` returns**: an element of the heap of greatest key, and the heap without it. -/
theorem pop_eq_some {h h' : MaxHeap α} {a : α} (hp : h.pop key = some (a, h')) :
    a ∈ h.data ∧ h.data.Perm (a :: h'.data) ∧ ∀ b ∈ h.data, key b ≤ key a := by
  obtain ⟨m, hm, hpair⟩ := Option.map_eq_some_iff.mp hp
  cases hpair
  have hmem : a ∈ h.data := List.argmax_mem hm
  exact ⟨hmem, List.perm_cons_erase hmem, fun b hb => List.le_of_mem_argmax hb hm⟩

theorem length_pop_lt {h h' : MaxHeap α} {a : α} (hp : h.pop key = some (a, h')) :
    h'.data.length < h.data.length := by
  have hperm := (pop_eq_some key hp).2.1
  rw [hperm.length_eq, List.length_cons]
  exact Nat.lt_succ_self _

end MaxHeap
