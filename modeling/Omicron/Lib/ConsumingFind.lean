import Mathlib.Data.List.Basic

/-!
# Finding in a consuming iterator

`iter.find(p)` on a stateful iterator, and the loop `for x in &mut iter { if p(x) { return x } }`,
consume the iterator up to the element they find, that element included, or to its end when
nothing satisfies `p`. Over the list of what the iterator has still to yield that is
`List.findConsume`: the element found, if any, and the list left after it.

* `findConsume_eq_some` -- the list splits into elements that fail `p`, the element found, and
  what is left;
* `findConsume_eq_none` -- no element satisfies `p`, and nothing is left;
* `mem_findConsume` -- **nothing is lost**: an element of the list is still left, or failed `p`,
  or is the one found. An invariant "whatever the iterator no longer yields has been used" is
  kept by every search with it;
* `mem_of_mem_findConsume` -- what is left was in the list.
-/

namespace List

variable {α : Type}

/-- The element `find` returns on an iterator that still yields `l`, and what it leaves. -/
def findConsume (p : α → Bool) : List α → Option α × List α
  | [] => (none, [])
  | a :: l => if p a then (some a, l) else findConsume p l

variable {p : α → Bool}

theorem findConsume_eq_some {l rest : List α} {a : α} (h : findConsume p l = (some a, rest)) :
    ∃ pre, l = pre ++ a :: rest ∧ (∀ x ∈ pre, p x = false) ∧ p a = true := by
  induction l with
  | nil => simp [findConsume] at h
  | cons b l ih =>
    unfold findConsume at h
    split at h
    · rename_i hb
      obtain ⟨hba, rfl⟩ := Prod.mk.inj h
      cases Option.some.inj hba
      exact ⟨[], rfl, by simp, hb⟩
    · rename_i hb
      obtain ⟨pre, rfl, hpre, ha⟩ := ih h
      refine ⟨b :: pre, rfl, ?_, ha⟩
      intro x hx
      rcases List.mem_cons.mp hx with rfl | hx
      · simpa using hb
      · exact hpre x hx

theorem findConsume_eq_none {l rest : List α} (h : findConsume p l = (none, rest)) :
    rest = [] ∧ ∀ x ∈ l, p x = false := by
  induction l with
  | nil =>
    simp only [findConsume, Prod.mk.injEq, true_and] at h
    exact ⟨h.symm, by simp⟩
  | cons b l ih =>
    unfold findConsume at h
    split at h
    · simp at h
    · rename_i hb
      obtain ⟨hrest, hl⟩ := ih h
      refine ⟨hrest, ?_⟩
      intro x hx
      rcases List.mem_cons.mp hx with rfl | hx
      · simpa using hb
      · exact hl x hx

/-- **A search loses nothing**: every element is left, failed the test, or was found. -/
theorem mem_findConsume {l : List α} {x : α} (hx : x ∈ l) :
    x ∈ (findConsume p l).2 ∨ p x = false ∨ (findConsume p l).1 = some x := by
  rcases h : findConsume p l with ⟨_ | a, rest⟩
  · exact .inr (.inl ((findConsume_eq_none h).2 x hx))
  · obtain ⟨pre, rfl, hpre, -⟩ := findConsume_eq_some h
    rcases List.mem_append.mp hx with hx | hx
    · exact .inr (.inl (hpre x hx))
    · rcases List.mem_cons.mp hx with rfl | hx
      · exact .inr (.inr rfl)
      · exact .inl hx

theorem mem_of_mem_findConsume {l : List α} {x : α} (hx : x ∈ (findConsume p l).2) : x ∈ l := by
  rcases h : findConsume p l with ⟨_ | a, rest⟩
  · rw [h, (findConsume_eq_none h).1] at hx
    simp at hx
  · obtain ⟨pre, rfl, -, -⟩ := findConsume_eq_some h
    rw [h] at hx
    simp [hx]

theorem mem_of_findConsume_eq_some {l rest : List α} {a : α}
    (h : findConsume p l = (some a, rest)) : a ∈ l ∧ p a = true := by
  obtain ⟨pre, rfl, -, ha⟩ := findConsume_eq_some h
  simp [ha]

example : findConsume (· > 2) [1, 3, 2, 5] = (some 3, [2, 5]) := by decide

end List
