import Mathlib

/-!
# Reading back a successful `Except` computation

A validation written in `do` notation is a chain of binds, each check an `if` that throws.
These lemmas take a successful result apart one bind at a time, so that each check of the chain
becomes a hypothesis saying it passed; a failure passes through the binds after it. The same
holds in `ExceptT ε Option`, the monad of a computation that may also panic. A loop there keeps
what each successful round keeps (`run_foldlM_inv`), also an invariant that speaks of the
elements it has run over (`run_foldlM_prefix_inv`).
-/

namespace Except

variable {ε α β : Type}

theorem bind_eq_ok_iff {x : Except ε α} {f : α → Except ε β} {b : β} :
    (x >>= f) = .ok b ↔ ∃ a, x = .ok a ∧ f a = .ok b := by
  cases x with
  | error e => simp [bind, Except.bind]
  | ok a => simp [bind, Except.bind]

/-- A check that throws passed. -/
theorem ite_throw_eq_ok_iff {c : Prop} [Decidable c] {e : ε} {u : PUnit} :
    (if c then throw e else pure PUnit.unit : Except ε PUnit) = .ok u ↔ ¬c := by
  by_cases h : c
  · simp [h, throw, throwThe, MonadExceptOf.throw]
  · simp [h, pure, Except.pure]

/-- A failure passes through a bind. -/
@[simp] theorem error_bind {e : ε} {f : α → Except ε β} : (Except.error e >>= f) = .error e := rfl

theorem pure_eq_ok_iff {a b : α} : (pure a : Except ε α) = .ok b ↔ a = b := by
  simp [pure, Except.pure]

theorem throw_ne_ok {e : ε} {b : α} : (throw e : Except ε α) ≠ .ok b := by
  simp [throw, throwThe, MonadExceptOf.throw]

/-- A loop whose every round succeeds returns the rounds' results. -/
theorem mapM_eq_ok_map {f : α → Except ε β} {g : α → β} (xs : List α)
    (h : ∀ x ∈ xs, f x = .ok (g x)) : xs.mapM f = .ok (xs.map g) := by
  induction xs with
  | nil => rfl
  | cons x xs ih =>
    rw [List.mapM_cons, h x List.mem_cons_self, ih fun y hy => h y (List.mem_cons_of_mem x hy)]
    rfl

/-- A successful loop pairs each element with its round's result. -/
theorem forall₂_of_mapM_eq_ok {f : α → Except ε β} :
    ∀ {xs : List α} {ys : List β}, xs.mapM f = .ok ys → List.Forall₂ (fun x y => f x = .ok y) xs ys
  | [], ys, h => by
    rw [List.mapM_nil, pure_eq_ok_iff] at h
    subst h
    exact .nil
  | x :: xs, ys, h => by
    rw [List.mapM_cons, bind_eq_ok_iff] at h
    obtain ⟨y, hy, h⟩ := h
    rw [bind_eq_ok_iff] at h
    obtain ⟨ys', hys', h⟩ := h
    rw [pure_eq_ok_iff] at h
    subst h
    exact .cons hy (forall₂_of_mapM_eq_ok hys')

/-- A successful loop whose rounds return `g x` when they succeed, and only when `c x`, returns
    `xs.map g`, and every round's `c` held. -/
theorem mapM_eq_ok_of {f : α → Except ε β} {g : α → β} {c : α → Prop}
    (hf : ∀ x y, f x = .ok y → y = g x ∧ c x) {xs : List α} {ys : List β}
    (h : xs.mapM f = .ok ys) : ys = xs.map g ∧ ∀ x ∈ xs, c x := by
  have hall := forall₂_of_mapM_eq_ok h
  clear h
  induction hall with
  | nil => simp
  | @cons x y xs ys hxy _ ih =>
    obtain ⟨rfl, hc⟩ := hf x y hxy
    obtain ⟨rfl, hcs⟩ := ih
    exact ⟨rfl, List.forall_mem_cons.mpr ⟨hc, hcs⟩⟩

theorem map_eq_ok_iff {f : α → β} {x : Except ε α} {b : β} :
    f <$> x = .ok b ↔ ∃ a, x = .ok a ∧ f a = b := by
  cases x <;> simp [Functor.map, Except.map]

end Except

namespace ExceptT

variable {ε α β : Type}

/-- A successful bind in `ExceptT ε Option`, where `none` is a panic: both halves succeeded. -/
theorem run_bind_eq_some_ok_iff {x : ExceptT ε Option α} {f : α → ExceptT ε Option β} {b : β} :
    (x >>= f).run = some (.ok b) ↔ ∃ a, x.run = some (.ok a) ∧ (f a).run = some (.ok b) := by
  rcases x with _ | e | a
  · simp [bind, ExceptT.bind, ExceptT.mk, ExceptT.run]
  · simp [bind, ExceptT.bind, ExceptT.mk, ExceptT.run, ExceptT.bindCont]
  · simp [bind, ExceptT.bind, ExceptT.mk, ExceptT.run, ExceptT.bindCont]

/-- A bind whose first half succeeds runs as its second half. -/
theorem run_bind_of_run_eq {x : ExceptT ε Option α} {f : α → ExceptT ε Option β} {a : α}
    (hx : x.run = some (.ok a)) : (x >>= f).run = (f a).run := by
  rcases x with _ | _ | a'
  · cases hx
  · cases hx
  · cases hx
    rfl

@[simp] theorem run_pure_eq_some_ok_iff {a b : α} :
    (pure a : ExceptT ε Option α).run = some (.ok b) ↔ a = b := by
  simp [pure, ExceptT.pure, ExceptT.mk, ExceptT.run]

/-- A lifted `Option` succeeds exactly when it is `some`. -/
@[simp] theorem run_lift_eq_some_ok_iff {x : Option α} {a : α} :
    (ExceptT.lift x : ExceptT ε Option α).run = some (.ok a) ↔ x = some a := by
  cases x <;> simp [ExceptT.lift, ExceptT.mk, ExceptT.run]

/-- A check that throws did not pass. -/
theorem run_throw_ne_some_ok {e : ε} {b : α} :
    (throw e : ExceptT ε Option α).run ≠ some (.ok b) := by
  simp [ExceptT.run_throw]

/-- **A loop keeps an invariant** that each of its successful rounds keeps, on the elements it
    runs over. -/
theorem run_foldlM_inv_of_mem {f : β → α → ExceptT ε Option β} (I : β → Prop) :
    ∀ (xs : List α), (∀ b a b', a ∈ xs → I b → (f b a).run = some (.ok b') → I b') →
      ∀ {b r : β}, I b → (xs.foldlM f b).run = some (.ok r) → I r
  | [], _, b, r, hb, h => by
    rw [List.foldlM_nil, run_pure_eq_some_ok_iff] at h
    exact h ▸ hb
  | a :: xs, hstep, b, r, hb, h => by
    rw [List.foldlM_cons, run_bind_eq_some_ok_iff] at h
    obtain ⟨b', hb', hrest⟩ := h
    have hb'I : I b' := hstep b a b' List.mem_cons_self hb hb'
    exact run_foldlM_inv_of_mem I xs
      (fun c x c' hx => hstep c x c' (List.mem_cons_of_mem a hx)) hb'I hrest

/-- The same, for an invariant every round keeps. -/
theorem run_foldlM_inv {f : β → α → ExceptT ε Option β} (I : β → Prop)
    (hstep : ∀ b a b', I b → (f b a).run = some (.ok b') → I b') (xs : List α) {b r : β}
    (hb : I b) (h : (xs.foldlM f b).run = some (.ok r)) : I r :=
  run_foldlM_inv_of_mem I xs (fun c x c' _ => hstep c x c') hb h

/-- **A loop keeps an invariant of what it has run over**: each successful round extends the
    elements run so far by its own. -/
theorem run_foldlM_prefix_inv {f : β → α → ExceptT ε Option β} (I : List α → β → Prop) :
    ∀ (xs : List α), (∀ pre b a b', a ∈ xs → I pre b → (f b a).run = some (.ok b') →
      I (pre ++ [a]) b') →
      ∀ {pre : List α} {b r : β}, I pre b → (xs.foldlM f b).run = some (.ok r) → I (pre ++ xs) r
  | [], _, pre, b, r, hb, h => by
    rw [List.foldlM_nil, run_pure_eq_some_ok_iff] at h
    rw [List.append_nil]
    exact h ▸ hb
  | a :: xs, hstep, pre, b, r, hb, h => by
    rw [List.foldlM_cons, run_bind_eq_some_ok_iff] at h
    obtain ⟨b', hb', hrest⟩ := h
    have hb'I : I (pre ++ [a]) b' := hstep pre b a b' List.mem_cons_self hb hb'
    have hr := run_foldlM_prefix_inv I xs
      (fun p c x c' hx => hstep p c x c' (List.mem_cons_of_mem a hx)) hb'I hrest
    rwa [List.append_assoc, List.singleton_append] at hr

/-- A successful loop's results each come from a successful round on one of its elements. -/
theorem run_mapM_mem {f : α → ExceptT ε Option β} :
    ∀ {xs : List α} {ys : List β}, (xs.mapM f).run = some (.ok ys) →
      ∀ y ∈ ys, ∃ x ∈ xs, (f x).run = some (.ok y)
  | [], ys, h, y, hy => by
    rw [List.mapM_nil, run_pure_eq_some_ok_iff] at h
    subst h
    cases hy
  | x :: xs, ys, h, y, hy => by
    rw [List.mapM_cons, run_bind_eq_some_ok_iff] at h
    obtain ⟨y₀, hy₀, h⟩ := h
    rw [run_bind_eq_some_ok_iff] at h
    obtain ⟨ys', hys', h⟩ := h
    rw [run_pure_eq_some_ok_iff] at h
    subst h
    rcases List.mem_cons.mp hy with rfl | hy
    · exact ⟨x, List.mem_cons_self, hy₀⟩
    · obtain ⟨x', hx', hx'y⟩ := run_mapM_mem hys' y hy
      exact ⟨x', List.mem_cons_of_mem x hx', hx'y⟩

end ExceptT

namespace Option

variable {α β : Type}

/-- **A loop that may panic keeps an invariant** that each of its successful rounds keeps. -/
theorem foldlM_inv {f : β → α → Option β} (I : β → Prop)
    (hstep : ∀ b a b', I b → f b a = some b' → I b') :
    ∀ (xs : List α) {b r : β}, I b → xs.foldlM f b = some r → I r
  | [], b, r, hb, h => by
    rw [List.foldlM_nil] at h
    cases h
    exact hb
  | a :: xs, b, r, hb, h => by
    rw [List.foldlM_cons] at h
    obtain ⟨b', hb', hrest⟩ := Option.bind_eq_some_iff.mp h
    exact foldlM_inv I hstep xs (hstep b a b' hb hb') hrest

end Option
