import Omicron.Lib.ExceptRun
import Mathlib

/-!
# Decoders that read a prefix of their input

A decoder over a list of tokens, `StateT (List τ) (Except ε) α`, reads from the front of its
input and leaves the rest. It *reads a prefix* (`ReadsPrefix`) when what follows the tokens it
reads cannot change what it does with them: a success on `l` is the same success on `l ++ r`,
with `r` after what it left. Failures are not constrained: a decoder that stops for want of input
on `l` may well succeed on `l ++ r`.

Decoders that read a prefix are closed under the monad's operations and its loops over lists
(`bind`, `map`, `mapM`, `foldlM`), so a decoder assembled from such pieces decodes a message
followed by anything as it decodes the message alone.

A decoder *reads* `bytes` as `a` (`Reads`) when, on `bytes` followed by anything, it returns `a`
and leaves what follows. This is the form of a round trip, `Reads decode (encode a) a`, and it
composes the way encoders do: the bytes of a bind are the bytes of its two parts, one after the
other (`Reads.bind`), and those of a loop the bytes of its rounds (`Reads.mapM`, `Reads.foldlM_cons`).
-/

namespace Omicron

variable {τ ε : Type}

/-- A decoder reads a prefix: on `l ++ r` it succeeds as it does on `l`, leaving `r` after what
    it left. -/
def ReadsPrefix {α : Type} (d : StateT (List τ) (Except ε) α) : Prop :=
  ∀ l r a rest, d.run l = .ok (a, rest) → d.run (l ++ r) = .ok (a, rest ++ r)

namespace ReadsPrefix

variable {α β : Type}

/-- A successful bind, taken apart. -/
theorem run_bind_eq_ok {d : StateT (List τ) (Except ε) α} {k : α → StateT (List τ) (Except ε) β}
    {l : List τ} {p : β × List τ} :
    (d >>= k).run l = .ok p ↔ ∃ a mid, d.run l = .ok (a, mid) ∧ (k a).run mid = .ok p := by
  rw [StateT.run_bind, Except.bind_eq_ok_iff]
  constructor
  · rintro ⟨⟨a, mid⟩, hd, hk⟩
    exact ⟨a, mid, hd, hk⟩
  · rintro ⟨a, mid, hd, hk⟩
    exact ⟨(a, mid), hd, hk⟩

theorem pure (a : α) : ReadsPrefix (Pure.pure a : StateT (List τ) (Except ε) α) := by
  intro l r b rest h
  simp only [StateT.run_pure, Except.pure_eq_ok_iff, Prod.mk.injEq] at h ⊢
  obtain ⟨rfl, rfl⟩ := h
  exact ⟨rfl, rfl⟩

theorem throw (e : ε) : ReadsPrefix (MonadExcept.throw e : StateT (List τ) (Except ε) α) := by
  intro l r b rest h
  exact absurd h Except.throw_ne_ok

theorem bind {d : StateT (List τ) (Except ε) α} {k : α → StateT (List τ) (Except ε) β}
    (hd : ReadsPrefix d) (hk : ∀ a, ReadsPrefix (k a)) : ReadsPrefix (d >>= k) := by
  intro l r b rest h
  obtain ⟨a, mid, hda, hkb⟩ := run_bind_eq_ok.mp h
  exact run_bind_eq_ok.mpr ⟨a, mid ++ r, hd l r a mid hda, hk a mid r b rest hkb⟩

theorem map (f : α → β) {d : StateT (List τ) (Except ε) α} (hd : ReadsPrefix d) :
    ReadsPrefix (f <$> d) := by
  rw [← bind_pure_comp]
  exact hd.bind fun a => pure (f a)

/-- A loop over a list, each round reading a prefix. -/
theorem mapM (f : α → StateT (List τ) (Except ε) β) (hf : ∀ a, ReadsPrefix (f a)) :
    ∀ xs : List α, ReadsPrefix (xs.mapM f)
  | [] => pure []
  | x :: xs => by
    rw [List.mapM_cons]
    exact (hf x).bind fun b => (mapM f hf xs).bind fun bs => pure (b :: bs)

/-- A fold over a list, each round reading a prefix. -/
theorem foldlM (f : β → α → StateT (List τ) (Except ε) β) (hf : ∀ b a, ReadsPrefix (f b a)) :
    ∀ (xs : List α) (init : β), ReadsPrefix (xs.foldlM f init)
  | [], init => pure init
  | x :: xs, init => by
    rw [List.foldlM_cons]
    exact (hf init x).bind fun b => foldlM f hf xs b

end ReadsPrefix

/-- `d` reads exactly `bytes`, and returns `a`, whatever follows them. -/
def Reads {α : Type} (d : StateT (List τ) (Except ε) α) (bytes : List τ) (a : α) : Prop :=
  ∀ rest, d.run (bytes ++ rest) = .ok (a, rest)

namespace Reads

variable {α β : Type}

theorem pure (a : α) : Reads (Pure.pure a : StateT (List τ) (Except ε) α) [] a := by
  intro rest
  rfl

theorem bind {d : StateT (List τ) (Except ε) α} {k : α → StateT (List τ) (Except ε) β}
    {bs cs : List τ} {a : α} {b : β} (hd : Reads d bs a) (hk : Reads (k a) cs b) :
    Reads (d >>= k) (bs ++ cs) b := by
  intro rest
  rw [List.append_assoc]
  exact ReadsPrefix.run_bind_eq_ok.mpr ⟨a, cs ++ rest, hd (cs ++ rest), hk rest⟩

/-- A bind whose first part reads nothing. -/
theorem bind_nil {d : StateT (List τ) (Except ε) α} {k : α → StateT (List τ) (Except ε) β}
    {cs : List τ} {a : α} {b : β} (hd : Reads d [] a) (hk : Reads (k a) cs b) :
    Reads (d >>= k) cs b := by
  simpa using hd.bind hk

/-- A bind whose second part reads nothing. -/
theorem bind_last {d : StateT (List τ) (Except ε) α} {k : α → StateT (List τ) (Except ε) β}
    {bs : List τ} {a : α} {b : β} (hd : Reads d bs a) (hk : Reads (k a) [] b) :
    Reads (d >>= k) bs b := by
  simpa using hd.bind hk

theorem map (f : α → β) {d : StateT (List τ) (Except ε) α} {bs : List τ} {a : α}
    (hd : Reads d bs a) : Reads (f <$> d) bs (f a) := by
  rw [← bind_pure_comp, ← List.append_nil bs]
  exact hd.bind (pure (f a))

/-- A loop over a list reads the bytes of its rounds, one after the other. -/
theorem mapM {f : α → StateT (List τ) (Except ε) β} {g : β → List τ} :
    ∀ {xs : List α} {ys : List β}, List.Forall₂ (fun x y => Reads (f x) (g y) y) xs ys →
      Reads (xs.mapM f) (ys.flatMap g) ys
  | [], [], .nil => pure []
  | x :: xs, y :: ys, .cons hxy hrest => by
    rw [List.mapM_cons, List.flatMap_cons, ← List.append_nil (g y ++ _), List.append_assoc]
    exact hxy.bind ((mapM hrest).bind (pure (y :: ys)))

/-- A loop whose rounds read nothing reads nothing. -/
theorem mapM_nil {f : α → StateT (List τ) (Except ε) β} {xs : List α} {ys : List β}
    (h : List.Forall₂ (fun x y => Reads (f x) [] y) xs ys) : Reads (xs.mapM f) [] ys := by
  have hnil : ys.flatMap (fun _ => ([] : List τ)) = [] := List.flatMap_eq_nil_iff.mpr fun _ _ => rfl
  simpa only [hnil] using mapM (g := fun _ => []) h

theorem foldlM_nil (f : β → α → StateT (List τ) (Except ε) β) (init : β) :
    Reads ([].foldlM f init) [] init :=
  pure init

theorem foldlM_cons {f : β → α → StateT (List τ) (Except ε) β} {x : α} {xs : List α}
    {init b c : β} {bs cs : List τ} (hx : Reads (f init x) bs b) (hxs : Reads (xs.foldlM f b) cs c) :
    Reads ((x :: xs).foldlM f init) (bs ++ cs) c := by
  rw [List.foldlM_cons]
  exact hx.bind hxs

end Reads

end Omicron
