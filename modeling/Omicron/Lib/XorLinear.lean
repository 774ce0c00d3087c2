import Mathlib.Data.UInt

/-!
# Maps of bytes that respect xor

A byte is a vector of eight bits over GF(2), xor its addition. A map of bytes that respects xor
(`XorLinear`) is fixed by its values on the eight bytes of one bit (`bits`), since every byte is
the xor of its bits (`xorSum_bitsOf`):

* `XorLinear.ext_bits` -- two such maps that agree on `bits` are equal;
* `ext_bits₂`, `ext_bits₃` -- the same for maps of two and three bytes that respect xor in each
  argument, which agree on the 64 pairs and the 512 triples of bits.

An identity of such maps over all 256³ triples is so a check of 512 cases.
-/

namespace UInt8

theorem and_xor_distrib_left (a b c : UInt8) : a &&& (b ^^^ c) = (a &&& b) ^^^ (a &&& c) :=
  UInt8.toBitVec_inj.1 (by ext i; simp [Bool.and_xor_distrib_left])

theorem and_xor_distrib_right (a b c : UInt8) : (a ^^^ b) &&& c = (a &&& c) ^^^ (b &&& c) :=
  UInt8.toBitVec_inj.1 (by ext i; simp [Bool.and_xor_distrib_right])

theorem xor_xor_xor_comm (a b c d : UInt8) : (a ^^^ b) ^^^ (c ^^^ d) = (a ^^^ c) ^^^ (b ^^^ d) := by
  rw [UInt8.xor_assoc, ← UInt8.xor_assoc b, UInt8.xor_comm b c, UInt8.xor_assoc,
    ← UInt8.xor_assoc]

/-- A statement about every byte, checked on the numbers below `256`. -/
theorem forall_of_lt_256 {P : UInt8 → Prop} (h : ∀ n < 256, P n.toUInt8) (a : UInt8) : P a := by
  have := h a.toNat a.toNat_lt
  rwa [Nat.toUInt8_eq, UInt8.ofNat_toNat] at this

end UInt8

namespace Omicron

/-- The bytes of one bit. -/
def bits : List UInt8 := [1, 2, 4, 8, 16, 32, 64, 128]

/-- The xor of a list of bytes. -/
def xorSum (l : List UInt8) : UInt8 := l.foldr (· ^^^ ·) 0

/-- The bits set in a byte. -/
def bitsOf (a : UInt8) : List UInt8 := bits.filter fun e => a &&& e != 0

theorem bitsOf_sublist (a : UInt8) : (bitsOf a).Sublist bits := List.filter_sublist

/-- **Every byte is the xor of its bits.** -/
theorem xorSum_bitsOf (a : UInt8) : xorSum (bitsOf a) = a := by
  set_option maxRecDepth 8000 in
  exact UInt8.forall_of_lt_256 (P := fun a => xorSum (bitsOf a) = a) (by decide) a

/-- A map of bytes respects xor. -/
def XorLinear (f : UInt8 → UInt8) : Prop := ∀ a b, f (a ^^^ b) = f a ^^^ f b

namespace XorLinear

variable {f g : UInt8 → UInt8}

theorem map_zero (hf : XorLinear f) : f 0 = 0 := by
  have h : f 0 ^^^ f 0 = f 0 ^^^ 0 := by rw [← hf, UInt8.xor_self, UInt8.xor_zero]
  exact (UInt8.xor_right_inj _).mp h

theorem map_xorSum (hf : XorLinear f) (l : List UInt8) : f (xorSum l) = xorSum (l.map f) := by
  induction l with
  | nil => exact hf.map_zero
  | cons a l ih =>
    simp only [xorSum, List.foldr_cons, List.map_cons] at ih ⊢
    rw [hf, ih]

theorem comp (hf : XorLinear f) (hg : XorLinear g) : XorLinear (f ∘ g) := fun a b => by
  simp only [Function.comp_apply, hg a b]
  exact hf _ _

theorem id : XorLinear id := fun _ _ => rfl

/-- **A map that respects xor is fixed by its values on `bits`.** -/
theorem ext_bits (hf : XorLinear f) (hg : XorLinear g) (h : ∀ e ∈ bits, f e = g e) (a : UInt8) :
    f a = g a := by
  have hmap : (bitsOf a).map f = (bitsOf a).map g :=
    List.map_congr_left fun e he => h e ((bitsOf_sublist a).subset he)
  rw [← xorSum_bitsOf a, hf.map_xorSum, hg.map_xorSum, hmap]

end XorLinear

/-- Two maps of two bytes that respect xor in each argument agree if they agree on the pairs of
    bits. -/
theorem ext_bits₂ {m n : UInt8 → UInt8 → UInt8}
    (hm1 : ∀ b, XorLinear (m · b)) (hm2 : ∀ a, XorLinear (m a))
    (hn1 : ∀ b, XorLinear (n · b)) (hn2 : ∀ a, XorLinear (n a))
    (h : ∀ e ∈ bits, ∀ e' ∈ bits, m e e' = n e e') (a b : UInt8) : m a b = n a b := by
  -- first the second argument, then the first
  refine XorLinear.ext_bits (hm2 a) (hn2 a) (fun e' he' => ?_) b
  exact XorLinear.ext_bits (f := (m · e')) (g := (n · e')) (hm1 e') (hn1 e')
    (fun e he => h e he e' he') a

/-- Two maps of three bytes that respect xor in each argument agree if they agree on the triples
    of bits. -/
theorem ext_bits₃ {m n : UInt8 → UInt8 → UInt8 → UInt8}
    (hm1 : ∀ b c, XorLinear (m · b c)) (hm2 : ∀ a c, XorLinear (m a · c))
    (hm3 : ∀ a b, XorLinear (m a b))
    (hn1 : ∀ b c, XorLinear (n · b c)) (hn2 : ∀ a c, XorLinear (n a · c))
    (hn3 : ∀ a b, XorLinear (n a b))
    (h : ∀ e ∈ bits, ∀ e' ∈ bits, ∀ e'' ∈ bits, m e e' e'' = n e e' e'') (a b c : UInt8) :
    m a b c = n a b c := by
  -- the last argument, then the first two as a map of pairs
  refine XorLinear.ext_bits (hm3 a b) (hn3 a b) (fun e'' he'' => ?_) c
  exact ext_bits₂ (m := (m · · e'')) (n := (n · · e'')) (fun b => hm1 b e'')
    (fun a => hm2 a e'') (fun b => hn1 b e'') (fun a => hn2 a e'')
    (fun e he e' he' => h e he e' he' e'' he'') a b

end Omicron
