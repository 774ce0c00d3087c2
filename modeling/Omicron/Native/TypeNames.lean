import Omicron.Native.DataType

/-!
# ClickHouse native protocol: type names print and parse back

A column's type travels as its `Display` (`DataType.text`) and is read back by
`DataType::nom_parse` (`DataType.nomParse`, `DataType.fromStr`). This file says which types come
back:

* `nomParseFuel_text_append` -- a type without `Date`, `DateTime` or `DateTime64` anywhere in it
  parses from its text followed by anything, and leaves what follows;
* `fromStr_text` -- a type whose names read back (`wellNamed`) and with no date below a
  `Nullable(...)` or an `Array(...)` (`hasNestedDate`) parses from its text to itself, a date at
  the top included;
* `fromStr_text_of_hasNestedDate` -- no type with a date below a wrapper does. The three date
  parsers end in `eof` (`all_consuming(tag("Date"))`, the `eof` of `datetime` and `datetime64`),
  so the `)` that closes the wrapper makes them fail, and every other alternative fails on a
  date's text already.

The names a text carries are read back when each time zone is one `chrono_tz` knows and is made
of the characters `quoted_timezone` takes, and each `Enum8` has at least one variant, distinct
values (it is an `IndexMap`) and names of ASCII letters and digits.
-/

namespace Omicron.Native

/-! ## 1. The combinators, applied to an input -/

namespace Nom

@[simp] theorem orElse_apply {α : Type} (x y : Nom α) (s : List Char) :
    (x <|> y) s = (x s).orElse fun _ => y s := rfl

@[simp] theorem bind_apply {α β : Type} (x : Nom α) (f : α → Nom β) (s : List Char) :
    (x >>= f) s = (x s).bind fun p => f p.1 p.2 := rfl

@[simp] theorem map_apply {α β : Type} (x : Nom α) (f : α → β) (s : List Char) :
    (f <$> x) s = (x s).map fun p => (f p.1, p.2) := by
  show (x >>= fun a => pure (f a)) s = _
  rw [bind_apply]
  cases x s <;> rfl

@[simp] theorem pure_apply {α : Type} (a : α) (s : List Char) : (pure a : Nom α) s = some (a, s) := rfl

@[simp] theorem tag_apply (t : String) (s : List Char) :
    tag t s = if t.toList.isPrefixOf s then some ((), s.drop t.toList.length) else none := by
  rw [String.length_toList]
  rfl

/-- A tag reads itself off the front of the input. -/
theorem tag_append (t : String) (rest : List Char) : tag t (t.toList ++ rest) = some ((), rest) := by
  rw [tag_apply, if_pos (List.isPrefixOf_iff_prefix.mpr (List.prefix_append _ _)), List.drop_left]

@[simp] theorem eof_nil : eof [] = some ((), []) := rfl

@[simp] theorem eof_cons (c : Char) (rest : List Char) : eof (c :: rest) = none := rfl

theorem opt_of_none {α : Type} {p : Nom α} {s : List Char} (h : p s = none) :
    opt p s = some (none, s) := by
  simp only [opt, h]

theorem opt_of_some {α : Type} {p : Nom α} {s rest : List Char} {a : α}
    (h : p s = some (a, rest)) : opt p s = some (some a, rest) := by
  simp only [opt, h]

/-- `take_while1` takes a non-empty run of accepted characters up to the first refused one. -/
theorem takeWhile1_append {pred : Char → Bool} {l : List Char} {c : Char} (rest : List Char)
    (hne : l ≠ []) (hl : ∀ x ∈ l, pred x = true) (hc : pred c = false) :
    takeWhile1 pred (l ++ c :: rest) = some (l, c :: rest) := by
  have htake : (l ++ c :: rest).takeWhile pred = l := by
    rw [List.takeWhile_append_of_pos hl, List.takeWhile_cons_of_neg (by simp [hc]),
      List.append_nil]
  simp only [takeWhile1, htake, List.isEmpty_iff, hne, if_false, List.drop_left]

/-! ## 2. Numbers -/

theorem digitsValue_append_singleton (ds : List Char) (c : Char) :
    digitsValue (ds ++ [c]) = digitsValue ds * 10 + (c.toNat - '0'.toNat) := by
  simp only [digitsValue, List.foldl_append, List.foldl_cons, List.foldl_nil]

theorem digitChar_toNat_sub_zero : ∀ d, d < 10 → (Nat.digitChar d).toNat - '0'.toNat = d := by
  decide

/-- The decimal digits `Nat.repr` prints are worth the number. -/
theorem digitsValue_toDigits (n : Nat) : digitsValue (Nat.toDigits 10 n) = n := by
  induction n using Nat.strongRecOn with
  | ind n ih =>
    by_cases hn : n < 10
    · rw [Nat.toDigits_of_lt_base hn, ← List.nil_append [_], digitsValue_append_singleton]
      simp only [digitsValue, List.foldl_nil, Nat.zero_mul, Nat.zero_add]
      exact digitChar_toNat_sub_zero n hn
    · have hdiv : n / 10 < n := Nat.div_lt_self (by omega) (by decide)
      rw [Nat.toDigits_of_base_le (by decide) (by omega), digitsValue_append_singleton,
        ih (n / 10) hdiv, digitChar_toNat_sub_zero _ (Nat.mod_lt _ (by decide))]
      omega

/-- The digits of `n` followed by a character that is not a digit. -/
theorem takeWhile_isDigit_toDigits (n : Nat) {c : Char} (rest : List Char)
    (hc : c.isDigit = false) :
    (Nat.toDigits 10 n ++ c :: rest).takeWhile Char.isDigit = Nat.toDigits 10 n := by
  have hdigits : ∀ x ∈ Nat.toDigits 10 n, x.isDigit = true := fun _ hx =>
    Nat.isDigit_of_mem_toDigits (by decide) (Nat.le_refl 10) hx
  rw [List.takeWhile_append_of_pos hdigits, List.takeWhile_cons_of_neg (by simp [hc]),
    List.append_nil]

/-- `u8` reads back a number up to 255. -/
theorem u8_toDigits {n : Nat} {c : Char} (rest : List Char) (hn : n ≤ 255)
    (hc : c.isDigit = false) :
    Nom.u8 (Nat.toDigits 10 n ++ c :: rest) = some (n.toUInt8, c :: rest) := by
  have hne : (Nat.toDigits 10 n).isEmpty = false :=
    List.isEmpty_eq_false_iff.mpr Nat.toDigits_ne_nil
  simp only [Nom.u8, takeWhile_isDigit_toDigits n rest hc, hne, digitsValue_toDigits,
    Bool.false_or, gt_iff_lt, decide_eq_true_eq, if_neg (Nat.not_lt.mpr hn), List.drop_left]

theorem toDigits_head_ne_sign (n : Nat) :
    ∃ d ds, Nat.toDigits 10 n = d :: ds ∧ d ≠ '-' ∧ d ≠ '+' := by
  obtain ⟨d, ds, hd⟩ := List.exists_cons_of_ne_nil (@Nat.toDigits_ne_nil n 10)
  have hdig : d.isDigit = true :=
    Nat.isDigit_of_mem_toDigits (by decide) (Nat.le_refl 10) (hd ▸ List.mem_cons_self)
  refine ⟨d, ds, hd, ?_, ?_⟩ <;> rintro rfl <;> simp at hdig

/-- `i8` reads back what `Enum8`'s `Display` prints for a value, `i8`'s own `Display`. -/
theorem i8_toString {v : Int8} {c : Char} (rest : List Char) (hc : c.isDigit = false) :
    i8 ((toString v.toInt).toList ++ c :: rest) = some (v, c :: rest) := by
  have hlo := Int8.le_toInt v
  have hhi := Int8.toInt_lt v
  have hv := Int8.ofInt_toInt v
  unfold i8
  split
  rename_i negative afterSign hsign
  rcases h : v.toInt with m | m
  · -- a natural number prints as its digits, with no sign
    obtain ⟨d, ds, hd, hminus, hplus⟩ := toDigits_head_ne_sign m
    have hs : (toString v.toInt).toList ++ c :: rest = d :: (ds ++ c :: rest) := by
      rw [h, show (toString (Int.ofNat m)).toList = Nat.toDigits 10 m from Nat.toList_repr, hd,
        List.cons_append]
    rw [hs] at hsign
    split at hsign
    · simp_all
    · simp_all
    · simp only [Prod.mk.injEq] at hsign
      obtain ⟨rfl, rfl⟩ := hsign
      rw [← List.cons_append, ← hd, takeWhile_isDigit_toDigits m rest hc]
      dsimp only
      rw [digitsValue_toDigits]
      rw [h, Int.ofNat_eq_natCast] at hhi hv
      have hm : ¬ m > 127 := by omega
      simp [hm, Nat.toDigits_ne_nil, hv]
  · -- a negative number prints as `-` and the digits of its absolute value
    have hs : (toString v.toInt).toList ++ c :: rest =
        '-' :: (Nat.toDigits 10 (m + 1) ++ c :: rest) := by
      rw [h]
      show ("-" ++ Nat.repr (m + 1)).toList ++ c :: rest = _
      rw [String.toList_append, Nat.toList_repr]
      rfl
    rw [hs] at hsign
    simp only [Prod.mk.injEq] at hsign
    obtain ⟨rfl, rfl⟩ := hsign
    rw [takeWhile_isDigit_toDigits (m + 1) rest hc]
    dsimp only
    rw [digitsValue_toDigits]
    rw [h] at hlo hv
    have hm : ¬ m + 1 > 128 := by omega
    simp [hm, Nat.toDigits_ne_nil, ← hv, Int.negSucc_eq]

end Nom

/-! ## 3. Time zones and the date parsers -/

namespace Env

variable (env : Env)

/-- A zone name `quoted_timezone` reads back as itself: one `chrono_tz` knows, and a non-empty
    run of the characters it takes. -/
def zoneName (tz : String) : Bool :=
  env.isZone tz && !tz.toList.isEmpty && tz.toList.all isZoneChar

theorem quotedTimezone_apply {tz : String} (hz : env.zoneName tz = true) (rest : List Char) :
    env.quotedTimezone ('\'' :: (tz.toList ++ '\'' :: rest)) = some (tz, rest) := by
  simp only [zoneName, Bool.and_eq_true, Bool.not_eq_true', List.isEmpty_eq_false_iff,
    List.all_eq_true] at hz
  obtain ⟨⟨hknown, hne⟩, hchars⟩ := hz
  have htake := Nom.takeWhile1_append (c := '\'') rest hne hchars rfl
  simp [quotedTimezone, Nom.bind_apply, Nom.map_apply, Nom.tag_apply, Nom.opt, htake,
    parseTimezone, hknown]

theorem parenthesizedTimezone_apply {tz : String} (hz : env.zoneName tz = true)
    (rest : List Char) :
    env.parenthesizedTimezone ('(' :: '\'' :: (tz.toList ++ '\'' :: ')' :: rest)) =
      some (tz, rest) := by
  simp [parenthesizedTimezone, Nom.bind_apply, Nom.map_apply, Nom.tag_apply,
    quotedTimezone_apply env hz]

/-- The text of a `DateTime`, around its zone. -/
theorem text_dateTime_toList (tz : String) (rest : List Char) :
    (DataType.dateTime tz).text.toList ++ rest =
      "DateTime".toList ++ '(' :: '\'' :: (tz.toList ++ '\'' :: ')' :: rest) := by
  simp [DataType.text_dateTime]

/-- The text of a `DateTime64`, around its precision and its zone. -/
theorem text_dateTime64_toList (precision : Precision) (tz : String) (rest : List Char) :
    (DataType.dateTime64 precision tz).text.toList ++ rest =
      "DateTime64(".toList ++ (Nat.toDigits 10 precision.val ++
        ',' :: ' ' :: '\'' :: (tz.toList ++ '\'' :: ')' :: rest)) := by
  simp [DataType.text_dateTime64, Nat.toList_repr]

/-- `datetime` reads a `DateTime`'s text, and then wants the end of the input. -/
theorem datetime_text_append {tz : String} (hz : env.zoneName tz = true) (rest : List Char) :
    env.datetime ((DataType.dateTime tz).text.toList ++ rest) =
      (Nom.eof rest).map fun p => (.dateTime tz, p.2) := by
  rw [text_dateTime_toList]
  simp only [datetime, Nom.bind_apply, Nom.tag_append, Option.bind_some,
    Nom.opt_of_some (parenthesizedTimezone_apply env hz rest), Option.getD_some]
  cases Nom.eof rest <;> rfl

/-- `datetime` takes a `DateTime64`'s text for a `DateTime` without a zone, and then fails at the
    `64` where it wants the end of the input. -/
theorem datetime_text_dateTime64 (precision : Precision) (tz : String) (rest : List Char) :
    env.datetime ((DataType.dateTime64 precision tz).text.toList ++ rest) = none := by
  rw [text_dateTime64_toList]
  simp [datetime, parenthesizedTimezone, Nom.bind_apply, Nom.map_apply, Nom.tag_apply, Nom.opt,
    Nom.eof_cons]

/-- `datetime64` reads a `DateTime64`'s text, and then wants the end of the input. -/
theorem datetime64_text_append (precision : Precision) {tz : String}
    (hz : env.zoneName tz = true) (rest : List Char) :
    env.datetime64 ((DataType.dateTime64 precision tz).text.toList ++ rest) =
      (Nom.eof rest).map fun p => (.dateTime64 precision tz, p.2) := by
  have hp := precision.isLt
  have hu8 := Nom.u8_toDigits (n := precision.val) (c := ',') (' ' :: '\'' :: (tz.toList ++ '\'' :: ')' :: rest))
    (by omega) rfl
  have hval : (precision.val.toUInt8).toNat = precision.val := by
    simp only [Nat.toUInt8_eq, UInt8.toNat_ofNat']
    omega
  rw [text_dateTime64_toList]
  simp [datetime64, Nom.bind_apply, hu8, hval, Nom.pure_apply, Nom.opt,
    quotedTimezone_apply env hz, Nom.tag_apply, Nom.map_apply]

end Env

/-! ## 4. `Enum8` variants -/

/-- A variant name `variant_name` reads back: a non-empty run of ASCII letters and digits. -/
def variantNamed (name : String) : Bool := !name.toList.isEmpty && name.toList.all Char.isAlphanum

/-- What `Enum8`'s `Display` prints for one variant. -/
def variantText (v : Int8 × String) : String := "'" ++ v.2 ++ "' = " ++ toString v.1.toInt

theorem text_enum8 (variants : List (Int8 × String)) :
    (DataType.enum8 variants).text = "Enum8(" ++ ", ".intercalate (variants.map variantText) ++ ")" :=
  rfl

/-- `enum_variant` reads a variant back, up to a character that is not a digit. -/
theorem enumVariant_apply {v : Int8 × String} (hv : variantNamed v.2 = true) {c : Char}
    (rest : List Char) (hc : c.isDigit = false) :
    enumVariant ((variantText v).toList ++ c :: rest) = some (v, c :: rest) := by
  simp only [variantNamed, Bool.and_eq_true, Bool.not_eq_true', List.isEmpty_eq_false_iff,
    List.all_eq_true] at hv
  obtain ⟨hne, hchars⟩ := hv
  have htake := Nom.takeWhile1_append (c := '\'')
    (' ' :: '=' :: ' ' :: ((toString v.1.toInt).toList ++ c :: rest)) hne hchars rfl
  have hi8 := Nom.i8_toString (v := v.1) rest hc
  simp only [toString] at htake hi8
  simp [variantText, enumVariant, variantName, Nom.bind_apply, Nom.map_apply, Nom.tag_apply,
    Nom.opt, htake, hi8]

/-- The separators and variants after the first, as `separated_list1` meets them. -/
theorem toList_intercalate_cons (sep v : String) (ws : List String) :
    (sep.intercalate (v :: ws)).toList = v.toList ++ ws.flatMap fun w => sep.toList ++ w.toList := by
  induction ws generalizing v with
  | nil => simp [String.intercalate_singleton]
  | cons w ws ih => rw [String.intercalate_cons_cons, String.toList_append, String.toList_append, ih]; simp

/-- What follows a variant starts with `,` (another variant) or `)` (the end of the list). -/
theorem variants_append_close_eq_cons (ws : List (Int8 × String)) (rest : List Char) :
    ∃ c rest', (ws.flatMap fun w => ", ".toList ++ (variantText w).toList) ++ ')' :: rest =
      c :: rest' ∧ c.isDigit = false := by
  cases ws with
  | nil => exact ⟨')', rest, rfl, rfl⟩
  | cons w ws =>
    refine ⟨',', ' ' :: ((variantText w).toList ++
      ((ws.flatMap fun w => ", ".toList ++ (variantText w).toList) ++ ')' :: rest)), ?_, rfl⟩
    simp only [List.flatMap_cons, List.append_assoc, String.reduceToList, List.cons_append,
      List.nil_append]

/-- The loop of `separated_list1` reads the remaining variants, given as much fuel as there are. -/
theorem separatedList1_go_variants (rest : List Char) :
    ∀ (ws : List (Int8 × String)) (fuel : Nat) (a : Int8 × String),
      (∀ w ∈ ws, variantNamed w.2 = true) → ws.length ≤ fuel →
      Nom.separatedList1.go (Nom.tag ", ") enumVariant fuel a
          ((ws.flatMap fun w => ", ".toList ++ (variantText w).toList) ++ ')' :: rest) =
        (a :: ws, ')' :: rest)
  | [], 0, _, _, _ => rfl
  | [], _ + 1, _, _, _ => rfl
  | w :: ws, fuel + 1, a, hnamed, hlen => by
    obtain ⟨c, rest', hcont, hc⟩ := variants_append_close_eq_cons ws rest
    have hw := enumVariant_apply (hnamed w List.mem_cons_self) rest' hc
    have ih := separatedList1_go_variants rest ws fuel w
      (fun x hx => hnamed x (List.mem_cons_of_mem _ hx)) (by simp at hlen; omega)
    rw [← hcont] at hw
    simp only [Nom.separatedList1.go, List.flatMap_cons, List.append_assoc, Nom.tag_append, hw, ih]

/-- `separated_list1` reads back the variants `Display` separates with `, `, up to the `)`. -/
theorem separatedList1_variants {vs : List (Int8 × String)} (hne : vs ≠ [])
    (hnamed : ∀ v ∈ vs, variantNamed v.2 = true) (rest : List Char) :
    Nom.separatedList1 (Nom.tag ", ") enumVariant
        ((", ".intercalate (vs.map variantText)).toList ++ ')' :: rest) = some (vs, ')' :: rest) := by
  obtain ⟨v, ws, rfl⟩ := List.exists_cons_of_ne_nil hne
  obtain ⟨c, rest', hcont, hc⟩ := variants_append_close_eq_cons ws rest
  have hv := enumVariant_apply (hnamed v List.mem_cons_self) rest' hc
  rw [← hcont] at hv
  -- every variant after the first comes with its separator, so the fuel suffices
  have hlen : ∀ ws : List (Int8 × String),
      ws.length ≤ (ws.flatMap fun w => ", ".toList ++ (variantText w).toList).length := by
    intro ws
    induction ws with
    | nil => simp
    | cons w ws ih =>
      have hsep : ", ".toList.length = 2 := by decide
      simp only [List.flatMap_cons, List.length_append, List.length_cons]
      omega
  have hgo := separatedList1_go_variants rest ws
    ((variantText v).toList ++ ((ws.flatMap fun w => ", ".toList ++ (variantText w).toList) ++
      ')' :: rest)).length v (fun w hw => hnamed w (List.mem_cons_of_mem _ hw))
    (by simp only [List.length_append]; have := hlen ws; omega)
  rw [List.map_cons, toList_intercalate_cons, List.flatMap_map, List.append_assoc]
  simp only [Nom.separatedList1, hv, hgo]

theorem IndexMap.insert_of_not_mem {K V : Type} [BEq K] [LawfulBEq K] {map : List (K × V)} {k : K}
    (h : k ∉ map.map Prod.fst) (v : V) : IndexMap.insert map k v = map ++ [(k, v)] := by
  have hany : map.any (·.1 == k) = false := by
    rw [List.any_eq_false]
    intro e he heq
    exact h (List.mem_map.mpr ⟨e, he, beq_iff_eq.mp heq⟩)
  simp only [IndexMap.insert, hany, Bool.false_eq_true, if_false]

/-- Inserting distinct keys into an `IndexMap` appends them in order. -/
theorem foldl_insert_of_nodup {K V : Type} [BEq K] [LawfulBEq K]
    {f : List (K × V) → K × V → List (K × V)} (hf : ∀ map k v, f map (k, v) = IndexMap.insert map k v) :
    ∀ (vs acc : List (K × V)), ((acc ++ vs).map Prod.fst).Nodup → vs.foldl f acc = acc ++ vs
  | [], acc, _ => by rw [List.foldl_nil, List.append_nil]
  | (k, v) :: vs, acc, hnodup => by
    have hk : k ∉ acc.map Prod.fst := by
      simp only [List.map_append, List.map_cons, List.nodup_append, List.nodup_cons] at hnodup
      exact fun hmem => hnodup.2.2 k hmem k List.mem_cons_self rfl
    rw [List.foldl_cons, hf, IndexMap.insert_of_not_mem hk,
      foldl_insert_of_nodup hf vs (acc ++ [(k, v)]) (by simpa using hnodup)]
    simp

/-- An `Enum8`'s variants read back: at least one, distinct values (the keys of an `IndexMap`),
    and names `variant_name` takes. -/
def variantsNamed (variants : List (Int8 × String)) : Bool :=
  !variants.isEmpty && decide (variants.map Prod.fst).Nodup && variants.all (variantNamed ·.2)

/-- `enum8` reads an `Enum8`'s text back, and leaves what follows. -/
theorem enum8_text_append {variants : List (Int8 × String)} (hv : variantsNamed variants = true)
    (rest : List Char) :
    enum8 ((DataType.enum8 variants).text.toList ++ rest) = some (.enum8 variants, rest) := by
  simp only [variantsNamed, Bool.and_eq_true, Bool.not_eq_true', List.isEmpty_eq_false_iff,
    decide_eq_true_eq, List.all_eq_true] at hv
  obtain ⟨⟨hne, hnodup⟩, hnamed⟩ := hv
  have hclose : ")".toList ++ rest = ')' :: rest := by simp
  have hfold := foldl_insert_of_nodup
    (f := fun map (kv : Int8 × String) => IndexMap.insert map kv.1 kv.2)
    (fun _ _ _ => rfl) variants [] (by simpa using hnodup)
  rw [text_enum8, String.toList_append, String.toList_append, List.append_assoc, List.append_assoc,
    hclose]
  simp only [Omicron.Native.enum8, Nom.bind_apply, Nom.tag_append, Option.bind_some]
  rw [separatedList1_variants hne hnamed rest]
  simp only [Option.bind_some]
  rw [← hclose, Nom.tag_append]
  simp only [Option.bind_some, Nom.pure_apply, hfold, List.nil_append]

/-! ## 5. The round trip -/

namespace DataType

/-- `Date`, `DateTime` and `DateTime64`: the leaves whose parsers want the end of the input. -/
def isDateLike : DataType → Bool
  | .date | .dateTime _ | .dateTime64 _ _ => true
  | _ => false

/-- A date-like type below a `Nullable(...)` or an `Array(...)`, at any depth. -/
def hasNestedDate : DataType → Bool
  | .nullable inner | .array inner => inner.isDateLike || inner.hasNestedDate
  | _ => false

/-- The names in a type's text read back: its zones (`Env.zoneName`) and its `Enum8`s' variants
    (`variantsNamed`). -/
def wellNamed (env : Env) : DataType → Bool
  | .dateTime tz | .dateTime64 _ tz => env.zoneName tz
  | .enum8 variants => variantsNamed variants
  | .nullable inner | .array inner => inner.wellNamed env
  | _ => true

variable (env : Env)

/-- **A type with no date in it parses from its text followed by anything, and leaves what
    follows**, given more fuel than the text has characters. -/
theorem nomParseFuel_text_append (t : DataType) :
    t.wellNamed env = true → t.isDateLike = false → t.hasNestedDate = false →
      ∀ (fuel : Nat) (rest : List Char), t.text.length < fuel →
        nomParseFuel env fuel (t.text.toList ++ rest) = some (t, rest) := by
  induction t with
  | date | dateTime _ | dateTime64 _ _ => simp [isDateLike]
  | enum8 variants =>
    intro hn _ _ fuel rest hlen
    cases fuel with
    | zero => exact absurd hlen (Nat.not_lt_zero _)
    | succ fuel =>
      simp only [nomParseFuel, Nom.orElse_apply]
      rw [enum8_text_append hn rest]
      -- every alternative before `enum8` fails on `Enum8(`
      simp [text_enum8, Env.datetime, Env.datetime64]
  | nullable inner ih =>
    intro hn _ hnd fuel rest hlen
    simp only [hasNestedDate, Bool.or_eq_false_iff] at hnd
    cases fuel with
    | zero => exact absurd hlen (Nat.not_lt_zero _)
    | succ fuel =>
      have hinner : inner.text.length < fuel := by
        have h9 : "Nullable(".length = 9 := by decide
        have h1 : ")".length = 1 := by decide
        simp only [text_nullable, String.length_append, h9, h1] at hlen
        omega
      have ih' := ih hn hnd.1 hnd.2 fuel (')' :: rest) hinner
      simp [nomParseFuel, text_nullable, Env.datetime, Env.datetime64, Omicron.Native.enum8, ih']
  | array inner ih =>
    intro hn _ hnd fuel rest hlen
    simp only [hasNestedDate, Bool.or_eq_false_iff] at hnd
    cases fuel with
    | zero => exact absurd hlen (Nat.not_lt_zero _)
    | succ fuel =>
      have hinner : inner.text.length < fuel := by
        have h6 : "Array(".length = 6 := by decide
        have h1 : ")".length = 1 := by decide
        simp only [text_array, String.length_append, h6, h1] at hlen
        omega
      have ih' := ih hn hnd.1 hnd.2 fuel (')' :: rest) hinner
      simp [nomParseFuel, text_array, Env.datetime, Env.datetime64, Omicron.Native.enum8, ih']
  | bool | uInt8 | uInt16 | uInt32 | uInt64 | uInt128 | int8 | int16 | int32 | int64 | int128
  | float32 | float64 | string | uuid | ipv4 | ipv6 =>
    intro _ _ _ fuel rest hlen
    cases fuel with
    | zero => exact absurd hlen (Nat.not_lt_zero _)
    | succ fuel => simp [nomParseFuel, text]

/-- A date at the top parses from its text: the end of the input follows it. -/
theorem nomParseFuel_text_of_isDateLike {t : DataType} (ht : t.isDateLike = true)
    (hn : t.wellNamed env = true) (fuel : Nat) :
    nomParseFuel env (fuel + 1) t.text.toList = some (t, []) := by
  cases t with
  | date => simp [nomParseFuel, text_date]
  | dateTime tz =>
    rw [← List.append_nil (dateTime tz).text.toList]
    simp only [nomParseFuel, Nom.orElse_apply]
    rw [Env.datetime_text_append env hn [], Env.text_dateTime_toList]
    simp
  | dateTime64 precision tz =>
    rw [← List.append_nil (dateTime64 precision tz).text.toList]
    simp only [nomParseFuel, Nom.orElse_apply]
    rw [Env.datetime_text_dateTime64, Env.datetime64_text_append env precision hn [],
      Env.text_dateTime64_toList]
    simp
  | _ => simp [isDateLike] at ht

/-- A date followed by the `)` of a wrapper does not parse: its parser wants the end of the input
    there, and every other alternative fails on a date's text. -/
theorem nomParseFuel_text_append_close_of_isDateLike {t : DataType} (ht : t.isDateLike = true)
    (hn : t.wellNamed env = true) (fuel : Nat) (rest : List Char) :
    nomParseFuel env fuel (t.text.toList ++ ')' :: rest) = none := by
  cases fuel with
  | zero => rfl
  | succ fuel =>
    cases t with
    | date => simp [nomParseFuel, text_date, Env.datetime, Env.datetime64, Omicron.Native.enum8]
    | dateTime tz =>
      simp only [nomParseFuel, Nom.orElse_apply]
      rw [Env.datetime_text_append env hn, Env.text_dateTime_toList]
      simp [Env.datetime64, Omicron.Native.enum8]
    | dateTime64 precision tz =>
      simp only [nomParseFuel, Nom.orElse_apply]
      rw [Env.datetime_text_dateTime64, Env.datetime64_text_append env precision hn,
        Env.text_dateTime64_toList]
      simp [Omicron.Native.enum8]
    | _ => simp [isDateLike] at ht

/-- **A date below a `Nullable(...)` or an `Array(...)` never parses**, whatever follows. -/
theorem nomParseFuel_text_append_of_hasNestedDate (t : DataType) :
    t.wellNamed env = true → t.hasNestedDate = true →
      ∀ (fuel : Nat) (rest : List Char), nomParseFuel env fuel (t.text.toList ++ rest) = none := by
  induction t with
  | nullable inner ih =>
    intro hn hnd fuel rest
    cases fuel with
    | zero => rfl
    | succ fuel =>
      -- what follows the inner type is the wrapper's `)`
      have hinner : nomParseFuel env fuel (inner.text.toList ++ ')' :: rest) = none := by
        simp only [hasNestedDate, Bool.or_eq_true] at hnd
        rcases hnd with hdate | hnested
        · exact nomParseFuel_text_append_close_of_isDateLike env hdate hn fuel rest
        · exact ih hn hnested fuel (')' :: rest)
      simp [nomParseFuel, text_nullable, Env.datetime, Env.datetime64, Omicron.Native.enum8, hinner]
  | array inner ih =>
    intro hn hnd fuel rest
    cases fuel with
    | zero => rfl
    | succ fuel =>
      have hinner : nomParseFuel env fuel (inner.text.toList ++ ')' :: rest) = none := by
        simp only [hasNestedDate, Bool.or_eq_true] at hnd
        rcases hnd with hdate | hnested
        · exact nomParseFuel_text_append_close_of_isDateLike env hdate hn fuel rest
        · exact ih hn hnested fuel (')' :: rest)
      simp [nomParseFuel, text_array, Env.datetime, Env.datetime64, Omicron.Native.enum8, hinner]
  | _ => simp [hasNestedDate]

/-- **Type names round trip**: a type whose names read back and with no date below a wrapper is
    read back from its `Display`. -/
theorem fromStr_text {t : DataType} (hn : t.wellNamed env = true)
    (hnd : t.hasNestedDate = false) : fromStr env t.text = .ok t := by
  have hparse : nomParse env t.text.toList = some (t, []) := by
    unfold nomParse
    cases hd : t.isDateLike
    · have h := nomParseFuel_text_append env t hn hd hnd (t.text.toList.length + 1) []
        (by rw [String.length_toList]; omega)
      rwa [List.append_nil] at h
    · exact nomParseFuel_text_of_isDateLike env hd hn _
  simp only [fromStr, hparse]

/-- A type with a date below a wrapper is refused when its `Display` is read back. -/
theorem fromStr_text_of_hasNestedDate {t : DataType} (hn : t.wellNamed env = true)
    (hnd : t.hasNestedDate = true) : fromStr env t.text = .error (.unsupportedDataType t.text) := by
  have hparse : nomParse env t.text.toList = none := by
    have h := nomParseFuel_text_append_of_hasNestedDate env t hn hnd (t.text.toList.length + 1) []
    rwa [List.append_nil] at h
  simp only [fromStr, hparse]

/-! ## 6. `Nullable(Date)` -/

theorem fromStr_nullable_date_fails :
    (nullable date).isSupported = true ∧ (nullable date).text = "Nullable(Date)" ∧
      fromStr env (nullable date).text = .error (.unsupportedDataType (nullable date).text) :=
  ⟨rfl, by decide, fromStr_text_of_hasNestedDate env rfl rfl⟩

end DataType

end Omicron.Native
