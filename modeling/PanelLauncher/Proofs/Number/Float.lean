import PanelLauncher.Proofs.Number.Shortest
import PanelLauncher.Proofs.Number.Text

/-!
# Reading the text of a float

The text of a float is read as that float (`Literal.readFloat?_text`): whatever the layout, the
digits denote the number that they were written for. And it is read as nothing else, for behind a
digit it has a point or an exponent (`Literal.HasMark`), which no integer and no code of digits has.
-/

namespace PanelLauncher.Literal

open Decimal (digitChars)

variable {cs whole fraction rest : List Char} {n : Nat} {c : Char} {d : Decimal}

/-! ## Zeros around digits -/

theorem Numeral.zero_cons (h : Numeral 10 cs n) : Numeral 10 ('0' :: cs) n := by
  obtain ⟨-, ds, hds, rfl⟩ := h
  refine ⟨List.cons_ne_nil _ _, 0 :: ds, .cons ⟨by decide, .inl rfl⟩ hds, ?_⟩
  rw [List.reverse_cons, Nat.ofDigits_append, Nat.ofDigits_singleton, Nat.mul_zero, Nat.add_zero]

theorem Numeral.zeros_append (h : Numeral 10 cs n) (k : Nat) :
    Numeral 10 (List.replicate k '0' ++ cs) n := by
  induction k with
  | zero => exact h
  | succ k ih => exact ih.zero_cons

theorem Numeral.append_zero (h : Numeral 10 cs n) : Numeral 10 (cs ++ ['0']) (n * 10) := by
  obtain ⟨-, ds, hds, rfl⟩ := h
  refine ⟨by simp, ds ++ [0], List.rel_append hds (.cons ⟨by decide, .inl rfl⟩ .nil), ?_⟩
  rw [List.reverse_append, List.reverse_singleton, List.singleton_append, Nat.ofDigits_cons,
    Nat.zero_add, Nat.mul_comm]

theorem Numeral.append_zeros (h : Numeral 10 cs n) (k : Nat) :
    Numeral 10 (cs ++ List.replicate k '0') (n * 10 ^ k) := by
  induction k with
  | zero => simpa using h
  | succ k ih =>
    rw [List.replicate_succ', ← List.append_assoc, Nat.pow_succ, ← Nat.mul_assoc]
    exact ih.append_zero

/-! ## Decimals -/

/-- What ends the digits before it: nothing, or the mark of an exponent. -/
def EndsDigits (rest : List Char) : Prop :=
  ∀ c ∈ rest.head?, c = 'e'

theorem leadingDigits_append (h : ∀ c ∈ whole, c.isDigit = true)
    (hrest : ∀ c ∈ rest.head?, c.isDigit = false) :
    leadingDigits (whole ++ rest) = whole ∧ afterDigits (whole ++ rest) = rest := by
  have hwhole : ∀ c ∈ whole, (Char.isDigit c : Prop) := h
  unfold leadingDigits afterDigits
  rw [List.takeWhile_append_of_pos hwhole, List.dropWhile_append_of_pos hwhole]
  cases rest with
  | nil => simp
  | cons c cs =>
    have hc : c.isDigit = false := hrest c rfl
    simp [hc]

theorem EndsDigits.isDigit (h : EndsDigits rest) : ∀ c ∈ rest.head?, c.isDigit = false := by
  intro c hc
  rw [h c hc]
  rfl

theorem readDecimal?_point (hwhole : ∀ c ∈ whole, c.isDigit = true)
    (hfraction : ∀ c ∈ fraction, c.isDigit = true) (hrest : EndsDigits rest)
    (hdigits : Numeral 10 (whole ++ fraction) n) {exponent : Int}
    (hexponent : readExponent? rest = some exponent) :
    readDecimal? (whole ++ '.' :: (fraction ++ rest)) = some ⟨n, exponent - fraction.length⟩ := by
  have hread : readNat? 10 (whole ++ fraction) = some n :=
    (readNat?_eq_some (by decide)).mpr hdigits
  have hpoint : ∀ c ∈ ('.' :: (fraction ++ rest)).head?, c.isDigit = false := by
    rintro _ ⟨⟩
    rfl
  obtain ⟨hleading, hafter⟩ := leadingDigits_append hwhole hpoint
  obtain ⟨hleading', hafter'⟩ := leadingDigits_append hfraction hrest.isDigit
  simp only [readDecimal?, hleading, hafter, hleading', hafter', hread, hexponent, Option.bind_some,
    Option.map_some]

theorem readDecimal?_whole (hwhole : ∀ c ∈ whole, c.isDigit = true) (hrest : EndsDigits rest)
    (hdigits : Numeral 10 whole n) {exponent : Int}
    (hexponent : readExponent? rest = some exponent) :
    readDecimal? (whole ++ rest) = some ⟨n, exponent⟩ := by
  have hread : readNat? 10 whole = some n := (readNat?_eq_some (by decide)).mpr hdigits
  obtain ⟨hleading, hafter⟩ := leadingDigits_append hwhole hrest.isDigit
  unfold readDecimal?
  dsimp only
  rw [hleading, hafter]
  split
  · exact absurd (hrest '.' rfl) (by decide)
  · simp [hread, hexponent]

/-! ## Signs -/

theorem splitSign_of_head? (h : ∀ c ∈ cs.head?, c ≠ '-' ∧ c ≠ '+') :
    splitSign cs = (false, cs) := by
  unfold splitSign
  split
  · exact absurd rfl (h '-' rfl).1
  · exact absurd rfl (h '+' rfl).2
  · rfl

theorem splitSign_sign (negative : Bool) (h : ∀ c ∈ cs.head?, c ≠ '-' ∧ c ≠ '+') :
    splitSign (Binary64.sign negative ++ cs) = (negative, cs) := by
  cases negative with
  | true => rfl
  | false => exact splitSign_of_head? h

theorem ne_sign_of_isDigit (h : c.isDigit = true) : c ≠ '-' ∧ c ≠ '+' := by
  constructor
  · rintro rfl
    cases h
  · rintro rfl
    cases h

theorem readExponent?_toString (n : Int) : readExponent? ('e' :: (toString n).toList) = some n := by
  have hsplit : splitSign (toString n).toList = (decide (n < 0), digitChars n.natAbs) := by
    rw [← integerText_eq]
    exact splitSign_sign _ fun c hc =>
      ne_sign_of_isDigit (Decimal.isDigit_of_mem_digitChars (List.mem_of_mem_head? hc))
  have hread : readNat? 10 (digitChars n.natAbs) = some n.natAbs :=
    (readNat?_eq_some (by decide)).mpr (numeral_toDigits n.natAbs)
  have hsign : (if decide (n < 0) then -(n.natAbs : Int) else n.natAbs) = n := by
    simp only [decide_eq_true_eq]
    split <;> omega
  unfold readExponent?
  dsimp only
  rw [if_pos (.inl rfl), hsplit]
  dsimp only
  rw [hread]
  exact congrArg some hsign

/-! ## Layouts -/

theorem readDecimal?_positional (d : Decimal) :
    ∃ e, readDecimal? d.positional = some e ∧ e.units = d.units := by
  have hnumeral : Numeral 10 (digitChars d.digits) d.digits := numeral_toDigits d.digits
  have hdigit : ∀ c ∈ digitChars d.digits, c.isDigit = true :=
    fun _ => Decimal.isDigit_of_mem_digitChars
  have hpoint : d.point = (digitChars d.digits).length + d.exponent := rfl
  have hends : EndsDigits [] := fun _ hc => by cases hc
  unfold Decimal.positional
  dsimp only
  split
  · next hlong =>
    obtain ⟨k, hk⟩ : ∃ k : Nat, d.exponent = k := ⟨d.exponent.toNat, by omega⟩
    have hzeros : d.point.toNat - (digitChars d.digits).length = k := by omega
    rw [hzeros]
    have hwhole : ∀ c ∈ digitChars d.digits ++ List.replicate k '0', c.isDigit = true := by
      intro c hc
      rcases List.mem_append.mp hc with hc | hc
      · exact hdigit c hc
      · exact Decimal.isDigit_of_mem_zeros hc
    have hzero : ∀ c ∈ ['0'], c.isDigit = true := by simp
    have hread := readDecimal?_point hwhole hzero hends (hnumeral.append_zeros k).append_zero rfl
    rw [List.append_nil] at hread
    refine ⟨_, hread, ?_⟩
    -- the point is behind the last digit, and so a zero stands behind it
    have hexponent : (0 - (['0'].length : Int)) + (k + 1 : Nat) = d.exponent := by
      rw [hk, List.length_singleton]
      omega
    rw [Nat.mul_assoc, ← Nat.pow_succ, Decimal.units_mul_pow, hexponent]
  · next hshort =>
    split
    · next hpos =>
      obtain ⟨k, hk⟩ : ∃ k : Nat, d.point = k := ⟨d.point.toNat, by omega⟩
      rw [hk, Int.toNat_natCast]
      have hwhole : ∀ c ∈ (digitChars d.digits).take k, c.isDigit = true :=
        fun c hc => hdigit c (List.mem_of_mem_take hc)
      have hfraction : ∀ c ∈ (digitChars d.digits).drop k, c.isDigit = true :=
        fun c hc => hdigit c (List.mem_of_mem_drop hc)
      rw [← List.take_append_drop k (digitChars d.digits)] at hnumeral
      have hread := readDecimal?_point hwhole hfraction hends hnumeral rfl
      rw [List.append_nil] at hread
      refine ⟨_, hread, ?_⟩
      have hexponent : (0 - ((digitChars d.digits).drop k).length : Int) = d.exponent := by
        rw [List.length_drop]
        omega
      rw [hexponent]
    · next hneg =>
      obtain ⟨k, hk⟩ : ∃ k : Nat, -d.point = k := ⟨(-d.point).toNat, by omega⟩
      rw [hk, Int.toNat_natCast]
      have hfraction : ∀ c ∈ List.replicate k '0' ++ digitChars d.digits, c.isDigit = true := by
        intro c hc
        rcases List.mem_append.mp hc with hc | hc
        · exact Decimal.isDigit_of_mem_zeros hc
        · exact hdigit c hc
      have hzero : ∀ c ∈ ['0'], c.isDigit = true := by simp
      have hread := readDecimal?_point hzero hfraction hends (hnumeral.zeros_append k).zero_cons rfl
      rw [List.append_nil] at hread
      refine ⟨_, hread, ?_⟩
      have hexponent : (0 - (List.replicate k '0' ++ digitChars d.digits).length : Int) =
          d.exponent := by
        rw [List.length_append, List.length_replicate]
        omega
      rw [hexponent]

theorem readDecimal?_scientific (d : Decimal) : readDecimal? d.scientific = some d := by
  have hnumeral : Numeral 10 (digitChars d.digits) d.digits := numeral_toDigits d.digits
  have hdigit : ∀ c ∈ digitChars d.digits, c.isDigit = true :=
    fun _ => Decimal.isDigit_of_mem_digitChars
  have hpoint : d.point = (digitChars d.digits).length + d.exponent := rfl
  have hends : EndsDigits ('e' :: (toString (d.point - 1)).toList) := by
    rintro _ ⟨⟩
    rfl
  have hexponent := readExponent?_toString (d.point - 1)
  unfold Decimal.scientific
  split
  · next hnil => exact absurd hnil Nat.toDigits_ne_nil
  · next digit hdigits =>
    rw [hdigits] at hnumeral hdigit hpoint
    have hread := readDecimal?_whole hdigit hends hnumeral hexponent
    have hlast : d.point - 1 = d.exponent := by
      rw [hpoint, List.length_singleton]
      omega
    rw [hlast] at hread ⊢
    exact hread
  · next digit digits _ hdigits =>
    rw [hdigits] at hnumeral hdigit hpoint
    have hfirst : ∀ c ∈ [digit], c.isDigit = true := by
      rintro _ (_ | ⟨_, ⟨⟩⟩)
      exact hdigit digit List.mem_cons_self
    have hothers : ∀ c ∈ digits, c.isDigit = true :=
      fun c hc => hdigit c (List.mem_cons_of_mem _ hc)
    have hread := readDecimal?_point hfirst hothers hends hnumeral hexponent
    have hlast : d.point - 1 - digits.length = d.exponent := by
      rw [hpoint, List.length_cons]
      omega
    rw [hlast] at hread
    exact hread

/-! ## Marks of a float -/

/-- A digit in front, and a point or the mark of an exponent behind it. -/
structure HasMark (cs : List Char) : Prop where
  head : ∃ c, cs.head? = some c ∧ c.isDigit = true
  chars : ∀ c ∈ cs, c.isDigit = true ∨ c = '.' ∨ c = 'e' ∨ c = '-'
  mark : ∃ c ∈ cs, c.isDigit = false

theorem hasMark_positional (d : Decimal) : HasMark d.positional where
  head := by
    obtain ⟨digit, digits, hdigits⟩ : ∃ digit digits, digitChars d.digits = digit :: digits :=
      List.exists_cons_of_ne_nil Nat.toDigits_ne_nil
    have hdigit : digit.isDigit = true :=
      Decimal.isDigit_of_mem_digitChars (n := d.digits) (by simp [hdigits])
    unfold Decimal.positional
    dsimp only
    split
    · rw [hdigits]
      exact ⟨digit, rfl, hdigit⟩
    · split
      · next hpos =>
        obtain ⟨k, hk⟩ : ∃ k, d.point.toNat = k + 1 := ⟨d.point.toNat - 1, by omega⟩
        rw [hdigits, hk]
        exact ⟨digit, rfl, hdigit⟩
      · exact ⟨'0', rfl, rfl⟩
  chars c hc := (Decimal.mem_positional hc).imp_right .inl
  mark := by
    refine ⟨'.', ?_, rfl⟩
    unfold Decimal.positional
    dsimp only
    split
    · simp
    · split <;> simp

theorem hasMark_scientific (d : Decimal) : HasMark d.scientific where
  head := by
    have hdigit {c : Char} (hc : c ∈ digitChars d.digits) : c.isDigit = true :=
      Decimal.isDigit_of_mem_digitChars hc
    unfold Decimal.scientific
    split
    · next hnil => exact absurd hnil Nat.toDigits_ne_nil
    · next digit hdigits => exact ⟨digit, rfl, hdigit (by simp [hdigits])⟩
    · next digit digits _ hdigits => exact ⟨digit, rfl, hdigit (by simp [hdigits])⟩
  chars c hc := Decimal.mem_scientific hc
  mark := by
    refine ⟨'e', ?_, rfl⟩
    unfold Decimal.scientific
    split
    · next hnil => exact absurd hnil Nat.toDigits_ne_nil
    · simp
    · simp

namespace HasMark

theorem not_isDigit (h : HasMark cs) : ¬ ∀ c ∈ cs, c.isDigit = true := by
  intro hdigit
  obtain ⟨c, hc, hmark⟩ := h.mark
  rw [hdigit c hc] at hmark
  cases hmark

theorem hasLeadingZero (h : HasMark cs) : hasLeadingZero cs = false := by
  rw [← Bool.not_eq_true, hasLeadingZero_eq_true]
  exact fun hzero => h.not_isDigit hzero.2.2

/-- No integer has a mark, and no mark of a radix is one. -/
theorem readUnsigned? (h : HasMark cs) : readUnsigned? cs = none := by
  cases hread : Literal.readUnsigned? cs with
  | none => rfl
  | some n =>
    have hradix (c : Char) (hc : c ∈ ['x', 'o', 'b']) : c ∉ cs := by
      intro hmem
      have := h.chars c hmem
      simp only [List.mem_cons, List.not_mem_nil, or_false] at hc
      rcases hc with rfl | rfl | rfl <;> simp at this
    cases Unsigned.of_readUnsigned? hread with
    | decimal hnumeral _ =>
      obtain ⟨-, ds, hds, -⟩ := hnumeral
      exact absurd (isDigit_of_forall₂ hds) h.not_isDigit
    | hexadecimal _ => exact absurd (by simp) (hradix 'x' (by simp))
    | octal _ => exact absurd (by simp) (hradix 'o' (by simp))
    | binary _ => exact absurd (by simp) (hradix 'b' (by simp))

theorem splitSign (h : HasMark cs) (negative : Bool) :
    splitSign (Binary64.sign negative ++ cs) = (negative, cs) := by
  refine splitSign_sign negative fun c hc => ?_
  obtain ⟨digit, hhead, hdigit⟩ := h.head
  cases hhead.symm.trans hc
  exact ne_sign_of_isDigit hdigit

/-- Nothing that begins in another way has a mark. -/
theorem not_mem (h : HasMark cs) (negative : Bool) {words : List (List Char)}
    (hwords : ∀ word ∈ words, word.head?.any (fun c => c.isDigit || c == '-') = false) :
    Binary64.sign negative ++ cs ∉ words := by
  intro hmem
  have hhead :
      (Binary64.sign negative ++ cs).head?.any (fun c => c.isDigit || c == '-') = true := by
    obtain ⟨digit, hhead, hdigit⟩ := h.head
    cases negative with
    | true => rfl
    | false =>
      show cs.head?.any _ = true
      rw [hhead, Option.any_some, hdigit, Bool.true_or]
  rw [hwords _ hmem] at hhead
  cases hhead

/-- What has a mark is read as the magnitude that its digits denote. -/
theorem readFloat? (h : HasMark cs) (negative : Bool) :
    readFloat? (Binary64.sign negative ++ cs) =
      ((readDecimal? cs).bind Decimal.magnitude?).map (.finite negative) := by
  have hinfinite : ¬ [".inf".toList, ".Inf".toList, ".INF".toList].contains cs = true := by
    rw [List.contains_iff_mem]
    exact h.not_mem false (by decide)
  have hnan : ¬ [".nan".toList, ".NaN".toList, ".NAN".toList].contains
      (Binary64.sign negative ++ cs) = true := by
    rw [List.contains_iff_mem]
    exact h.not_mem negative (by decide)
  unfold Literal.readFloat? readFinite?
  simp only [h.splitSign, if_neg hinfinite, if_neg hnan]

end HasMark

/-! ## The texts of floats -/

/-- The digits of a finite float in either layout. -/
theorem readDecimal?_layout (format : FloatFormat) (d : Decimal) :
    let cs := if format.isPositional d.point then d.positional else d.scientific
    HasMark cs ∧ ∃ e, readDecimal? cs = some e ∧ e.units = d.units := by
  dsimp only
  split
  · exact ⟨hasMark_positional d, readDecimal?_positional d⟩
  · exact ⟨hasMark_scientific d, d, readDecimal?_scientific d, rfl⟩

/-- A finite float is written as its sign and a text with a mark, which is read as it. -/
theorem exists_text_finite (format : FloatFormat) (negative : Bool) (x : Magnitude) :
    ∃ cs d, (Binary64.finite negative x).text format = Binary64.sign negative ++ cs ∧ HasMark cs ∧
      readDecimal? cs = some d ∧ d.units = x.shortest.units ∧ d.magnitude? = some x := by
  obtain ⟨hmark, d, hread, hunits⟩ := readDecimal?_layout format x.shortest
  refine ⟨_, d, rfl, hmark, hread, hunits, ?_⟩
  rw [Decimal.magnitude?_congr hunits, (Magnitude.isShortest_shortest x).reads]

/-- The text of a float is read as that float. -/
theorem readFloat?_text (x : Binary64) :
    Literal.readFloat? (x.text Number.configFormat) = some x := by
  cases x with
  | nan => rfl
  | infinite negative => cases negative <;> rfl
  | finite negative x =>
    obtain ⟨cs, d, htext, hmark, hread, -, hmagnitude⟩ :=
      exists_text_finite Number.configFormat negative x
    rw [htext, hmark.readFloat?, hread, Option.bind_some, hmagnitude, Option.map_some]

end PanelLauncher.Literal
