import PanelLauncher.Proofs.Number.Integer

/-!
# The characters of number texts

The text of a float with digits has no characters but digits, a point, the mark of an exponent and
signs. With the words for the other floats, the text of any number has letters, digits, points and
hyphens only (`Number.mem_text`).
-/

namespace PanelLauncher

variable {c : Char}

theorem Binary64.mem_sign {negative : Bool} (h : c ∈ sign negative) : c = '-' := by
  cases negative with
  | false => cases h
  | true => exact List.mem_singleton.mp h

namespace Decimal

theorem isDigit_of_mem_digitChars {n : Nat} (h : c ∈ digitChars n) : c.isDigit = true :=
  Nat.isDigit_of_mem_toDigits (by decide) (by decide) h

theorem isDigit_of_mem_zeros {n : Nat} (h : c ∈ List.replicate n '0') : c.isDigit = true := by
  rw [List.eq_of_mem_replicate h]
  rfl

theorem mem_positional {d : Decimal} (h : c ∈ d.positional) : c.isDigit = true ∨ c = '.' := by
  have hdigit (hc : c ∈ digitChars d.digits) : c.isDigit = true := isDigit_of_mem_digitChars hc
  unfold positional at h
  dsimp only at h
  split at h
  · simp only [List.mem_append, List.mem_cons, List.not_mem_nil, or_false] at h
    rcases h with (hc | hc) | rfl | rfl
    · exact .inl (hdigit hc)
    · exact .inl (isDigit_of_mem_zeros hc)
    · exact .inr rfl
    · exact .inl rfl
  · split at h
    · rcases List.mem_append.mp h with hc | hc
      · exact .inl (hdigit (List.mem_of_mem_take hc))
      · rcases List.mem_cons.mp hc with rfl | hc
        · exact .inr rfl
        · exact .inl (hdigit (List.mem_of_mem_drop hc))
    · simp only [List.cons_append, List.mem_append, List.mem_cons] at h
      rcases h with rfl | rfl | hc | hc
      · exact .inl rfl
      · exact .inr rfl
      · exact .inl (isDigit_of_mem_zeros hc)
      · exact .inl (hdigit hc)

theorem mem_integerText {n : Int} (h : c ∈ Number.integerText n) : c.isDigit = true ∨ c = '-' := by
  rcases List.mem_append.mp h with hc | hc
  · exact .inr (Binary64.mem_sign hc)
  · exact .inl (isDigit_of_mem_digitChars hc)

theorem mem_scientific {d : Decimal} (h : c ∈ d.scientific) :
    c.isDigit = true ∨ c = '.' ∨ c = 'e' ∨ c = '-' := by
  have hexponent (hc : c ∈ (toString (d.point - 1)).toList) : c.isDigit = true ∨ c = '-' := by
    rw [← Literal.integerText_eq] at hc
    exact mem_integerText hc
  have hdigit (hc : c ∈ digitChars d.digits) : c.isDigit = true := isDigit_of_mem_digitChars hc
  unfold scientific at h
  split at h
  · cases h
  · next digit hdigits =>
    simp only [List.mem_cons] at h
    rw [hdigits, List.mem_singleton] at hdigit
    rcases h with hc | rfl | hc
    · exact .inl (hdigit hc)
    · simp
    · rcases hexponent hc with hc | rfl <;> simp [*]
  · next digit digits hdigits =>
    simp only [List.cons_append, List.mem_append, List.mem_cons] at h
    rw [hdigits, List.mem_cons] at hdigit
    rcases h with hc | rfl | hc | rfl | hc
    · exact .inl (hdigit (.inl hc))
    · simp
    · exact .inl (hdigit (.inr hc))
    · simp
    · rcases hexponent hc with hc | rfl <;> simp [*]

end Decimal

theorem Number.mem_text {n : Number} (h : c ∈ n.text) :
    c.isAlphanum = true ∨ c = '.' ∨ c = '-' := by
  have hdigit (hc : c.isDigit = true) : c.isAlphanum = true := by simp [Char.isAlphanum, hc]
  have hpoint (hc : (c.isAlphanum || c == '.') = true) :
      c.isAlphanum = true ∨ c = '.' ∨ c = '-' := by
    rw [Bool.or_eq_true, beq_iff_eq] at hc
    exact hc.imp_right .inl
  cases n with
  | int value =>
    rcases Decimal.mem_integerText h with hc | rfl
    · exact .inl (hdigit hc)
    · exact .inr (.inr rfl)
  | float value =>
    cases value with
    | nan =>
      have hall : configFormat.nan.all (fun c => c.isAlphanum || c == '.') = true := rfl
      exact hpoint (List.all_eq_true.mp hall c h)
    | infinite negative =>
      have hall : configFormat.infinity.all (fun c => c.isAlphanum || c == '.') = true := rfl
      rcases List.mem_append.mp h with hc | hc
      · exact .inr (.inr (Binary64.mem_sign hc))
      · exact hpoint (List.all_eq_true.mp hall c hc)
    | finite negative magnitude =>
      rcases List.mem_append.mp h with hc | hc
      · exact .inr (.inr (Binary64.mem_sign hc))
      · split at hc
        · rcases Decimal.mem_positional hc with hc | rfl
          · exact .inl (hdigit hc)
          · exact .inr (.inl rfl)
        · rcases Decimal.mem_scientific hc with hc | rfl | rfl | rfl
          · exact .inl (hdigit hc)
          · exact .inr (.inl rfl)
          · exact .inl rfl
          · exact .inr (.inr rfl)

end PanelLauncher
