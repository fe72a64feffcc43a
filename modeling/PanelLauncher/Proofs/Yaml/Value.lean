import Mathlib.Tactic.NormNum
import PanelLauncher.Proofs.Number.Integer
import PanelLauncher.Yaml.Value

/-!
# Integers among plain scalars

An integer literal stands for its number if 64 bits hold it. One that only 128 bits hold stands for
an integer that nothing takes, and a longer one for no integer at all. Decimal digits with a
superfluous zero in front stand for themselves.
-/

namespace PanelLauncher.Yaml.Value

open Literal (hasLeadingZero splitSign)

/-- 64 bits hold the integer, with a sign or without. -/
def Fits64 (n : Int) : Prop := -2 ^ 63 ≤ n ∧ n < 2 ^ 64

/-- 128 bits hold the integer, with a sign or without. -/
def Fits128 (n : Int) : Prop := -2 ^ 127 ≤ n ∧ n < 2 ^ 128

instance (n : Int) : Decidable (Fits64 n) :=
  inferInstanceAs (Decidable (-2 ^ 63 ≤ n ∧ n < 2 ^ 64))

instance (n : Int) : Decidable (Fits128 n) :=
  inferInstanceAs (Decidable (-2 ^ 127 ≤ n ∧ n < 2 ^ 128))

/-- An integer literal that 128 bits hold, but not 64. -/
def InGap (s : String) : Prop := ∃ n, Literal.Integer s.toList n ∧ Fits128 n ∧ ¬ Fits64 n

variable {s : String} {n : Int}

theorem fits64_iff : Fits64 n ↔ -9223372036854775808 ≤ n ∧ n < 18446744073709551616 := by
  norm_num [Fits64]

theorem fits128_iff : Fits128 n ↔ -170141183460469231731687303715884105728 ≤ n ∧
    n < 340282366920938463463374607431768211456 := by
  norm_num [Fits128]

theorem ofInt?_of_fits64 (h : Fits64 n) :
    ofInt? n = some (.number (.int n (fits64_iff.mp h))) :=
  dif_pos (fits64_iff.mp h)

theorem ofInt?_of_fits128 (h : Fits128 n) (hgap : ¬ Fits64 n) : ofInt? n = some (.wide n) := by
  rw [fits64_iff] at hgap
  rw [fits128_iff] at h
  rw [ofInt?, dif_neg hgap, if_pos h]

theorem ofInt?_of_not_fits128 (h : ¬ Fits128 n) : ofInt? n = none := by
  have hgap : ¬ Fits64 n := by
    rw [fits128_iff] at h
    rw [fits64_iff]
    omega
  rw [fits64_iff] at hgap
  rw [fits128_iff] at h
  rw [ofInt?, dif_neg hgap, if_neg h]

theorem readInt?_of_integer (h : Literal.Integer s.toList n) : readInt? s = ofInt? n := by
  rw [readInt?, Literal.readInteger?_eq_some.mpr h, Option.bind_some]

/-- What is read as an integer is a number of 64 bits, or in the gap. -/
theorem of_readInt? {v : Value} (h : readInt? s = some v) :
    (∃ number, v = .number number) ∨ (∃ n, v = .wide n) ∧ InGap s := by
  obtain ⟨n, hread, hn⟩ := Option.bind_eq_some_iff.mp h
  have hliteral : Literal.Integer s.toList n := Literal.readInteger?_eq_some.mp hread
  by_cases h64 : Fits64 n
  · rw [ofInt?_of_fits64 h64, Option.some.injEq] at hn
    exact .inl ⟨_, hn.symm⟩
  · by_cases h128 : Fits128 n
    · rw [ofInt?_of_fits128 h128 h64, Option.some.injEq] at hn
      exact .inr ⟨⟨n, hn.symm⟩, n, hliteral, h128, h64⟩
    · rw [ofInt?_of_not_fits128 h128] at hn
      cases hn

/-- The spellings of null and of the booleans. -/
def words : List String :=
  ["", "~", "null", "Null", "NULL", "true", "True", "TRUE", "false", "False", "FALSE"]

theorem ofPlain_of_not_mem_words (h : s ∉ words) :
    ofPlain s = (readInt? s).getD (if hasLeadingZero (splitSign s.toList).2 then .text s
      else (readFloat? s).getD (.text s)) := by
  simp only [words, List.mem_cons, List.not_mem_nil, or_false, not_or] at h
  have hempty : s.isEmpty = false := String.isEmpty_eq_false_iff.mpr h.1
  have hnull : ¬ (s.isEmpty ∨ isNullText s) := by simp [hempty, isNullText, h]
  have hbool : readBool? s = none := by simp [readBool?, h]
  rw [ofPlain, if_neg hnull, hbool]
  cases readInt? s <;> rfl

theorem not_mem_words_of_integer (h : Literal.Integer s.toList n) : s ∉ words := by
  have hwords : ∀ t ∈ words, Literal.readInteger? t.toList = none := by decide
  intro hmem
  have hread := Literal.readInteger?_eq_some.mpr h
  rw [hwords s hmem] at hread
  cases hread

theorem ofPlain_of_integer (h : Literal.Integer s.toList n) :
    ofPlain s = (ofInt? n).getD (if hasLeadingZero (splitSign s.toList).2 then .text s
      else (readFloat? s).getD (.text s)) := by
  rw [ofPlain_of_not_mem_words (not_mem_words_of_integer h), readInt?_of_integer h]

theorem ofPlain_of_fits64 (h : Literal.Integer s.toList n) (hn : Fits64 n) :
    ofPlain s = .number (.int n (fits64_iff.mp hn)) := by
  rw [ofPlain_of_integer h, ofInt?_of_fits64 hn, Option.getD_some]

theorem ofPlain_of_fits128 (h : Literal.Integer s.toList n) (hn : Fits128 n)
    (hgap : ¬ Fits64 n) : ofPlain s = .wide n := by
  rw [ofPlain_of_integer h, ofInt?_of_fits128 hn hgap, Option.getD_some]

/-- A literal that is too long stands for itself or for a float. -/
theorem ofPlain_of_not_fits128 (h : Literal.Integer s.toList n) (hn : ¬ Fits128 n) :
    ofPlain s = .text s ∨ ∃ x, ofPlain s = .number (.float x) := by
  rw [ofPlain_of_integer h, ofInt?_of_not_fits128 hn, Option.getD_none]
  split
  · exact .inl rfl
  · unfold Value.readFloat?
    cases Literal.readFloat? s.toList with
    | none => exact .inl rfl
    | some x => exact .inr ⟨x, rfl⟩

theorem ofPlain_of_hasLeadingZero (h : hasLeadingZero (splitSign s.toList).2 = true) :
    ofPlain s = .text s := by
  have hwords : ∀ t ∈ words, hasLeadingZero (splitSign t.toList).2 = false := by decide
  have hmem : s ∉ words := by
    intro hmem
    rw [hwords s hmem] at h
    cases h
  have hread : readInt? s = none := by
    cases hread : Literal.readInteger? s.toList with
    | none => rw [readInt?, hread, Option.bind_none]
    | some n =>
      rw [(Literal.readInteger?_eq_some.mp hread).hasLeadingZero] at h
      cases h
  rw [ofPlain_of_not_mem_words hmem, hread, Option.getD_none, if_pos h]

/-! ## What plain scalars stand for -/

/-- The spellings of null. -/
def nulls : List String := ["", "~", "null", "Null", "NULL"]

theorem isNull_iff : s.isEmpty ∨ isNullText s ↔ s ∈ nulls := by
  simp [isNullText, nulls, or_assoc]

theorem ofPlain_of_mem_nulls (h : s ∈ nulls) : ofPlain s = .null :=
  if_pos (isNull_iff.mpr h)

/-- A scalar that is not null is a boolean, a number or itself, or an integer in the gap. -/
theorem ofPlain_of_not_mem_nulls (h : s ∉ nulls) :
    (∃ b, ofPlain s = .bool b) ∨ (∃ number, ofPlain s = .number number) ∨ ofPlain s = .text s ∨
      (∃ n, ofPlain s = .wide n) ∧ InGap s := by
  have hnull : ¬ (s.isEmpty ∨ isNullText s) := isNull_iff.not.mpr h
  rw [ofPlain, if_neg hnull]
  cases readBool? s with
  | some b => exact .inl ⟨b, rfl⟩
  | none =>
    cases hint : readInt? s with
    | some v =>
      obtain ⟨number, rfl⟩ | ⟨⟨n, rfl⟩, hgap⟩ := of_readInt? hint
      · exact .inr (.inl ⟨number, rfl⟩)
      · exact .inr (.inr (.inr ⟨⟨n, rfl⟩, hgap⟩))
    | none =>
      dsimp only
      split
      · exact .inr (.inr (.inl rfl))
      · unfold Value.readFloat?
        cases Literal.readFloat? s.toList with
        | none => exact .inr (.inr (.inl rfl))
        | some x => exact .inr (.inl ⟨_, rfl⟩)

theorem ofPlain_eq_null : ofPlain s = .null ↔ s ∈ nulls := by
  refine ⟨fun hvalue => ?_, ofPlain_of_mem_nulls⟩
  by_contra hnull
  have hkinds := ofPlain_of_not_mem_nulls hnull
  simp [hvalue] at hkinds

/-- Only a literal in the gap stands for an integer that nothing takes. -/
theorem ofPlain_eq_wide : (∃ n, ofPlain s = .wide n) ↔ InGap s := by
  constructor
  · rintro ⟨n, hvalue⟩
    by_cases hnull : s ∈ nulls
    · rw [ofPlain_of_mem_nulls hnull] at hvalue
      cases hvalue
    · have hkinds := ofPlain_of_not_mem_nulls hnull
      simpa [hvalue] using hkinds
  · rintro ⟨n, hliteral, h128, h64⟩
    exact ⟨n, ofPlain_of_fits128 hliteral h128 h64⟩

end PanelLauncher.Yaml.Value
