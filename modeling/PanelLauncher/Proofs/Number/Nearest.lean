import Mathlib.Algebra.Order.Field.Basic
import Mathlib.Data.Rat.Cast.Order
import Mathlib.Tactic.Linarith
import Mathlib.Tactic.LinearCombination
import Mathlib.Tactic.FieldSimp
import Mathlib.Tactic.Ring
import PanelLauncher.Number.Decimal

/-!
# Decimals are read as the nearest magnitude

Magnitudes lie on the line as multiples of steps that double from one binade to the next. A decimal
is read as the magnitude that no other is nearer to, of two equally near ones as the one with the
even mantissa, and as none if it is too far beyond the greatest one (`Decimal.magnitude?_eq_some`).
All distances are counted in units of `2 ^ (-1074)`.
-/

namespace PanelLauncher

namespace Magnitude

variable {x y : Magnitude} {q : ℚ}

/-! ## Magnitudes on the line -/

theorem units_eq (x : Magnitude) : x.units = x.mantissa * 2 ^ x.exponent := rfl

theorem one_pos : 0 < one := by
  decide +kernel

theorem cast_one_pos : (0 : ℚ) < one := by
  exact_mod_cast one_pos

/-- Above the least exponent the mantissa is full. -/
theorem le_units (h : 0 < x.exponent) : 2 ^ 52 * 2 ^ x.exponent ≤ x.units := by
  have hfull : 2 ^ 52 ≤ x.mantissa := by
    rcases x.canonical with hzero | hfull
    · omega
    · exact hfull
  exact Nat.mul_le_mul_right _ hfull

/-- Below a binade every magnitude keeps half a step of it away. -/
theorem units_le_of_exponent_lt {n : Nat} (h : x.exponent < n) :
    2 * x.units + 2 ^ n ≤ 2 * (2 ^ 52 * 2 ^ n) := by
  have hmantissa : x.mantissa < 2 ^ 53 := x.mantissa_lt
  obtain ⟨d, rfl⟩ : ∃ d, n = x.exponent + 1 + d := ⟨n - (x.exponent + 1), by omega⟩
  have hpow : 2 ^ (x.exponent + 1 + d) = 2 * (2 ^ x.exponent * 2 ^ d) := by ring
  have hstep : x.mantissa * 2 ^ x.exponent ≤ (2 ^ 53 - 1) * (2 ^ x.exponent * 2 ^ d) :=
    Nat.mul_le_mul (by omega) (Nat.le_mul_of_pos_right _ (Nat.two_pow_pos d))
  rw [units_eq, hpow]
  generalize 2 ^ x.exponent * 2 ^ d = step at hstep ⊢
  omega

theorem units_lt_of_exponent_lt (h : x.exponent < y.exponent) : x.units < y.units := by
  have hbelow := units_le_of_exponent_lt h
  have habove := le_units (x := y) (by omega)
  have hpos : 0 < 2 ^ y.exponent := Nat.two_pow_pos _
  omega

theorem units_inj (h : x.units = y.units) : x = y := by
  have hexponent : x.exponent = y.exponent := by
    rcases Nat.lt_trichotomy x.exponent y.exponent with hlt | heq | hgt
    · have := units_lt_of_exponent_lt hlt
      omega
    · exact heq
    · have := units_lt_of_exponent_lt hgt
      omega
  have hmantissa : x.mantissa = y.mantissa := by
    rw [units_eq, units_eq, hexponent] at h
    exact Nat.eq_of_mul_eq_mul_right (Nat.two_pow_pos _) h
  cases x
  cases y
  cases hexponent
  cases hmantissa
  rfl

/-- From its binade on, a magnitude is a multiple of the step. -/
theorem exists_units_eq {n : Nat} (h : n ≤ x.exponent) :
    ∃ k, x.units = k * 2 ^ n ∧ (x.mantissa % 2 = 0 → k % 2 = 0) := by
  obtain ⟨d, hd⟩ : ∃ d, x.exponent = n + d := ⟨x.exponent - n, by omega⟩
  refine ⟨x.mantissa * 2 ^ d, ?_, fun heven => ?_⟩
  · rw [units_eq, hd]
    ring
  · rw [Nat.mul_mod, heven, Nat.zero_mul, Nat.zero_mod]

/-- Two multiples of a step are a step apart. -/
theorem step_le_abs_sub {k r : Nat} (h : k ≠ r) (n : Nat) :
    (2 ^ n : ℚ) ≤ |(k * 2 ^ n : ℚ) - r * 2 ^ n| := by
  have hstep : (0 : ℚ) < 2 ^ n := by positivity
  have hdistance : (1 : ℚ) ≤ |(k : ℚ) - r| := by
    have hsub : (k : Int) - r ≠ 0 := sub_ne_zero.mpr (by exact_mod_cast h)
    exact_mod_cast Int.one_le_abs hsub
  rw [← sub_mul, abs_mul, abs_of_pos hstep]
  exact le_mul_of_one_le_left hstep.le hdistance

/-- Between two magnitudes with even mantissas there is another one. -/
theorem exists_between (hx : x.mantissa % 2 = 0) (hy : y.mantissa % 2 = 0)
    (h : x.units < y.units) : ∃ z : Magnitude, x.units < z.units ∧ z.units < y.units := by
  have hmantissa := x.mantissa_lt
  have hcanonical : x.exponent = 0 ∨ 4503599627370496 ≤ x.mantissa + 1 := by
    have := x.canonical
    omega
  have hexponent : x.exponent ≤ y.exponent := by
    by_contra hlt
    have := units_lt_of_exponent_lt (Nat.lt_of_not_le hlt)
    omega
  obtain ⟨k, hk, heven⟩ := exists_units_eq hexponent
  have hpos : 0 < 2 ^ x.exponent := Nat.two_pow_pos _
  -- the mantissa next to that of `x` is odd, and `k` is even
  have hnext : x.mantissa + 1 < k := by
    have hlt : x.mantissa < k := by
      rw [units_eq, hk] at h
      exact Nat.lt_of_mul_lt_mul_right h
    have := heven hy
    omega
  refine ⟨⟨x.mantissa + 1, x.exponent, by omega, x.exponent_le, hcanonical⟩, ?_, ?_⟩
  · rw [units_eq, units_eq]
    exact Nat.mul_lt_mul_of_pos_right (Nat.lt_succ_self _) hpos
  · rw [units_eq, hk]
    exact Nat.mul_lt_mul_of_pos_right hnext hpos

/-! ## The nearest magnitude -/

/-- From here on, half a step beyond the greatest magnitude, a number is read as infinite. -/
def overflow : Nat := (2 ^ 54 - 1) * 2 ^ 2044

theorem cast_overflow : (overflow : ℚ) = (2 ^ 54 - 1) * 2 ^ 2044 := by
  unfold overflow
  generalize 2044 = t
  push_cast
  norm_num

/-- No magnitude is nearer to the number, and another one as near only if the mantissa is even. -/
structure IsNearest (q : ℚ) (x : Magnitude) : Prop where
  lt_overflow : q < overflow
  le : ∀ y : Magnitude, |x.units - q| ≤ |y.units - q|
  even : ∀ y : Magnitude, y ≠ x → |x.units - q| = |y.units - q| → x.mantissa % 2 = 0

theorem IsNearest.unique (hx : IsNearest q x) (hy : IsNearest q y) : x = y := by
  by_contra hne
  wlog hlt : x.units < y.units generalizing x y
  · have hunits : y.units ≠ x.units := fun h => hne (units_inj h).symm
    exact this hy hx (Ne.symm hne) (by omega)
  have htie : |x.units - q| = |y.units - q| := le_antisymm (hx.le y) (hy.le x)
  obtain ⟨z, hxz, hzy⟩ :=
    exists_between (hx.even y (Ne.symm hne) htie) (hy.even x hne htie.symm) hlt
  have hz := hx.le z
  have hxz : (x.units : ℚ) < z.units := by exact_mod_cast hxz
  have hzy : (z.units : ℚ) < y.units := by exact_mod_cast hzy
  -- the number lies halfway between the two, and so nearer to what is between them
  rcases abs_cases ((x.units : ℚ) - q) with ⟨hax, _⟩ | ⟨hax, _⟩ <;>
    rcases abs_cases ((y.units : ℚ) - q) with ⟨hay, _⟩ | ⟨hay, _⟩ <;>
    rcases abs_cases ((z.units : ℚ) - q) with ⟨haz, _⟩ | ⟨haz, _⟩ <;> linarith

theorem units_add_le_of_exponent_le {n : Nat} (h : x.exponent ≤ n + 1) :
    x.units + 2 ^ n ≤ (2 ^ 54 - 1) * 2 ^ n := by
  have hmantissa : x.mantissa ≤ 2 ^ 53 - 1 := Nat.le_pred_of_lt x.mantissa_lt
  have hstep : 2 ^ x.exponent ≤ 2 * 2 ^ n := by
    rw [← Nat.pow_succ']
    exact Nat.pow_le_pow_right (by decide) h
  have hunits : x.units ≤ (2 ^ 53 - 1) * (2 * 2 ^ n) := Nat.mul_le_mul hmantissa hstep
  generalize 2 ^ n = step at hunits ⊢
  omega

theorem units_lt_overflow (x : Magnitude) : x.units < overflow := by
  have hlt {n : Nat} (h : x.exponent ≤ n + 1) : x.units < (2 ^ 54 - 1) * 2 ^ n :=
    (Nat.lt_add_of_pos_right (Nat.two_pow_pos n)).trans_le (units_add_le_of_exponent_le h)
  exact hlt x.exponent_le

/-- What is nearest to a number is nearest to all that lies between the two. -/
theorem IsNearest.of_between {q' : ℚ} (h : IsNearest q x)
    (hq' : x.units ≤ q' ∧ q' ≤ q ∨ q ≤ q' ∧ q' ≤ x.units) : IsNearest q' x := by
  have hsplit : |x.units - q| = |x.units - q'| + |q' - q| := by
    rcases hq' with ⟨hlow, hhigh⟩ | ⟨hlow, hhigh⟩
    · rw [abs_of_nonpos (by linarith), abs_of_nonpos (by linarith), abs_of_nonpos (by linarith)]
      ring
    · rw [abs_of_nonneg (by linarith), abs_of_nonneg (by linarith), abs_of_nonneg (by linarith)]
      ring
  have htriangle (y : Magnitude) : |y.units - q| ≤ |y.units - q'| + |q' - q| :=
    abs_sub_le _ _ _
  constructor
  case lt_overflow =>
    have hunits : (x.units : ℚ) < overflow := by exact_mod_cast x.units_lt_overflow
    rcases hq' with ⟨-, hhigh⟩ | ⟨-, hhigh⟩
    · exact hhigh.trans_lt h.lt_overflow
    · exact hhigh.trans_lt hunits
  case le =>
    intro y
    have := h.le y
    have := htriangle y
    linarith
  case even =>
    intro y hne htie
    refine h.even y hne (le_antisymm (h.le y) ?_)
    have := htriangle y
    linarith

/-- To its precision of 53 bits a magnitude is apart from all others. -/
theorem units_lt_mul_abs_sub (hne : y ≠ x) :
    (x.units : ℚ) < 10 ^ 16 * |(y.units : ℚ) - x.units| := by
  have hunits : x.units < 2 ^ 53 * 2 ^ x.exponent :=
    Nat.mul_lt_mul_of_pos_right x.mantissa_lt (Nat.two_pow_pos _)
  have hunits' : (x.units : ℚ) < 2 ^ 53 * 2 ^ x.exponent := by exact_mod_cast hunits
  by_cases hexponent : x.exponent ≤ y.exponent
  · obtain ⟨k, hk, -⟩ := exists_units_eq hexponent
    have hkx : k ≠ x.mantissa := fun hkx => hne (units_inj (hk.trans (by rw [hkx, units_eq])))
    have hstep := step_le_abs_sub hkx x.exponent
    have hx : (x.units : ℚ) = x.mantissa * 2 ^ x.exponent := by exact_mod_cast x.units_eq
    have hy : (y.units : ℚ) = k * 2 ^ x.exponent := by exact_mod_cast hk
    rw [← hx, ← hy] at hstep
    have hpos : (0 : ℚ) < 2 ^ x.exponent := by positivity
    linarith
  · have hexponent : y.exponent < x.exponent := Nat.lt_of_not_le hexponent
    have hbelow : (2 * y.units + 2 ^ x.exponent : ℚ) ≤ 2 * (2 ^ 52 * 2 ^ x.exponent) := by
      exact_mod_cast units_le_of_exponent_lt hexponent
    have hfull : (2 ^ 52 * 2 ^ x.exponent : ℚ) ≤ x.units := by
      exact_mod_cast le_units (x := x) (by omega)
    have := neg_le_abs ((y.units : ℚ) - x.units)
    linarith

/-- So a magnitude is nearest to the numbers that have its first 17 digits. -/
theorem isNearest_of_mul_abs_sub_le (h : 2 * 10 ^ 16 * |(x.units : ℚ) - q| ≤ x.units) :
    IsNearest q x := by
  have hother (y : Magnitude) (hne : y ≠ x) : |(x.units : ℚ) - q| < |y.units - q| := by
    have hgap := units_lt_mul_abs_sub hne
    have htriangle : |(y.units : ℚ) - x.units| ≤ |y.units - q| + |q - x.units| :=
      abs_sub_le _ _ _
    rw [abs_sub_comm q] at htriangle
    linarith
  constructor
  case lt_overflow =>
    have hle : (x.units : ℚ) + 2 ^ 2044 ≤ (2 ^ 54 - 1) * 2 ^ 2044 := by
      rw [← cast_overflow]
      exact_mod_cast units_add_le_of_exponent_le x.exponent_le
    have hpos : (0 : ℚ) < 2 ^ 2044 := pow_pos (by norm_num) _
    have := neg_le_abs ((x.units : ℚ) - q)
    rw [cast_overflow]
    generalize (2 : ℚ) ^ 2044 = step at hle hpos ⊢
    linarith
  case le =>
    intro y
    by_cases hne : y = x
    · rw [hne]
    · exact (hother y hne).le
  case even => exact fun y hne htie => absurd htie (hother y hne).ne

/-! ## Rounding to a step -/

/-- The rounded quotient is at most a half away, and even if it is just a half. -/
theorem roundDiv_spec (num : Nat) {den : Nat} (hden : 0 < den) :
    2 * num ≤ 2 * (roundDiv num den * den) + den ∧
    2 * (roundDiv num den * den) ≤ 2 * num + den ∧
    (2 * num = 2 * (roundDiv num den * den) + den ∨
      2 * (roundDiv num den * den) = 2 * num + den → roundDiv num den % 2 = 0) := by
  have hdiv : num = num / den * den + num % den := (Nat.div_add_mod' num den).symm
  have hmod : num % den < den := Nat.mod_lt _ hden
  have hsucc : (num / den + 1) * den = num / den * den + den := by ring
  unfold roundDiv
  dsimp only
  split
  · omega
  · split
    · rw [hsucc]
      omega
    · rcases Nat.mod_two_eq_zero_or_one (num / den) with heven | hodd
      · rw [heven, Nat.add_zero]
        omega
      · rw [hodd, hsucc]
        omega

/-- A number rounded to the nearest multiple of a step, the step being that of its binade. -/
structure Rounds (q : ℚ) (r n : Nat) : Prop where
  near : |(r * 2 ^ n : ℚ) - q| ≤ 2 ^ n / 2
  even : |(r * 2 ^ n : ℚ) - q| = 2 ^ n / 2 → r % 2 = 0
  low : n = 0 ∨ 2 ^ 52 * 2 ^ n ≤ q
  high : q < 2 ^ 53 * 2 ^ n

/-- The exponent of a quotient is that of its binade. -/
theorem binade_of_log2 (num : Nat) {den : Nat} (hden : 0 < den) :
    ((num / den).log2 - 52 = 0 ∨
      2 ^ 52 * 2 ^ ((num / den).log2 - 52) * den ≤ num) ∧
    num < 2 ^ 53 * 2 ^ ((num / den).log2 - 52) * den := by
  constructor
  · by_cases hlog : (num / den).log2 ≤ 52
    · exact .inl (by omega)
    · right
      have hne : num / den ≠ 0 := by
        intro hzero
        rw [hzero] at hlog
        exact hlog (by decide)
      have hself : 2 ^ (num / den).log2 ≤ num / den := Nat.log2_self_le hne
      have hexponent : 52 + ((num / den).log2 - 52) = (num / den).log2 := by omega
      rw [← Nat.pow_add, hexponent]
      exact (Nat.le_div_iff_mul_le hden).mp hself
  · have hself : num / den < 2 ^ ((num / den).log2 + 1) := Nat.lt_log2_self
    have hpow : 2 ^ ((num / den).log2 + 1) ≤ 2 ^ (53 + ((num / den).log2 - 52)) :=
      Nat.pow_le_pow_right (by decide) (by omega)
    rw [← Nat.pow_add]
    exact (Nat.div_lt_iff_lt_mul hden).mp (hself.trans_le hpow)

theorem rounds_ofRatio (num : Nat) {den : Nat} (hden : 0 < den) :
    Rounds (num / den) (roundDiv num (den * 2 ^ ((num / den).log2 - 52)))
      ((num / den).log2 - 52) := by
  obtain ⟨hlow, hhigh⟩ := binade_of_log2 num hden
  generalize (num / den).log2 - 52 = n at hlow hhigh ⊢
  obtain ⟨habove, hbelow, heven⟩ :=
    roundDiv_spec num (Nat.mul_pos hden (Nat.two_pow_pos n))
  generalize roundDiv num (den * 2 ^ n) = r at habove hbelow heven ⊢
  have hden' : (0 : ℚ) < den := by exact_mod_cast hden
  obtain ⟨q, hq⟩ : ∃ q : ℚ, q = num / den := ⟨_, rfl⟩
  have hnum : (num : ℚ) = q * den := by
    rw [hq]
    field_simp
  have habove' : 2 * q ≤ 2 * (r * 2 ^ n) + 2 ^ n := by
    refine le_of_mul_le_mul_right ?_ hden'
    have : (2 * num : ℚ) ≤ 2 * (r * (den * 2 ^ n)) + den * 2 ^ n := by exact_mod_cast habove
    linarith
  have hbelow' : 2 * (r * 2 ^ n) ≤ 2 * q + 2 ^ n := by
    refine le_of_mul_le_mul_right ?_ hden'
    have : (2 * (r * (den * 2 ^ n)) : ℚ) ≤ 2 * num + den * 2 ^ n := by exact_mod_cast hbelow
    linarith
  rw [← hq]
  constructor
  case near =>
    rw [abs_le]
    constructor <;> linarith
  case even =>
    intro htie
    apply heven
    have hcast : (2 * num : ℚ) = 2 * (r * (den * 2 ^ n)) + den * 2 ^ n ∨
        (2 * (r * (den * 2 ^ n)) : ℚ) = 2 * num + den * 2 ^ n := by
      rw [hnum]
      rcases abs_cases ((r * 2 ^ n : ℚ) - q) with ⟨habs, _⟩ | ⟨habs, _⟩
      · right
        linear_combination 2 * den * (htie - habs)
      · left
        linear_combination 2 * den * (htie - habs)
    exact_mod_cast hcast
  case low =>
    refine hlow.imp_right fun hlow => ?_
    refine le_of_mul_le_mul_right ?_ hden'
    rw [← hnum]
    exact_mod_cast hlow
  case high =>
    refine lt_of_mul_lt_mul_right ?_ hden'.le
    rw [← hnum]
    exact_mod_cast hhigh

namespace Rounds

variable {r n : Nat}

theorem mantissa_le (h : Rounds q r n) : r ≤ 2 ^ 53 := by
  have hpos : (0 : ℚ) < 2 ^ n := by positivity
  have hnear := abs_le.mp h.near
  have hhigh := h.high
  have hlt : (r : ℚ) * 2 ^ n < (2 ^ 53 + 1) * 2 ^ n := by linarith
  have hlt' : (r : ℚ) < 2 ^ 53 + 1 := lt_of_mul_lt_mul_right hlt hpos.le
  exact Nat.lt_succ_iff.mp (by exact_mod_cast hlt')

theorem le_mantissa (h : Rounds q r n) (hn : n ≠ 0) : 2 ^ 52 ≤ r := by
  have hpos : (0 : ℚ) < 2 ^ n := by positivity
  have hnear := abs_le.mp h.near
  have hlow := h.low.resolve_left hn
  have hlt : (2 ^ 52 : ℚ) * 2 ^ n < (r + 1) * 2 ^ n := by linarith
  have hlt' : (2 ^ 52 : ℚ) < r + 1 := lt_of_mul_lt_mul_right hlt hpos.le
  exact Nat.lt_succ_iff.mp (by exact_mod_cast hlt')

/-- Every other magnitude is at least half a step away. -/
theorem half_le_of_ne (h : Rounds q r n) (hy : y.units ≠ r * 2 ^ n) :
    (2 ^ n / 2 : ℚ) ≤ |y.units - q| := by
  have hnear := h.near
  by_cases hexponent : n ≤ y.exponent
  · -- a multiple of the step, and so at least one step away from the rounded number
    obtain ⟨k, hk, -⟩ := exists_units_eq hexponent
    have hkr : k ≠ r := fun hkr => hy (hkr ▸ hk)
    have hunits : (y.units : ℚ) = k * 2 ^ n := by exact_mod_cast hk
    have hstep := step_le_abs_sub hkr n
    have htriangle : |(k * 2 ^ n : ℚ) - r * 2 ^ n| ≤ |k * 2 ^ n - q| + |q - r * 2 ^ n| :=
      abs_sub_le _ _ _
    rw [abs_sub_comm q] at htriangle
    rw [hunits]
    linarith
  · -- in a lower binade, and so half a step below that of the number
    have hbelow : (2 * y.units + 2 ^ n : ℚ) ≤ 2 * (2 ^ 52 * 2 ^ n) := by
      exact_mod_cast units_le_of_exponent_lt (Nat.lt_of_not_le hexponent)
    have hlow := h.low.resolve_left (by omega)
    have := neg_le_abs ((y.units : ℚ) - q)
    linarith

/-- Of the mantissas only a full one is too large, and it is even. -/
theorem units_of_ofRounded? (hx : ofRounded? r n = some x) :
    x.units = r * 2 ^ n ∧ (r % 2 = 0 → x.mantissa % 2 = 0) ∧ n ≤ 2045 ∧
      (n = 2045 → r < 2 ^ 53) := by
  unfold ofRounded? at hx
  split at hx
  · next hfits =>
    cases hx
    exact ⟨rfl, id, hfits.2.1, fun _ => hfits.1⟩
  · split at hx
    · next hfull =>
      cases hx
      have heven : 4503599627370496 % 2 = 0 := by decide
      obtain ⟨rfl, hn⟩ := hfull
      refine ⟨?_, fun _ => heven, by omega, by omega⟩
      show 4503599627370496 * 2 ^ (n + 1) = 9007199254740992 * 2 ^ n
      ring
    · cases hx

theorem lt_of_exponent_le (h : Rounds q r n) {t : Nat} (hn : n ≤ t + 1)
    (htop : n = t + 1 → r < 2 ^ 53) : q < (2 ^ 54 - 1) * 2 ^ t := by
  have hpos : (0 : ℚ) < 2 ^ t := by positivity
  rcases Nat.lt_or_eq_of_le hn with hlt | rfl
  · have hstep : (2 : ℚ) ^ n ≤ 2 ^ t := pow_le_pow_right₀ (by norm_num) (by omega)
    have hhigh := h.high
    linarith
  · have hr : (r : ℚ) ≤ 2 ^ 53 - 1 := by
      have : (r : ℚ) + 1 ≤ 2 ^ 53 := by exact_mod_cast htop rfl
      linarith
    have hnear := h.near
    have hstep : (2 : ℚ) ^ (t + 1) = 2 * 2 ^ t := pow_succ' 2 t
    have hunits : (r : ℚ) * (2 * 2 ^ t) ≤ (2 ^ 53 - 1) * (2 * 2 ^ t) :=
      mul_le_mul_of_nonneg_right hr (by positivity)
    have habs := neg_le_abs ((r * 2 ^ (t + 1) : ℚ) - q)
    rw [hstep] at hnear habs
    refine lt_of_le_of_ne (by linarith) fun htie => ?_
    -- the greatest mantissa is odd, so that half a step above it is too large already
    have hodd : r = 2 ^ 53 - 1 := by
      have hge : (2 ^ 53 - 1 : ℚ) * (2 * 2 ^ t) ≤ r * (2 * 2 ^ t) := by linarith
      have hge' : (2 ^ 53 - 1 : ℚ) ≤ r := le_of_mul_le_mul_right hge (by positivity)
      have : (2 ^ 53 : ℚ) ≤ r + 1 := by linarith
      have : 2 ^ 53 ≤ r + 1 := by exact_mod_cast this
      have := htop rfl
      omega
    have heven : r % 2 = 0 := by
      apply h.even
      rw [hstep]
      exact le_antisymm hnear (by linarith)
    omega

theorem le_of_le_exponent (h : Rounds q r n) {t : Nat} (hn : t + 1 ≤ n)
    (htop : n = t + 1 → r = 2 ^ 53) : (2 ^ 54 - 1) * 2 ^ t ≤ q := by
  have hpos : (0 : ℚ) < 2 ^ t := by positivity
  have hstep : (2 : ℚ) ^ (t + 1) = 2 * 2 ^ t := pow_succ' 2 t
  rcases Nat.lt_or_eq_of_le hn with hlt | rfl
  · have hlow := h.low.resolve_left (by omega)
    have hmore : (2 : ℚ) ^ (t + 2) ≤ 2 ^ n := pow_le_pow_right₀ (by norm_num) hlt
    have hfour : (2 : ℚ) ^ (t + 2) = 4 * 2 ^ t := by ring
    linarith
  · have hnear := h.near
    have habs := le_abs_self ((r * 2 ^ (t + 1) : ℚ) - q)
    have hr : (r : ℚ) = 2 ^ 53 := by exact_mod_cast htop rfl
    rw [hr, hstep] at hnear habs
    have := habs.trans hnear
    linarith

theorem isNearest (h : Rounds q r n) (hx : ofRounded? r n = some x) : IsNearest q x := by
  obtain ⟨hunits, heven, hn, htop⟩ := units_of_ofRounded? hx
  have hunits' : (x.units : ℚ) = r * 2 ^ n := by exact_mod_cast hunits
  have hother {y : Magnitude} (hy : y ≠ x) : (2 ^ n / 2 : ℚ) ≤ |y.units - q| :=
    h.half_le_of_ne fun hsame => hy (units_inj (hsame.trans hunits.symm))
  constructor
  case le =>
    intro y
    by_cases hy : y = x
    · rw [hy]
    · rw [hunits']
      exact h.near.trans (hother hy)
  case even =>
    intro y hy htie
    rw [hunits'] at htie
    exact heven (h.even (le_antisymm h.near (htie ▸ hother hy)))
  case lt_overflow =>
    rw [cast_overflow]
    exact h.lt_of_exponent_le hn htop

theorem overflow_le (h : Rounds q r n) (hx : ofRounded? r n = none) : overflow ≤ q := by
  have hle := h.mantissa_le
  have hge := h.le_mantissa
  unfold ofRounded? at hx
  split at hx
  · cases hx
  · next hfits =>
    split at hx
    · cases hx
    · next hfull =>
      rw [cast_overflow]
      refine h.le_of_le_exponent ?_ fun hn => ?_ <;> omega

end Rounds

theorem ofRatio?_eq_some {num den : Nat} (hden : 0 < den) :
    ofRatio? num den = some x ↔ IsNearest (num / den) x := by
  have hrounds := rounds_ofRatio num hden
  have hdef : ofRatio? num den =
      ofRounded? (roundDiv num (den * 2 ^ ((num / den).log2 - 52))) ((num / den).log2 - 52) := rfl
  rw [hdef]
  refine ⟨hrounds.isNearest, fun hx => ?_⟩
  cases hread : ofRounded? (roundDiv num (den * 2 ^ ((num / den).log2 - 52)))
      ((num / den).log2 - 52) with
  | none => exact absurd hx.lt_overflow (not_lt.mpr (hrounds.overflow_le hread))
  | some y => rw [(hrounds.isNearest hread).unique hx]

/-- Below half a unit zero is nearest. -/
theorem isNearest_zero (hpos : 0 ≤ q) (hq : 2 * q < 1) : IsNearest q zero := by
  have hzero : (zero.units : ℚ) = 0 := by
    rw [units_eq]
    norm_num [zero]
  have hdistance : |(zero.units : ℚ) - q| = q := by
    rw [hzero, zero_sub, abs_neg, abs_of_nonneg hpos]
  constructor
  case lt_overflow =>
    have hone : (zero.units : ℚ) + 1 ≤ overflow := by exact_mod_cast zero.units_lt_overflow
    linarith
  case le =>
    intro y
    rw [hdistance]
    rcases Nat.eq_zero_or_pos y.units with hy | hy
    · rw [hy, Nat.cast_zero, zero_sub, abs_neg]
      exact le_abs_self q
    · have hy' : (1 : ℚ) ≤ y.units := by exact_mod_cast hy
      have := le_abs_self ((y.units : ℚ) - q)
      linarith
  case even => exact fun _ _ _ => rfl

end Magnitude

/-! ## Reading decimals -/

namespace Decimal

variable {d e : Decimal} {x : Magnitude}

/-- The number that a decimal denotes, in units of `2 ^ (-1074)`. -/
def units (d : Decimal) : ℚ :=
  d.digits * 10 ^ d.exponent * Magnitude.one

/-- How many digits a decimal is written with. -/
def width (d : Decimal) : Nat :=
  (digitChars d.digits).length

theorem width_pos (d : Decimal) : 0 < d.width :=
  List.length_pos_of_ne_nil Nat.toDigits_ne_nil

theorem digits_lt (d : Decimal) : d.digits < 10 ^ d.width :=
  (Nat.length_toDigits_le_iff (by decide) d.width_pos).mp (Nat.le_refl _)

theorem width_le {n : Nat} (hn : 0 < n) (h : d.digits < 10 ^ n) : d.width ≤ n :=
  (Nat.length_toDigits_le_iff (by decide) hn).mpr h

theorem le_digits (h : d.digits ≠ 0) : 10 ^ (d.width - 1) ≤ d.digits := by
  by_contra hlt
  rcases Nat.eq_zero_or_pos (d.width - 1) with hzero | hpos
  · rw [hzero] at hlt
    omega
  · have := width_le hpos (Nat.lt_of_not_le hlt)
    have := d.width_pos
    omega

theorem ten_zpow_pos (n : Int) : (0 : ℚ) < 10 ^ n :=
  zpow_pos (by norm_num) n

theorem units_nonneg (d : Decimal) : 0 ≤ d.units :=
  mul_nonneg (mul_nonneg (Nat.cast_nonneg _) (ten_zpow_pos _).le) Magnitude.cast_one_pos.le

/-- The point bounds a decimal from above. -/
theorem units_lt (d : Decimal) : d.units < 10 ^ d.point * Magnitude.one := by
  have hpoint : d.point = d.width + d.exponent := rfl
  have hdigits : (d.digits : ℚ) < 10 ^ d.width := by exact_mod_cast d.digits_lt
  rw [hpoint, zpow_add₀ (by norm_num), zpow_natCast]
  exact mul_lt_mul_of_pos_right (mul_lt_mul_of_pos_right hdigits (ten_zpow_pos _))
    Magnitude.cast_one_pos

/-- And from below, if there is a digit that counts. -/
theorem le_units (h : d.digits ≠ 0) : 10 ^ (d.point - 1) * Magnitude.one ≤ d.units := by
  have hwidth := d.width_pos
  have hpoint : d.point - 1 = (d.width - 1 : Nat) + d.exponent := by
    show (d.width : Int) + d.exponent - 1 = _
    omega
  have hdigits : (10 ^ (d.width - 1) : ℚ) ≤ d.digits := by exact_mod_cast le_digits h
  rw [hpoint, zpow_add₀ (by norm_num), zpow_natCast]
  exact mul_le_mul_of_nonneg_right
    (mul_le_mul_of_nonneg_right hdigits (ten_zpow_pos _).le) Magnitude.cast_one_pos.le

theorem units_of_nonneg (h : 0 ≤ d.exponent) :
    d.units = (d.digits * 10 ^ d.exponent.toNat * Magnitude.one : Nat) := by
  have hpow : (10 : ℚ) ^ d.exponent = 10 ^ d.exponent.toNat := by
    rw [← zpow_natCast, Int.toNat_of_nonneg h]
  rw [units, hpow]
  push_cast
  rfl

theorem units_of_neg (h : d.exponent < 0) :
    d.units = (d.digits * Magnitude.one : Nat) / (10 ^ (-d.exponent).toNat : Nat) := by
  have hpow : (10 : ℚ) ^ d.exponent = (10 ^ (-d.exponent).toNat)⁻¹ := by
    rw [← zpow_natCast, Int.toNat_of_nonneg (by omega), zpow_neg, inv_inv]
  rw [units, hpow]
  push_cast
  ring

theorem units_eq_zero (h : d.digits = 0) : d.units = 0 := by
  rw [units, h, Nat.cast_zero, zero_mul, zero_mul]

/-- With a point so far to the right a decimal is beyond all magnitudes. -/
theorem overflow_le (h : d.digits ≠ 0) (hpoint : 310 < d.point) : Magnitude.overflow ≤ d.units := by
  have hbound : Magnitude.overflow ≤ 10 ^ 310 * Magnitude.one := by decide +kernel
  have hbound' : (Magnitude.overflow : ℚ) ≤ 10 ^ (310 : Int) * Magnitude.one := by
    exact_mod_cast hbound
  have hpow : (10 : ℚ) ^ (310 : Int) ≤ 10 ^ (d.point - 1) :=
    zpow_le_zpow_right₀ (by norm_num) (by omega)
  have hscaled : 10 ^ (310 : Int) * (Magnitude.one : ℚ) ≤ 10 ^ (d.point - 1) * Magnitude.one :=
    mul_le_mul_of_nonneg_right hpow Magnitude.cast_one_pos.le
  exact (hbound'.trans hscaled).trans (le_units h)

/-- With a point so far to the left a decimal is nearest to zero. -/
theorem two_mul_units_lt (hpoint : d.point < -330) : 2 * d.units < 1 := by
  have hbound : 2 * Magnitude.one < 10 ^ 331 := by decide +kernel
  have hbound' : 2 * (Magnitude.one : ℚ) < 10 ^ (331 : Int) := by exact_mod_cast hbound
  have hpow : (10 : ℚ) ^ d.point ≤ 10 ^ (-331 : Int) :=
    zpow_le_zpow_right₀ (by norm_num) (by omega)
  have hunits : d.units < 10 ^ (-331 : Int) * Magnitude.one :=
    d.units_lt.trans_le (mul_le_mul_of_nonneg_right hpow Magnitude.cast_one_pos.le)
  have hinv : (10 : ℚ) ^ (-331 : Int) * 10 ^ (331 : Int) = 1 := by
    rw [← zpow_add₀ (by norm_num)]
    rfl
  have hscaled : (10 : ℚ) ^ (-331 : Int) * (2 * Magnitude.one) <
      10 ^ (-331 : Int) * 10 ^ (331 : Int) :=
    mul_lt_mul_of_pos_left hbound' (ten_zpow_pos _)
  linarith

/-- A decimal is read as the magnitude that is nearest to it, if there is one. -/
theorem magnitude?_eq_some : d.magnitude? = some x ↔ Magnitude.IsNearest d.units x := by
  have hzero {y : Magnitude} (hy : Magnitude.IsNearest d.units y) :
      some y = some x ↔ Magnitude.IsNearest d.units x := by
    rw [Option.some.injEq]
    exact ⟨fun h => h ▸ hy, hy.unique⟩
  unfold magnitude?
  split
  · next hdigits =>
    refine hzero (Magnitude.isNearest_zero d.units_nonneg ?_)
    rw [units_eq_zero hdigits]
    norm_num
  · next hdigits =>
    split
    · next hpoint =>
      have hover := overflow_le hdigits hpoint
      simp only [reduceCtorEq, false_iff]
      exact fun hx => absurd hx.lt_overflow (not_lt.mpr hover)
    · split
      · next hpoint =>
        exact hzero (Magnitude.isNearest_zero d.units_nonneg (two_mul_units_lt hpoint))
      · split
        · next hexponent =>
          rw [Magnitude.ofRatio?_eq_some Nat.one_pos, units_of_nonneg hexponent, Nat.cast_one,
            div_one]
          rfl
        · next hexponent =>
          have hpos : 0 < Nat.pow 10 (-d.exponent).toNat := Nat.pow_pos (by decide)
          rw [Magnitude.ofRatio?_eq_some hpos, units_of_neg (Int.not_le.mp hexponent)]
          rfl

/-- What a decimal is read as depends on the number that it denotes, not on how it is written. -/
theorem magnitude?_congr (h : d.units = e.units) : d.magnitude? = e.magnitude? := by
  ext x
  rw [magnitude?_eq_some, magnitude?_eq_some, h]

end Decimal

end PanelLauncher
