import PanelLauncher.Proofs.Number.Nearest

/-!
# The shortest decimal of a magnitude

The decimal that a magnitude is written with is read as the magnitude, no decimal with fewer digits
is, and of those with as many digits none is nearer (`Magnitude.isShortest_shortest`). On the grid
of each width the two neighbours of the magnitude stand for all decimals of that width, and with 17
digits one of the two is read back.
-/

namespace PanelLauncher

namespace Decimal

variable {d : Decimal}

/-! ## Zeros at the end -/

theorem units_mul_pow (n k : Nat) (exponent : Int) :
    (Decimal.mk (n * 10 ^ k) exponent).units = (Decimal.mk n (exponent + k)).units := by
  unfold units
  rw [zpow_add₀ (by norm_num), zpow_natCast]
  push_cast
  ring

theorem trimmed_go (fuel n : Nat) (exponent : Int) :
    (trimmed.go fuel n exponent).units = (Decimal.mk n exponent).units ∧
    (trimmed.go fuel n exponent).digits ≤ n ∧
    (n ≤ fuel → (trimmed.go fuel n exponent).digits % 10 = 0 →
      (trimmed.go fuel n exponent).digits = 0) := by
  induction fuel generalizing n exponent with
  | zero => exact ⟨rfl, Nat.le_refl n, fun h _ => Nat.le_zero.mp h⟩
  | succ fuel ih =>
    unfold trimmed.go
    split
    · next hzero =>
      obtain ⟨hunits, hdigits, hlast⟩ := ih (n / 10) (exponent + 1)
      have hten : n / 10 * 10 = n := Nat.div_mul_cancel (Nat.dvd_of_mod_eq_zero hzero.2)
      refine ⟨?_, by omega, fun h => hlast (by omega)⟩
      have hshift := units_mul_pow (n / 10) 1 exponent
      rw [Nat.pow_one, hten] at hshift
      exact hunits.trans hshift.symm
    · next hzero =>
      refine ⟨rfl, Nat.le_refl n, fun _ hlast => ?_⟩
      by_contra hne
      exact hzero ⟨hne, hlast⟩

theorem units_trimmed (d : Decimal) : d.trimmed.units = d.units :=
  (trimmed_go d.digits d.digits d.exponent).1

/-- The power of ten above the digits of a width has itself one digit. -/
theorem width_trimmed_le {n : Nat} (hn : 0 < n) (h : d.digits ≤ 10 ^ n) : d.trimmed.width ≤ n := by
  obtain ⟨-, hdigits, hlast⟩ := trimmed_go d.digits d.digits d.exponent
  refine width_le hn (lt_of_le_of_ne (hdigits.trans h) fun heq => ?_)
  have hmod : 10 ^ n % 10 = 0 := by
    obtain ⟨m, rfl⟩ := Nat.exists_eq_add_of_lt hn
    exact Nat.mul_mod_left _ _
  have hzero : 10 ^ n = 0 := heq ▸ hlast (Nat.le_refl _) (heq ▸ hmod)
  exact absurd hzero (Nat.pow_pos (by decide)).ne'

end Decimal

namespace Magnitude

open Decimal (digitChars ten_zpow_pos)

variable {x : Magnitude} {d : Decimal} {width n : Nat}

/-- How far a decimal is from the magnitude. -/
def error (x : Magnitude) (d : Decimal) : ℚ :=
  |d.units - x.units|

/-! ## The grid of a width -/

/-- The distance of two grid points. -/
def spacing (x : Magnitude) (width : Nat) : ℚ :=
  10 ^ (x.dropped width - places : Int) * one

theorem spacing_pos (x : Magnitude) (width : Nat) : 0 < x.spacing width :=
  mul_pos (ten_zpow_pos _) cast_one_pos

theorem units_gridPoint (x : Magnitude) (width n : Nat) :
    (x.gridPoint width n).units = n * x.spacing width := by
  rw [Decimal.units, gridPoint, spacing, mul_assoc]

theorem spacing_mul (x : Magnitude) (width : Nat) :
    x.spacing width * 10 ^ places = (10 ^ x.dropped width * one : Nat) := by
  have hpow : (10 : ℚ) ^ (x.dropped width - places : Int) * 10 ^ places = 10 ^ x.dropped width := by
    rw [← zpow_natCast, ← zpow_natCast, ← zpow_add₀ (by norm_num), sub_add_cancel]
  rw [spacing, mul_right_comm, hpow, Nat.cast_mul, Nat.cast_pow, Nat.cast_ofNat]

theorem ten_pow_places_pos : (0 : ℚ) < 10 ^ places :=
  pow_pos (by norm_num) _

/-- The distance that the neighbours are compared by is the error in finer units. -/
theorem cast_distance (x : Magnitude) (width n : Nat) :
    (x.distance (n * 10 ^ x.dropped width) : ℚ) = x.error (x.gridPoint width n) * 10 ^ places := by
  have hexact : (n * 10 ^ x.dropped width * one : Nat) =
      (x.gridPoint width n).units * 10 ^ places := by
    rw [units_gridPoint, mul_assoc (n : ℚ), spacing_mul, Nat.mul_assoc, Nat.cast_mul]
  have hunits : (x.units * Nat.pow 10 places : Nat) = (x.units : ℚ) * 10 ^ places := by
    rw [Nat.cast_mul, Nat.pow_eq, Nat.cast_pow, Nat.cast_ofNat]
  have herror : x.error (x.gridPoint width n) * 10 ^ places =
      |((n * 10 ^ x.dropped width * one : Nat) : ℚ) - (x.units * Nat.pow 10 places : Nat)| := by
    rw [hexact, hunits, ← sub_mul, abs_mul, abs_of_pos ten_pow_places_pos]
    rfl
  rw [herror]
  unfold distance
  dsimp only
  generalize n * 10 ^ x.dropped width * one = exact
  generalize x.units * Nat.pow 10 places = units
  rcases Nat.le_total exact units with hle | hle
  · have hle' : (exact : ℚ) ≤ units := by exact_mod_cast hle
    rw [Nat.sub_eq_zero_of_le hle, Nat.add_zero, Nat.cast_sub hle, abs_of_nonpos (by linarith)]
    ring
  · have hle' : (units : ℚ) ≤ exact := by exact_mod_cast hle
    rw [Nat.sub_eq_zero_of_le hle, Nat.zero_add, Nat.cast_sub hle, abs_of_nonneg (by linarith)]

/-! ## The neighbours -/

theorem scaled_eq (x : Magnitude) : x.scaled = x.units * 10 ^ places / one := by
  rw [scaled, Nat.pow_eq]

theorem below_mul_spacing_le (x : Magnitude) (width : Nat) :
    x.below width * x.spacing width ≤ x.units := by
  have hbelow : x.below width * 10 ^ x.dropped width ≤ x.scaled := Nat.div_mul_le_self _ _
  have hscaled : x.scaled * one ≤ x.units * 10 ^ places := by
    rw [scaled_eq]
    exact Nat.div_mul_le_self _ _
  have hle : x.below width * (10 ^ x.dropped width * one) ≤ x.units * 10 ^ places := by
    rw [← Nat.mul_assoc]
    exact (Nat.mul_le_mul_right _ hbelow).trans hscaled
  refine le_of_mul_le_mul_right ?_ ten_pow_places_pos
  rw [mul_assoc, spacing_mul]
  exact_mod_cast hle

theorem units_lt_succ_below (x : Magnitude) (width : Nat) :
    x.units < (x.below width + 1 : Nat) * x.spacing width := by
  have hbelow : x.scaled + 1 ≤ (x.below width + 1) * 10 ^ x.dropped width :=
    Nat.lt_mul_of_div_lt (Nat.lt_succ_self _) (Nat.pow_pos (by decide))
  have hscaled : x.units * 10 ^ places < (x.scaled + 1) * one := by
    rw [scaled_eq]
    exact Nat.lt_mul_of_div_lt (Nat.lt_succ_self _) one_pos
  have hlt : x.units * 10 ^ places < (x.below width + 1) * (10 ^ x.dropped width * one) := by
    rw [← Nat.mul_assoc]
    exact hscaled.trans_le (Nat.mul_le_mul_right _ hbelow)
  refine lt_of_mul_lt_mul_right ?_ ten_pow_places_pos.le
  rw [mul_assoc, spacing_mul]
  exact_mod_cast hlt

/-- There are 17 digits before the places that a magnitude is scaled to. -/
theorem le_scaled (h : x.units ≠ 0) : 10 ^ 16 ≤ x.scaled := by
  have hplaces : 10 ^ 16 * one ≤ 10 ^ places := by decide +kernel
  rw [scaled_eq, Nat.le_div_iff_mul_le one_pos]
  exact hplaces.trans (Nat.le_mul_of_pos_left _ (Nat.pos_of_ne_zero h))

theorem length_scaled (h : x.units ≠ 0) (hwidth : width ≤ 17) :
    (digitChars x.scaled).length = width + x.dropped width := by
  have hlong : ¬ (digitChars x.scaled).length ≤ 16 := by
    intro hlength
    have hlt := (Nat.length_toDigits_le_iff (by decide) (by decide)).mp hlength
    exact absurd hlt (Nat.not_lt.mpr (le_scaled h))
  unfold dropped
  omega

theorem le_below (h : x.units ≠ 0) (hpos : 0 < width) (hwidth : width ≤ 17) :
    10 ^ (width - 1) ≤ x.below width := by
  have hscaled : (Decimal.mk x.scaled 0).digits ≠ 0 := by
    have := le_scaled h
    show x.scaled ≠ 0
    omega
  have hlength : (Decimal.mk x.scaled 0).width - 1 = width - 1 + x.dropped width := by
    have := length_scaled h hwidth
    show (digitChars x.scaled).length - 1 = _
    omega
  have hdigits := Decimal.le_digits hscaled
  rw [hlength, Nat.pow_add] at hdigits
  exact (Nat.le_div_iff_mul_le (Nat.pow_pos (by decide))).mpr hdigits

theorem below_lt (h : x.units ≠ 0) (hwidth : width ≤ 17) : x.below width < 10 ^ width := by
  have hdigits := (Decimal.mk x.scaled 0).digits_lt
  have hlength : (Decimal.mk x.scaled 0).width = width + x.dropped width :=
    length_scaled h hwidth
  rw [hlength, Nat.pow_add] at hdigits
  exact (Nat.div_lt_iff_lt_mul (Nat.pow_pos (by decide))).mpr hdigits

/-- No decimal of the width lies between the neighbours. -/
theorem units_le_or_le_units (h : x.units ≠ 0) (hwidth : width ≤ 17) (hd : d.width ≤ width) :
    d.units ≤ x.below width * x.spacing width ∨
      (x.below width + 1 : Nat) * x.spacing width ≤ d.units := by
  have hspacing := x.spacing_pos width
  by_cases hexponent : (x.dropped width - places : Int) ≤ d.exponent
  · -- the decimal is a multiple of the spacing
    obtain ⟨k, hk⟩ := Int.le.dest hexponent
    have hunits : (x.gridPoint width (d.digits * 10 ^ k)).units = d.units := by
      rw [gridPoint, Decimal.units_mul_pow, hk]
    rw [← hunits, units_gridPoint]
    rcases Nat.lt_or_ge (x.below width) (d.digits * 10 ^ k) with hlt | hge
    · exact .inr (mul_le_mul_of_nonneg_right (by exact_mod_cast hlt) hspacing.le)
    · exact .inl (mul_le_mul_of_nonneg_right (by exact_mod_cast hge) hspacing.le)
  · -- with so few digits a decimal of finer places is below the one that has a digit more
    left
    have hpoint : d.point ≤ (width - 1 : Nat) + (x.dropped width - places : Int) := by
      have hpoint : d.point = d.width + d.exponent := rfl
      have := d.width_pos
      omega
    have hpow : (10 : ℚ) ^ d.point ≤ 10 ^ ((width - 1 : Nat) + (x.dropped width - places : Int)) :=
      zpow_le_zpow_right₀ (by norm_num) hpoint
    have hbelow : (10 ^ (width - 1) : ℚ) ≤ x.below width := by
      exact_mod_cast le_below h (d.width_pos.trans_le hd) hwidth
    calc d.units
        ≤ 10 ^ d.point * one := d.units_lt.le
      _ ≤ 10 ^ ((width - 1 : Nat) + (x.dropped width - places : Int)) * one :=
        mul_le_mul_of_nonneg_right hpow cast_one_pos.le
      _ = 10 ^ (width - 1) * x.spacing width := by
        rw [zpow_add₀ (by norm_num), zpow_natCast, mul_assoc, spacing]
      _ ≤ x.below width * x.spacing width := mul_le_mul_of_nonneg_right hbelow hspacing.le

/-- If a decimal of the width is read as the magnitude, so is a neighbour that is as near. -/
theorem exists_gridPoint (h : x.units ≠ 0) (hwidth : width ≤ 17) (hd : d.width ≤ width)
    (hread : d.magnitude? = some x) :
    ∃ n ∈ [x.below width, x.below width + 1],
      (x.gridPoint width n).magnitude? = some x ∧ x.error (x.gridPoint width n) ≤ x.error d := by
  have hlow := x.below_mul_spacing_le width
  have hhigh := x.units_lt_succ_below width
  rw [Decimal.magnitude?_eq_some] at hread
  rcases units_le_or_le_units h hwidth hd with hle | hge
  · refine ⟨x.below width, by simp, ?_, ?_⟩
    · rw [Decimal.magnitude?_eq_some, units_gridPoint]
      exact hread.of_between (.inr ⟨hle, hlow⟩)
    · unfold error
      rw [units_gridPoint, abs_of_nonpos (by linarith), abs_of_nonpos (by linarith)]
      linarith
  · refine ⟨x.below width + 1, by simp, ?_, ?_⟩
    · rw [Decimal.magnitude?_eq_some, units_gridPoint]
      exact hread.of_between (.inl ⟨hhigh.le, hge⟩)
    · unfold error
      rw [units_gridPoint, abs_of_nonneg (by linarith), abs_of_nonneg (by linarith)]
      linarith

/-- With 17 digits a neighbour is read as the magnitude. -/
theorem exists_gridPoint_seventeen (h : x.units ≠ 0) :
    ∃ n ∈ [x.below 17, x.below 17 + 1], (x.gridPoint 17 n).magnitude? = some x := by
  have hlow := x.below_mul_spacing_le 17
  have hhigh := x.units_lt_succ_below 17
  have hdigits : 10 ^ 16 ≤ x.below 17 := le_below h (show 0 < 17 by decide) (Nat.le_refl 17)
  have hbelow : (10 ^ 16 : ℚ) * x.spacing 17 ≤ x.below 17 * x.spacing 17 :=
    mul_le_mul_of_nonneg_right (by exact_mod_cast hdigits) (x.spacing_pos 17).le
  rw [Nat.cast_add, Nat.cast_one, add_mul, one_mul] at hhigh
  -- the nearer one is at most half of the spacing away
  rcases le_total (2 * (x.units - x.below 17 * x.spacing 17)) (x.spacing 17) with hnear | hfar
  · refine ⟨x.below 17, by simp, ?_⟩
    rw [Decimal.magnitude?_eq_some, units_gridPoint]
    refine isNearest_of_mul_abs_sub_le ?_
    rw [abs_of_nonneg (by linarith)]
    linarith
  · refine ⟨x.below 17 + 1, by simp, ?_⟩
    rw [Decimal.magnitude?_eq_some, units_gridPoint]
    refine isNearest_of_mul_abs_sub_le ?_
    rw [Nat.cast_add, Nat.cast_one, add_mul, one_mul, abs_of_nonpos (by linarith)]
    linarith

/-! ## The search -/

theorem error_le_error {m : Nat}
    (h : x.distance (m * 10 ^ x.dropped width) ≤ x.distance (n * 10 ^ x.dropped width)) :
    x.error (x.gridPoint width m) ≤ x.error (x.gridPoint width n) := by
  refine le_of_mul_le_mul_right ?_ ten_pow_places_pos
  rw [← cast_distance, ← cast_distance]
  exact_mod_cast h

/-- The grid offers a neighbour that is read as the magnitude, the nearer one if both are. -/
theorem of_onGrid?_eq_some (h : x.onGrid? width = some d) :
    d.magnitude? = some x ∧ d.digits ≤ x.below width + 1 ∧
      ∀ n ∈ [x.below width, x.below width + 1],
        (x.gridPoint width n).magnitude? = some x → x.error d ≤ x.error (x.gridPoint width n) := by
  simp only [List.forall_mem_cons, List.not_mem_nil, false_implies, implies_true, and_true]
  unfold onGrid? at h
  dsimp only at h
  split at h
  · next hlow =>
    split at h
    · next hhigh =>
      cases h
      have hle : x.distance ((x.below width + 1) * 10 ^ x.dropped width) ≤
          x.distance (x.below width * 10 ^ x.dropped width) := by
        have habove := hhigh.2
        simp only [prefersAbove, Bool.or_eq_true, Bool.and_eq_true, decide_eq_true_eq,
          beq_iff_eq] at habove
        rcases habove with hlt | ⟨heq, -⟩
        · exact hlt.le
        · exact heq.le
      exact ⟨hhigh.1, Nat.le_refl _, fun _ => error_le_error hle, fun _ => le_refl _⟩
    · next hhigh =>
      cases h
      refine ⟨hlow, Nat.le_succ _, fun _ => le_refl _, fun hread => error_le_error ?_⟩
      have habove : ¬ x.prefersAbove width = true := fun habove => hhigh ⟨hread, habove⟩
      simp only [prefersAbove, Bool.or_eq_true, decide_eq_true_eq, not_or] at habove
      exact Nat.le_of_not_lt habove.1
  · next hlow =>
    split at h
    · next hhigh =>
      cases h
      exact ⟨hhigh, Nat.le_refl _, fun hread => absurd hread hlow, fun _ => le_refl _⟩
    · cases h

theorem onGrid?_ne_none (hn : n ∈ [x.below width, x.below width + 1])
    (hread : (x.gridPoint width n).magnitude? = some x) : x.onGrid? width ≠ none := by
  simp only [List.mem_cons, List.not_mem_nil, or_false] at hn
  unfold onGrid?
  dsimp only
  rcases hn with rfl | rfl
  · rw [if_pos hread]
    split <;> simp
  · rw [if_pos hread]
    split
    · split <;> simp
    · simp

theorem of_findSome?_range {α : Type} {f : Nat → Option α} {m : Nat} {a : α}
    (h : (List.range m).findSome? f = some a) :
    ∃ n < m, f n = some a ∧ ∀ k < n, f k = none := by
  obtain ⟨before, n, after, hsplit, hn, hbefore⟩ := List.findSome?_eq_some_iff.mp h
  rw [List.range_eq_range', List.range'_eq_append_iff] at hsplit
  obtain ⟨k, hk, rfl, hafter⟩ := hsplit
  obtain ⟨rfl, hpos, -⟩ := List.range'_eq_cons_iff.mp hafter.symm
  refine ⟨_, by omega, hn, fun j hj => hbefore j ?_⟩
  rw [List.mem_range'_1]
  omega

/-- The search ends at the least width whose grid offers a decimal. -/
theorem exists_shortest_eq (h : x.units ≠ 0) :
    ∃ n d, n < 17 ∧ x.onGrid? (n + 1) = some d ∧ x.shortest = d.trimmed ∧
      ∀ k < n, x.onGrid? (k + 1) = none := by
  have hmantissa : x.mantissa ≠ 0 := by
    intro hzero
    rw [units_eq, hzero, Nat.zero_mul] at h
    exact h rfl
  obtain ⟨m, hm, hread⟩ := exists_gridPoint_seventeen h
  cases hsearch : (List.range 17).findSome? fun n => x.onGrid? (n + 1) with
  | none =>
    have hnone : x.onGrid? (16 + 1) = none :=
      List.findSome?_eq_none_iff.mp hsearch 16 (by simp)
    exact absurd hnone (onGrid?_ne_none hm hread)
  | some d =>
    obtain ⟨n, hn, hgrid, hbefore⟩ := of_findSome?_range hsearch
    refine ⟨n, d, hn, hgrid, ?_, hbefore⟩
    rw [shortest, if_neg hmantissa, hsearch, Option.getD_some]

/-! ## The shortest decimal -/

/-- The decimal is read as the magnitude, none with fewer digits is, and none of its width is
nearer. -/
structure IsShortest (x : Magnitude) (d : Decimal) : Prop where
  reads : d.magnitude? = some x
  fewest : ∀ d' : Decimal, d'.magnitude? = some x → d.width ≤ d'.width
  nearest : ∀ d' : Decimal, d'.magnitude? = some x → d'.width ≤ d.width → x.error d ≤ x.error d'

theorem error_nonneg (x : Magnitude) (d : Decimal) : 0 ≤ x.error d :=
  abs_nonneg _

theorem isShortest_zero : IsShortest zero ⟨0, 0⟩ where
  reads := rfl
  fewest d' _ := d'.width_pos
  nearest d' _ _ := by
    have hzero : zero.error ⟨0, 0⟩ = 0 := by
      rw [error, Decimal.units_eq_zero rfl, units_eq]
      norm_num [zero]
    rw [hzero]
    exact zero.error_nonneg d'

/-- The decimal that a magnitude is written with is the shortest one. -/
theorem isShortest_shortest (x : Magnitude) : IsShortest x x.shortest := by
  by_cases hunits : x.units = 0
  · cases units_inj (hunits.trans (Nat.zero_mul _).symm : x.units = zero.units)
    exact isShortest_zero
  · obtain ⟨n, d, hn, hgrid, hshortest, hbefore⟩ := exists_shortest_eq hunits
    obtain ⟨hread, hdigits, hbest⟩ := of_onGrid?_eq_some hgrid
    have hwidth : d.trimmed.width ≤ n + 1 :=
      Decimal.width_trimmed_le (Nat.succ_pos n) (hdigits.trans (below_lt hunits hn))
    rw [hshortest]
    constructor
    case reads => rw [Decimal.magnitude?_congr d.units_trimmed, hread]
    case fewest =>
      intro d' hread'
      by_contra hfewer
      obtain ⟨k, hk⟩ : ∃ k, d'.width = k + 1 := Nat.exists_eq_succ_of_ne_zero d'.width_pos.ne'
      obtain ⟨m, hm, hreadm, -⟩ := exists_gridPoint hunits (by omega) hk.le hread'
      exact onGrid?_ne_none hm hreadm (hbefore k (by omega))
    case nearest =>
      intro d' hread' hwidth'
      obtain ⟨m, hm, hreadm, hnear⟩ := exists_gridPoint hunits hn (hwidth'.trans hwidth) hread'
      have herror : x.error d.trimmed = x.error d := by rw [error, d.units_trimmed, error]
      rw [herror]
      exact (hbest m hm hreadm).trans hnear

end Magnitude

end PanelLauncher
