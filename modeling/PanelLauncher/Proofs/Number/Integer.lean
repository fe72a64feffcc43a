import Mathlib.Data.Nat.Digits.Lemmas
import Mathlib.Tactic.Ring
import PanelLauncher.Number.Literal

/-!
# Integer literals and their numbers

The grammar of integer literals, each with the number that it denotes. A text is read as an integer
just if it is a literal (`Literal.readInteger?_eq_some`), and the text of an integer is the literal
without a sign that is not needed and without superfluous zeros (`Literal.integer_toString`).
-/

namespace PanelLauncher.Literal

/-- A digit and its value; letters may be in either case. -/
def IsDigit (base : Nat) (c : Char) (d : Nat) : Prop :=
  d < base ∧ (c = d.digitChar ∨ c = d.digitChar.toUpper)

/-- Digits, at least one, and the number that they denote, the highest digit being the first. -/
def Numeral (base : Nat) (cs : List Char) (n : Nat) : Prop :=
  cs ≠ [] ∧ ∃ ds, List.Forall₂ (IsDigit base) cs ds ∧ n = Nat.ofDigits base ds.reverse

/-- An integer literal without its sign: decimal digits without a superfluous zero in front, or
digits of another radix behind its mark. -/
inductive Unsigned : List Char → Nat → Prop
  | decimal {cs : List Char} {n : Nat} (h : Numeral 10 cs n)
      (hzero : cs.head? = some '0' → cs = ['0']) : Unsigned cs n
  | hexadecimal {cs : List Char} {n : Nat} (h : Numeral 16 cs n) : Unsigned ('0' :: 'x' :: cs) n
  | octal {cs : List Char} {n : Nat} (h : Numeral 8 cs n) : Unsigned ('0' :: 'o' :: cs) n
  | binary {cs : List Char} {n : Nat} (h : Numeral 2 cs n) : Unsigned ('0' :: 'b' :: cs) n

/-- An integer literal and the number that it denotes. -/
inductive Integer : List Char → Int → Prop
  | bare {cs : List Char} {n : Nat} (h : Unsigned cs n) : Integer cs n
  | plus {cs : List Char} {n : Nat} (h : Unsigned cs n) : Integer ('+' :: cs) n
  | minus {cs : List Char} {n : Nat} (h : Unsigned cs n) : Integer ('-' :: cs) (-(n : Int))

/-! ## Digits -/

theorem digitValue?_digitChar : ∀ d < 16, digitValue? 16 d.digitChar = some d ∧
    digitValue? 16 d.digitChar.toUpper = some d := by
  decide

/-- The letters among the digits. -/
theorem toNat_digitChar :
    ∀ d < 16, 10 ≤ d → d.digitChar.toNat = d + 87 ∧ d.digitChar.toUpper.toNat = d + 55 := by
  decide

theorem digitValue?_eq_filter {base : Nat} (hbase : base ≤ 16) (c : Char) :
    digitValue? base c = (digitValue? 16 c).filter (· < base) := by
  have hboth : (fun d => decide (d < 16) && decide (d < base)) = fun d => decide (d < base) := by
    funext d
    simp only [← Bool.decide_and, decide_eq_decide]
    omega
  simp only [digitValue?, Option.filter_filter, hboth]

theorem digitValue?_eq_some {base : Nat} (hbase : base ≤ 16) {c : Char} {d : Nat} :
    digitValue? base c = some d ↔ IsDigit base c d := by
  rw [digitValue?_eq_filter hbase, Option.filter_eq_some_iff, decide_eq_true_eq, and_comm]
  refine and_congr_right fun hd => ⟨fun h => ?_, ?_⟩
  · obtain ⟨hvalue, hd16⟩ := Option.filter_eq_some_iff.mp h
    have hd16 : d < 16 := of_decide_eq_true hd16
    split at hvalue
    · next hrange =>
      have hlow : 48 ≤ c.toNat := hrange.1
      have hhigh : c.toNat ≤ 57 := hrange.2
      have hd : c.toNat - 48 = d := Option.some.inj hvalue
      left
      apply Char.toNat_inj.mp
      rw [Nat.toNat_digitChar_of_lt_ten (by omega)]
      omega
    · split at hvalue
      · next hrange =>
        have hlow : 97 ≤ c.toNat := hrange.1
        have hd : c.toNat - 97 + 10 = d := Option.some.inj hvalue
        left
        apply Char.toNat_inj.mp
        rw [(toNat_digitChar d hd16 (by omega)).1]
        omega
      · split at hvalue
        · next hrange =>
          have hlow : 65 ≤ c.toNat := hrange.1
          have hd : c.toNat - 65 + 10 = d := Option.some.inj hvalue
          right
          apply Char.toNat_inj.mp
          rw [(toNat_digitChar d hd16 (by omega)).2]
          omega
        · cases hvalue
  · rintro (rfl | rfl)
    · exact (digitValue?_digitChar d (by omega)).1
    · exact (digitValue?_digitChar d (by omega)).2

theorem IsDigit.isDigit {c : Char} {d : Nat} (h : IsDigit 10 c d) : c.isDigit = true := by
  have hall : ∀ d < 10, d.digitChar.isDigit = true ∧ d.digitChar.toUpper.isDigit = true := by decide
  obtain ⟨hd, rfl | rfl⟩ := h
  · exact (hall d hd).1
  · exact (hall d hd).2

/-- Reading goes on from the number that the digits before denote. -/
theorem readDigits?_eq_some {base : Nat} (hbase : base ≤ 16) {cs : List Char} {value n : Nat} :
    readDigits? base value cs = some n ↔
      ∃ ds, List.Forall₂ (IsDigit base) cs ds ∧
        n = value * base ^ cs.length + Nat.ofDigits base ds.reverse := by
  induction cs generalizing value with
  | nil => simp [readDigits?, eq_comm]
  | cons c cs ih =>
    have hstep {d : Nat} {ds : List Nat} (hds : List.Forall₂ (IsDigit base) cs ds) :
        (value * base + d) * base ^ cs.length + Nat.ofDigits base ds.reverse =
          value * base ^ (c :: cs).length + Nat.ofDigits base (d :: ds).reverse := by
      rw [List.reverse_cons, Nat.ofDigits_append, Nat.ofDigits_singleton, List.length_reverse,
        ← hds.length_eq, List.length_cons]
      ring
    simp only [readDigits?, Option.bind_eq_some_iff, digitValue?_eq_some hbase, ih,
      List.forall₂_cons_left_iff]
    constructor
    · rintro ⟨d, hd, ds, hds, rfl⟩
      exact ⟨d :: ds, ⟨d, ds, hd, hds, rfl⟩, hstep hds⟩
    · rintro ⟨_, ⟨d, ds, hd, hds, rfl⟩, rfl⟩
      exact ⟨d, hd, ds, hds, (hstep hds).symm⟩

theorem readNat?_eq_some {base : Nat} (hbase : base ≤ 16) {cs : List Char} {n : Nat} :
    readNat? base cs = some n ↔ Numeral base cs n := by
  cases cs with
  | nil => simp [readNat?, Numeral]
  | cons c cs => simp [readNat?, Numeral, readDigits?_eq_some hbase]

/-! ## Literals -/

theorem isDigit_of_forall₂ {cs : List Char} {ds : List Nat}
    (h : List.Forall₂ (IsDigit 10) cs ds) : ∀ c ∈ cs, c.isDigit = true := by
  induction h with
  | nil => simp
  | cons hd _ ih => exact List.forall_mem_cons.mpr ⟨hd.isDigit, ih⟩

theorem hasLeadingZero_eq_true {cs : List Char} :
    hasLeadingZero cs = true ↔
      cs.head? = some '0' ∧ 2 ≤ cs.length ∧ ∀ c ∈ cs, c.isDigit = true := by
  have hzero : '0'.isDigit = true := rfl
  unfold hasLeadingZero
  split
  · simp [hzero]
  · next hshape =>
    simp only [Bool.false_eq_true, false_iff]
    rintro ⟨hhead, hlength, -⟩
    match cs with
    | [] => cases hhead
    | [_] => simp at hlength
    | c :: c' :: cs => exact hshape c' cs (by simpa using hhead)

theorem Unsigned.of_readUnsigned? {cs : List Char} {n : Nat} (h : readUnsigned? cs = some n) :
    Unsigned cs n := by
  unfold readUnsigned? at h
  split at h
  · exact .hexadecimal ((readNat?_eq_some (by decide)).mp h)
  · exact .octal ((readNat?_eq_some (by decide)).mp h)
  · exact .binary ((readNat?_eq_some (by decide)).mp h)
  · split at h
    · cases h
    · next hzero =>
      have hnumeral : Numeral 10 cs n := (readNat?_eq_some (by decide)).mp h
      obtain ⟨-, ds, hds, -⟩ := id hnumeral
      refine .decimal hnumeral fun hhead => ?_
      -- a second digit would make the zero superfluous
      have hlength : ¬ 2 ≤ cs.length := fun hlength =>
        hzero (hasLeadingZero_eq_true.mpr ⟨hhead, hlength, isDigit_of_forall₂ hds⟩)
      match cs with
      | [] => cases hhead
      | [c] => simpa using hhead
      | _ :: _ :: _ => simp at hlength

/-- A literal has no superfluous zero in front. -/
theorem Unsigned.hasLeadingZero {cs : List Char} {n : Nat} (h : Unsigned cs n) :
    hasLeadingZero cs = false := by
  cases h with
  | decimal h hzero =>
    rw [← Bool.not_eq_true, hasLeadingZero_eq_true]
    rintro ⟨hhead, hlength, -⟩
    rw [hzero hhead] at hlength
    simp at hlength
  | _ => rfl

theorem Unsigned.readUnsigned? {cs : List Char} {n : Nat} (h : Unsigned cs n) :
    readUnsigned? cs = some n := by
  cases h with
  | hexadecimal h => exact (readNat?_eq_some (by decide)).mpr h
  | octal h => exact (readNat?_eq_some (by decide)).mpr h
  | binary h => exact (readNat?_eq_some (by decide)).mpr h
  | decimal h hzero =>
    have hread : readNat? 10 cs = some n := (readNat?_eq_some (by decide)).mpr h
    have hlone : Literal.hasLeadingZero cs = false := (Unsigned.decimal h hzero).hasLeadingZero
    unfold Literal.readUnsigned?
    split
    · cases hzero rfl
    · cases hzero rfl
    · cases hzero rfl
    · rw [hlone, hread]
      rfl

theorem splitSign_of_isDigit {cs : List Char} (h : ∀ c ∈ cs, c.isDigit = true) :
    splitSign cs = (false, cs) := by
  unfold splitSign
  split
  · cases h '-' List.mem_cons_self
  · cases h '+' List.mem_cons_self
  · rfl

/-- A sign begins no literal without one. -/
theorem Unsigned.splitSign {cs : List Char} {n : Nat} (h : Unsigned cs n) :
    splitSign cs = (false, cs) := by
  cases h with
  | decimal h hzero =>
    obtain ⟨-, ds, hds, -⟩ := h
    exact splitSign_of_isDigit (isDigit_of_forall₂ hds)
  | _ => rfl

/-- The texts that are read as an integer are the literals that denote it. -/
theorem readInteger?_eq_some {cs : List Char} {n : Int} :
    readInteger? cs = some n ↔ Integer cs n := by
  constructor
  · intro h
    unfold readInteger? at h
    split at h
    next negative unsigned hsplit =>
    simp only [Option.map_eq_some_iff, bind, Option.bind_eq_some_iff, pure, Option.some.injEq] at h
    obtain ⟨_, ⟨m, hread, rfl⟩, rfl⟩ := h
    have hm : Unsigned unsigned m := .of_readUnsigned? hread
    unfold splitSign at hsplit
    split at hsplit
    · cases hsplit
      exact .minus hm
    · cases hsplit
      exact .plus hm
    · cases hsplit
      exact .bare hm
  · intro h
    cases h with
    | bare h => simp [readInteger?, h.splitSign, h.readUnsigned?]
    | plus h => simp [readInteger?, splitSign, h.readUnsigned?]
    | minus h => simp [readInteger?, splitSign, h.readUnsigned?]

theorem Integer.hasLeadingZero {cs : List Char} {n : Int} (h : Integer cs n) :
    hasLeadingZero (splitSign cs).2 = false := by
  cases h with
  | bare h => rw [h.splitSign]; exact h.hasLeadingZero
  | plus h => exact h.hasLeadingZero
  | minus h => exact h.hasLeadingZero

/-! ## The text of a number as a literal -/

theorem digitChar_of_isDigit {c : Char} {d : Nat} (h : IsDigit 10 c d) : d.digitChar = c := by
  have hupper : ∀ d < 10, d.digitChar.toUpper = d.digitChar := by decide
  obtain ⟨hd, rfl | rfl⟩ := h
  · rfl
  · exact (hupper d hd).symm

/-- Digits behind those of a number that is not zero make up a greater number. -/
theorem toDigits_append {cs : List Char} {ds : List Nat} (h : List.Forall₂ (IsDigit 10) cs ds)
    {value : Nat} (hvalue : 0 < value) :
    Nat.toDigits 10 value ++ cs =
      Nat.toDigits 10 (value * 10 ^ cs.length + Nat.ofDigits 10 ds.reverse) := by
  induction h generalizing value with
  | nil => simp
  | @cons c d cs ds hd hds ih =>
    have hdigit : Nat.toDigits 10 d = [c] := by
      rw [Nat.toDigits_of_lt_base hd.1, digitChar_of_isDigit hd]
    calc Nat.toDigits 10 value ++ c :: cs
        = Nat.toDigits 10 value ++ Nat.toDigits 10 d ++ cs := by rw [hdigit]; simp
      _ = Nat.toDigits 10 (10 * value + d) ++ cs := by
        rw [Nat.toDigits_append_toDigits (by decide) hvalue hd.1]
      _ = _ := by
        rw [ih (by omega), List.reverse_cons, Nat.ofDigits_append, Nat.ofDigits_singleton,
          List.length_reverse, ← hds.length_eq, List.length_cons]
        congr 1
        ring

/-- Without a superfluous zero in front, digits are those of the number that they denote. -/
theorem toDigits_of_numeral {cs : List Char} {n : Nat} (h : Numeral 10 cs n)
    (hzero : cs.head? = some '0' → cs = ['0']) : Nat.toDigits 10 n = cs := by
  obtain ⟨hne, ds, hds, rfl⟩ := h
  cases hds with
  | nil => exact absurd rfl hne
  | @cons c d cs ds hd hds =>
    by_cases hfirst : d = 0
    · subst hfirst
      cases digitChar_of_isDigit hd
      cases hzero rfl
      cases hds
      rfl
    · have hdigit : Nat.toDigits 10 d = [c] := by
        rw [Nat.toDigits_of_lt_base hd.1, digitChar_of_isDigit hd]
      have happend := toDigits_append hds (Nat.pos_of_ne_zero hfirst)
      rw [hdigit, List.singleton_append] at happend
      rw [happend, List.reverse_cons, Nat.ofDigits_append, Nat.ofDigits_singleton,
        List.length_reverse, ← hds.length_eq]
      congr 1
      ring

theorem isDigit_of_char {c : Char} (h : c.isDigit = true) : IsDigit 10 c (c.toNat - 48) := by
  obtain ⟨hlow, hhigh⟩ : 48 ≤ c.toNat ∧ c.toNat ≤ 57 := Char.isDigit_iff_toNat.mp h
  refine ⟨by omega, .inl (Char.toNat_inj.mp ?_)⟩
  rw [Nat.toNat_digitChar_of_lt_ten (by omega)]
  omega

theorem exists_numeral {cs : List Char} (hne : cs ≠ []) (h : ∀ c ∈ cs, c.isDigit = true) :
    ∃ n, Numeral 10 cs n := by
  refine ⟨_, hne, cs.map (·.toNat - 48), ?_, rfl⟩
  rw [List.forall₂_map_right_iff, List.forall₂_same]
  exact fun c hc => isDigit_of_char (h c hc)

theorem toDigits_inj {m n : Nat} (h : Nat.toDigits 10 m = Nat.toDigits 10 n) : m = n := by
  rw [← Nat.ofDigitChars_toDigits (b := 10) (n := m) (by decide) (by decide), h,
    Nat.ofDigitChars_toDigits (by decide) (by decide)]

theorem head?_toDigits {n : Nat} (h : (Nat.toDigits 10 n).head? = some '0') :
    Nat.toDigits 10 n = ['0'] := by
  induction n using Nat.strong_induction_on with
  | _ n ih =>
    by_cases hn : n < 10
    · rw [Nat.toDigits_of_lt_base hn] at h ⊢
      rw [List.head?_cons, Option.some.injEq] at h
      rw [h]
    · have hdigits := Nat.toDigits_of_base_le (by decide) (Nat.le_of_not_lt hn)
      rw [hdigits, List.head?_append_of_ne_nil _ Nat.toDigits_ne_nil] at h
      have hzero : n / 10 = 0 := toDigits_inj ((ih (n / 10) (by omega) h).trans rfl)
      omega

theorem numeral_toDigits (n : Nat) : Numeral 10 (Nat.toDigits 10 n) n := by
  obtain ⟨m, hm⟩ := exists_numeral (Nat.toDigits_ne_nil (n := n) (b := 10))
    fun c hc => Nat.isDigit_of_mem_toDigits (by decide) (by decide) hc
  rwa [toDigits_inj (toDigits_of_numeral hm head?_toDigits)] at hm

theorem integerText_negSucc (m : Nat) :
    Number.integerText (Int.negSucc m) = '-' :: Nat.toDigits 10 (m + 1) := by
  rw [Number.integerText, decide_eq_true (Int.negSucc_lt_zero m)]
  rfl

/-- An integer's own text is the canonical one. -/
theorem integerText_eq (n : Int) : Number.integerText n = (toString n).toList := by
  cases n with
  | ofNat m => exact String.toList_ofList.symm
  | negSucc m =>
    have hrepr : toString (Int.negSucc m) = "-" ++ String.ofList (Nat.toDigits 10 (m + 1)) := rfl
    simp [integerText_negSucc, hrepr]

/-- The text of a number is a literal that denotes it. -/
theorem integer_toString (n : Int) : Integer (toString n).toList n := by
  have hunsigned (m : Nat) : Unsigned (Nat.toDigits 10 m) m :=
    .decimal (numeral_toDigits m) head?_toDigits
  rw [← integerText_eq]
  cases n with
  | ofNat m => exact .bare (hunsigned m)
  | negSucc m =>
    rw [integerText_negSucc]
    exact .minus (hunsigned (m + 1))

end PanelLauncher.Literal
