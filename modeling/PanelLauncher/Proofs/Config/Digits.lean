import PanelLauncher.Proofs.Config.Loading
import PanelLauncher.Proofs.Config.Position

/-!
# Integers and codes of digits

An integer is in the configuration exactly, whatever its radix, or the document is refused: none
becomes another integer. Digits with a zero in front keep their text, so that a code of digits
reaches the daemon as it is written.
-/

namespace PanelLauncher.Config

open Yaml Decode
open Yaml.Value (Fits64 Fits128 InGap fits64_iff)

/-- A plain text is read as a scalar wherever one is read, and is that scalar in each configuration
from a document that holds it. -/
structure LoadsAs (s : String) (v : Scalar) : Prop where
  read : ∀ (p : Place) (mark : Mark) (j : Nat),
    scalar p (.scalar mark none true s) j = .ok (v, j)
  holds : ∀ (d : Document) (position : Position) (c : LaunchConfig), Holds d position s →
    Decode.run launch .empty d = .ok c → position.scalar? c = some v

/-- No scalar is read from a plain text, and no document that holds it loads. -/
structure IsRefused (s : String) : Prop where
  read : ∀ (p : Place) (mark : Mark) (j : Nat) (r : Scalar × Nat),
    scalar p (.scalar mark none true s) j ≠ .ok r
  holds : ∀ (d : Document) (position : Position) (c : LaunchConfig), Holds d position s →
    Decode.run launch .empty d ≠ .ok c

variable {s : String} {v : Scalar} {n : Int}

/-! ## Reading plain scalars -/

theorem loadsAs_of_ofPlain (h : (Value.ofPlain s).scalar? = some v) : LoadsAs s v where
  read p mark j := by
    have hscalar : (Node.scalar mark none true s).scalar? = some v := h
    refine (reads_scalar.eq_ok (Nat.zero_le _) .scalar).mpr ⟨?_, v, hscalar, rfl⟩
    rw [← isSome_scalar?, hscalar, Option.isSome_some]
  holds d position c hd hc := by
    have hnull : s ∉ Value.nulls := by
      intro hnull
      rw [Value.ofPlain_of_mem_nulls hnull] at h
      cases h
    obtain ⟨v', hv, hv'⟩ := exists_scalar?_of_holds hd hnull hc
    rw [hv, ← hv', h]

theorem isRefused_of_inGap (h : InGap s) : IsRefused s where
  read p mark j r hr := by
    obtain ⟨⟨hvalue, -⟩, -⟩ := (reads_scalar.eq_ok (Nat.zero_le _) .scalar).mp hr
    exact hvalue rfl h
  holds d position c hd hc := by
    obtain ⟨n, hwide⟩ := Value.ofPlain_eq_wide.mpr h
    have hnull : s ∉ Value.nulls := by
      intro hnull
      rw [Value.ofPlain_of_mem_nulls hnull] at hwide
      cases hwide
    obtain ⟨v, -, hv⟩ := exists_scalar?_of_holds hd hnull hc
    rw [hwide] at hv
    cases hv

theorem IsRefused.not_loadsAs (h : IsRefused s) : ¬ LoadsAs s v :=
  fun h' => h.read ⟨⟨none, [], 0⟩, .root, 0⟩ .start 0 _ (h'.read _ _ _)

theorem LoadsAs.unique {v' : Scalar} (h : LoadsAs s v) (h' : LoadsAs s v') : v = v' := by
  have hread := (h.read ⟨⟨none, [], 0⟩, .root, 0⟩ .start 0).symm.trans (h'.read _ _ _)
  cases hread
  rfl

/-! ## Integers -/

theorem render_int (h : Fits64 n) :
    Scalar.render (.number (.int n (fits64_iff.mp h))) = toString n := by
  rw [Scalar.render, Number.text, Literal.integerText_eq, String.ofList_toList]

theorem loadsAs_of_fits64 (h : Literal.Integer s.toList n) (hn : Fits64 n) :
    LoadsAs s (.number (.int n (fits64_iff.mp hn))) :=
  loadsAs_of_ofPlain (by rw [Value.ofPlain_of_fits64 h hn]; rfl)

theorem loadsAs_of_not_fits128 (h : Literal.Integer s.toList n) (hn : ¬ Fits128 n) :
    LoadsAs s (.text s) ∨ ∃ x, LoadsAs s (.number (.float x)) := by
  obtain hs | ⟨x, hs⟩ := Value.ofPlain_of_not_fits128 h hn
  · exact .inl (loadsAs_of_ofPlain (by rw [hs]; rfl))
  · exact .inr ⟨x, loadsAs_of_ofPlain (by rw [hs]; rfl)⟩

/-- An integer literal loads as no other integer. -/
theorem eq_of_loadsAs (h : Literal.Integer s.toList n) {m : Int}
    {hm : -9223372036854775808 ≤ m ∧ m < 18446744073709551616}
    (hload : LoadsAs s (.number (.int m hm))) : m = n := by
  by_cases h64 : Fits64 n
  · cases hload.unique (loadsAs_of_fits64 h h64)
    rfl
  · by_cases h128 : Fits128 n
    · exact ((isRefused_of_inGap ⟨n, h, h128, h64⟩).not_loadsAs hload).elim
    · obtain htext | ⟨x, hfloat⟩ := loadsAs_of_not_fits128 h h128
      · cases hload.unique htext
      · cases hload.unique hfloat

/-! ## Digits -/

theorem loadsAs_of_leadingZero {sign digits : List Char} (hs : s.toList = sign ++ digits)
    (hsign : sign ∈ [[], ['+'], ['-']]) (hdigits : ∀ c ∈ digits, c.isDigit = true)
    (hlength : 2 ≤ digits.length) (hzero : digits.head? = some '0') : LoadsAs s (.text s) := by
  have hsplit : (Literal.splitSign s.toList).2 = digits := by
    rw [hs]
    simp only [List.mem_cons, List.not_mem_nil, or_false] at hsign
    obtain rfl | rfl | rfl := hsign
    · rw [List.nil_append, Literal.splitSign_of_isDigit hdigits]
    · rfl
    · rfl
  have hleading : Literal.hasLeadingZero (Literal.splitSign s.toList).2 = true := by
    rw [hsplit]
    exact Literal.hasLeadingZero_eq_true.mpr ⟨hzero, hlength, hdigits⟩
  exact loadsAs_of_ofPlain (by rw [Value.ofPlain_of_hasLeadingZero hleading]; rfl)

/-- Digits without a superfluous zero are the text of the number that they denote. -/
theorem exists_loadsAs_of_numeral {m : Nat} (h : Literal.Numeral 10 s.toList m) (hm : m < 2 ^ 64)
    (hzero : s.toList.head? = some '0' → s.toList = ['0']) : ∃ v, LoadsAs s v ∧ v.render = s := by
  have hliteral : Literal.Integer s.toList m := .bare (.decimal h hzero)
  have hfits : Fits64 m := ⟨by omega, by exact_mod_cast hm⟩
  refine ⟨_, loadsAs_of_fits64 hliteral hfits, ?_⟩
  rw [render_int hfits, ← String.toList_inj, ← Literal.integerText_eq]
  exact Literal.toDigits_of_numeral h hzero

/-- Digits that are a code or a number of 64 bits keep their text. -/
theorem exists_loadsAs_of_digits (hdigits : ∀ c ∈ s.toList, c.isDigit = true)
    (hs : s.toList.head? = some '0' ∨ ∃ m < 2 ^ 64, Literal.Numeral 10 s.toList m) :
    ∃ v, LoadsAs s v ∧ v.render = s := by
  by_cases hzero : s.toList.head? = some '0' → s.toList = ['0']
  · obtain hhead | ⟨m, hm, hnumeral⟩ := hs
    · have hnumeral : Literal.Numeral 10 s.toList 0 := by
        rw [hzero hhead]
        exact Literal.numeral_toDigits 0
      exact exists_loadsAs_of_numeral hnumeral (by decide) hzero
    · exact exists_loadsAs_of_numeral hnumeral hm hzero
  · obtain ⟨hhead, hlong⟩ := Classical.not_imp.mp hzero
    have hlength : 2 ≤ s.toList.length := by
      match s.toList, hhead, hlong with
      | [_], hhead, hlong => exact absurd (by simpa using hhead) hlong
      | _ :: _ :: _, _, _ => simp
    exact ⟨.text s, loadsAs_of_leadingZero (List.nil_append _).symm (by simp) hdigits hlength hhead,
      rfl⟩

/--
**Integers and codes of digits are exact.** An integer literal is the number that it denotes, with
its canonical text, if 64 bits hold it; it is refused if only 128 bits do, and it is no integer if
it is longer, so that none becomes another one. Digits with a superfluous zero keep their text. So
digits that are a code or a number of 64 bits are what the daemon is told, just as written.
-/
theorem integers_load_exactly (s : String) :
    (∀ n, Literal.Integer s.toList n →
      (∀ h : Fits64 n, LoadsAs s (.number (.int n (fits64_iff.mp h))) ∧
        Scalar.render (.number (.int n (fits64_iff.mp h))) = toString n ∧
        LoadsAs (toString n) (.number (.int n (fits64_iff.mp h)))) ∧
      (Fits128 n → ¬ Fits64 n → IsRefused s) ∧
      (¬ Fits128 n → LoadsAs s (.text s) ∨ ∃ x, LoadsAs s (.number (.float x))) ∧
      ∀ m hm, LoadsAs s (.number (.int m hm)) → m = n) ∧
    (∀ sign digits, s.toList = sign ++ digits → sign ∈ [[], ['+'], ['-']] →
      (∀ c ∈ digits, c.isDigit = true) → 2 ≤ digits.length → digits.head? = some '0' →
      LoadsAs s (.text s)) ∧
    (s ≠ "" → (∀ c ∈ s.toList, c.isDigit = true) →
      (s.toList.head? = some '0' ∨ ∃ m < 2 ^ 64, Literal.Numeral 10 s.toList m) →
      (∃ v, LoadsAs s v ∧ v.render = s) ∧
      ∀ d position c command, Holds d (.value position) s →
        Decode.run launch .empty d = .ok c → c.build.result = .ok command →
        ∃ o, Options.ofArgs? command.args = some o ∧ position.IsTold o s) := by
  refine ⟨fun n hn => ⟨fun h => ?fits, ?gap, loadsAs_of_not_fits128 hn, fun m hm => ?same⟩,
    fun _ _ => loadsAs_of_leadingZero, fun hne hdigits hs => ?digits⟩
  case fits =>
    exact ⟨loadsAs_of_fits64 hn h, render_int h,
      loadsAs_of_fits64 (Literal.integer_toString n) h⟩
  case gap => exact fun h128 h64 => isRefused_of_inGap ⟨n, hn, h128, h64⟩
  case same => exact fun h => eq_of_loadsAs hn h
  case digits =>
    obtain ⟨v, hv, hrender⟩ := exists_loadsAs_of_digits hdigits hs
    refine ⟨⟨v, hv, hrender⟩, fun d position c command hd hload hbuild => ?_⟩
    obtain ⟨o, hread, hasks⟩ := LaunchConfig.ofArgs?_eq_some hbuild
    have htold := isTold_of_asks hasks (hv.holds d _ c hd hload) fun _ => hrender ▸ hne
    exact ⟨o, hread, hrender ▸ htold⟩

/-- Codes and numbers of digits; the user code is given by an alias. -/
def digitsDocument : Document :=
  ⟨some (sampleMapping [("device", sampleScalar "0"), ("mqtt", sampleMapping []),
    ("areas", sampleList [sampleMapping [("num", sampleScalar "01"),
      ("zones", sampleList [sampleScalar "7", sampleScalar "18446744073709551615"])]]),
    ("user_code", .reference .start 1)]), [(1, sampleScalar "0012")], 22⟩

def digitsConfig : LaunchConfig :=
  { LaunchConfig.empty with
    device := some (.number (.int 0 (by decide)))
    mqtt := some .empty
    areas := some [⟨some (.text "01"), some [.number (.int 7 (by decide)),
      .number (.int 18446744073709551615 (by decide))]⟩]
    userCode := some (.text "0012") }

theorem integers_load_exactly_digits :
    Decode.run launch .empty digitsDocument = .ok digitsConfig ∧
    (∃ o, Options.ofArgs? ["-d", "0", "-a", "01", "-z", "7,18446744073709551615", "-u", "0012"] =
      some o ∧ o.value .userCode = some "0012") ∧
    LoadsAs "+0x10" (.number (.int 16 (by decide))) ∧ LoadsAs "-007" (.text "-007") ∧
    IsRefused "18446744073709551616" := by
  have hrun : Decode.run launch .empty digitsDocument = .ok digitsConfig :=
    toOption_eq_some.mp (by decide +kernel)
  have hbuild : digitsConfig.build.result = .ok ⟨LaunchConfig.defaultBinary,
      ["-d", "0", "-a", "01", "-z", "7,18446744073709551615", "-u", "0012"], none⟩ := by
    decide +kernel
  have hholds : Holds digitsDocument (.value .userCode) "0012" :=
    ⟨_, .reference .start 1, .start, rfl,
      ⟨_, _, _, sampleScalar "user_code", .inl rfl, by simp, _, _, _, .inl rfl⟩,
      .inr ⟨_, 1, rfl, rfl⟩⟩
  have hsixteen : Literal.Integer "+0x10".toList 16 :=
    Literal.readInteger?_eq_some.mp (by decide)
  have hlong : Literal.Integer "18446744073709551616".toList 18446744073709551616 :=
    Literal.readInteger?_eq_some.mp (by decide)
  obtain ⟨-, -, hdigits⟩ := integers_load_exactly "0012"
  obtain ⟨o, hread, htold⟩ :=
    (hdigits (by decide) (List.all_eq_true.mp rfl) (.inl rfl)).2 _ _ _ _ hholds hrun hbuild
  refine ⟨hrun, ⟨o, hread, htold⟩, ?_, ?_, ?_⟩
  · exact (((integers_load_exactly _).1 _ hsixteen).1 (by decide)).1
  · exact (integers_load_exactly _).2.1 ['-'] ['0', '0', '7'] rfl (by simp)
      (List.all_eq_true.mp rfl) (by decide) rfl
  · exact ((integers_load_exactly _).1 _ hlong).2.1 (by decide) (by decide)

end PanelLauncher.Config
