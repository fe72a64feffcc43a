import PanelLauncher.Proofs.Config.Digits
import PanelLauncher.Proofs.Number.Float

/-!
# Floats in a configuration

A float survives being written: its text stands for it and for nothing else, and no other number
has that text. So a configuration that is written anew keeps its floats, and keeps them floats.
-/

namespace PanelLauncher.Config

open Yaml
open Literal (HasMark)

variable {x : Binary64}

/-! ## The value of a float's text -/

theorem ofPlain_of_hasMark {s : String} {cs : List Char} {negative : Bool}
    (hs : s.toList = Binary64.sign negative ++ cs) (h : HasMark cs) :
    Value.ofPlain s = (Value.readFloat? s).getD (.text s) := by
  have hwords : s ∉ Value.words := by
    intro hmem
    have hmark : Binary64.sign negative ++ cs ∉ Value.words.map String.toList :=
      h.not_mem negative (by decide)
    rw [← hs] at hmark
    exact hmark (List.mem_map_of_mem hmem)
  have hread : Value.readInt? s = none := by
    unfold Value.readInt? Literal.readInteger?
    rw [hs, h.splitSign]
    simp [h.readUnsigned?]
  rw [Value.ofPlain_of_not_mem_words hwords, hread, Option.getD_none, hs, h.splitSign, if_neg]
  rw [h.hasLeadingZero]
  exact Bool.false_ne_true

theorem toList_render_float (x : Binary64) :
    (Scalar.render (.number (.float x))).toList = x.text Number.configFormat :=
  String.toList_ofList

theorem ofPlain_render_float (x : Binary64) :
    Value.ofPlain (Scalar.render (.number (.float x))) = .number (.float x) := by
  cases x with
  | nan => decide +kernel
  | infinite negative => cases negative <;> decide +kernel
  | finite negative m =>
    obtain ⟨cs, d, htext, hmark, -⟩ :=
      Literal.exists_text_finite Number.configFormat negative m
    have hs := toList_render_float (.finite negative m)
    rw [ofPlain_of_hasMark (hs.trans htext) hmark, Value.readFloat?, hs, Literal.readFloat?_text]
    rfl

theorem ofPlain_render (number : Number) :
    Value.ofPlain (Scalar.render (.number number)) = .number number := by
  cases number with
  | int n inRange =>
    have hfits : Value.Fits64 n := Value.fits64_iff.mpr inRange
    rw [render_int hfits, Value.ofPlain_of_fits64 (Literal.integer_toString n) hfits]
  | float x => exact ofPlain_render_float x

/-- Of all numbers no two have the same text. -/
theorem render_number_inj {m n : Number}
    (h : Scalar.render (.number m) = Scalar.render (.number n)) : m = n := by
  have hvalue : Value.number m = .number n := by rw [← ofPlain_render, h, ofPlain_render]
  exact Value.number.inj hvalue

/-! ## Floats -/

theorem loadsAs_render (number : Number) :
    LoadsAs (Scalar.render (.number number)) (.number number) :=
  loadsAs_of_ofPlain (by rw [ofPlain_render]; rfl)

/--
**Floats are written without loss and stay floats.** The text of a float stands for that float, for
no integer, boolean, null or text, and is loaded as it wherever a configuration holds it, so that
it is written the same again; no other number has that text. The digits of a finite float are the
shortest ones, and as they are laid out the float is the nearest one to them.
-/
theorem floats_load_exactly (x : Binary64) :
    Value.ofPlain (Scalar.render (.number (.float x))) = .number (.float x) ∧
    (∀ v, LoadsAs (Scalar.render (.number (.float x))) v ↔ v = .number (.float x)) ∧
    (∀ v, LoadsAs (Scalar.render (.number (.float x))) v →
      v.render = Scalar.render (.number (.float x))) ∧
    (∀ number, Scalar.render (.number number) = Scalar.render (.number (.float x)) →
      number = .float x) ∧
    ∀ negative m, x = .finite negative m →
      ∃ cs d, (Scalar.render (.number (.float x))).toList = Binary64.sign negative ++ cs ∧
        Literal.readDecimal? cs = some d ∧ d.units = m.shortest.units ∧
        m.IsShortest m.shortest ∧ m.IsNearest d.units := by
  refine ⟨ofPlain_render _, fun v => ⟨fun h => h.unique (loadsAs_render _), ?loads⟩,
    fun v h => ?again, fun number h => render_number_inj h, ?digits⟩
  case loads =>
    rintro rfl
    exact loadsAs_render _
  case again => rw [h.unique (loadsAs_render _)]
  case digits =>
    rintro negative m rfl
    obtain ⟨cs, d, htext, -, hread, hunits, hmagnitude⟩ :=
      Literal.exists_text_finite Number.configFormat negative m
    exact ⟨cs, d, (toList_render_float _).trans htext, hread, hunits, m.isShortest_shortest,
      Decimal.magnitude?_eq_some.mp hmagnitude⟩

/-- The float `2`, whose mantissa is at the lower end of a binade. -/
def sampleTwo : Magnitude :=
  (Magnitude.ofRounded? 4503599627370496 1023).getD .zero

/-- The least float above zero. -/
def sampleLeast : Magnitude :=
  (Magnitude.ofRounded? 1 0).getD .zero

theorem floats_load_exactly_ends :
    LoadsAs "2.0" (.number (.float (.finite false sampleTwo))) ∧
    LoadsAs "-5e-324" (.number (.float (.finite true sampleLeast))) ∧
    LoadsAs "-0.0" (.number (.float (.finite true .zero))) ∧
    LoadsAs "-.inf" (.number (.float (.infinite true))) := by
  have htwo : Scalar.render (.number (.float (.finite false sampleTwo))) = "2.0" := by
    decide +kernel
  have hleast : Scalar.render (.number (.float (.finite true sampleLeast))) = "-5e-324" := by
    decide +kernel
  have hzero : Scalar.render (.number (.float (.finite true .zero))) = "-0.0" := by decide +kernel
  have hinfinite : Scalar.render (.number (.float (.infinite true))) = "-.inf" := by decide +kernel
  refine ⟨?_, ?_, ?_, ?_⟩
  · exact htwo ▸ ((floats_load_exactly (.finite false sampleTwo)).2.1 _).mpr rfl
  · exact hleast ▸ ((floats_load_exactly (.finite true sampleLeast)).2.1 _).mpr rfl
  · exact hzero ▸ ((floats_load_exactly (.finite true .zero)).2.1 _).mpr rfl
  · exact hinfinite ▸ ((floats_load_exactly (.infinite true)).2.1 _).mpr rfl

end PanelLauncher.Config
