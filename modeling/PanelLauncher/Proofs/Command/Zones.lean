import PanelLauncher.Command.Render
import PanelLauncher.Proofs.Command.Areas
import PanelLauncher.Proofs.Number.Text

/-!
# Zones in one argument

The zones of an area are one argument, with a comma between each two of them. Numbers and booleans
are written without commas, so that only a comma in a text could not be told from those between
zones; without one, splitting the argument gives the zones' texts back
(`LaunchConfig.zones_split_back`).
-/

namespace PanelLauncher

namespace Scalar

/-- Numbers and booleans are written with characters that mean nothing to a shell. -/
theorem isPlainChar_of_mem_render {s : Scalar} (hs : ∀ t, s ≠ .text t) {c : Char}
    (h : c ∈ s.render.toList) : isPlainChar c = true ∧ c ≠ ',' := by
  have halphanum {c : Char} (hc : c.isAlphanum = true) : isPlainChar c = true ∧ c ≠ ',' := by
    refine ⟨by simp [isPlainChar, hc], ?_⟩
    rintro rfl
    cases hc
  cases s with
  | bool value =>
    have hall : ∀ value, (bool value).render.toList.all Char.isAlphanum = true := by decide
    exact halphanum (List.all_eq_true.mp (hall value) c h)
  | number value =>
    rw [render, String.toList_ofList] at h
    rcases Number.mem_text h with hc | rfl | rfl
    · exact halphanum hc
    · decide
    · decide
  | text value => exact absurd rfl (hs value)

theorem comma_notMem_render {s : Scalar} (hs : ∀ t, s = .text t → ',' ∉ t.toList) :
    ',' ∉ s.render.toList := by
  intro h
  cases s with
  | text t => exact hs t rfl h
  | bool value => exact (isPlainChar_of_mem_render (by simp) h).2 rfl
  | number value => exact (isPlainChar_of_mem_render (by simp) h).2 rfl

end Scalar

namespace Build

variable {zones : List Scalar}

/-- The argument that zones are written as. -/
def zonesArg (zones : List Scalar) : String :=
  ",".intercalate (zones.map Scalar.render)

theorem toList_zonesArg (zones : List Scalar) :
    (zonesArg zones).toList = [','].intercalate (zones.map fun zone => zone.render.toList) := by
  rw [zonesArg, String.toList_intercalate, List.map_map]
  rfl

theorem splitOn_zonesArg (hne : zones ≠ [])
    (hcomma : ∀ t, .text t ∈ zones → ',' ∉ t.toList) :
    ((zonesArg zones).toList.splitOn ',').map String.ofList = zones.map Scalar.render := by
  have hpieces : ∀ piece ∈ zones.map fun zone => zone.render.toList, ',' ∉ piece := by
    intro piece hpiece
    obtain ⟨zone, hzone, rfl⟩ := List.mem_map.mp hpiece
    refine Scalar.comma_notMem_render ?_
    rintro t rfl
    exact hcomma t hzone
  rw [toList_zonesArg, List.splitOn_intercalate ',' hpieces (by simpa using hne), List.map_map]
  simp [Function.comp_def]

theorem isPlainChar_of_mem_zonesArg (htext : ∀ t, .text t ∉ zones) {c : Char}
    (h : c ∈ (zonesArg zones).toList) : isPlainChar c = true := by
  induction zones with
  | nil => cases h
  | cons zone rest ih =>
    have hzone : ∀ t, zone ≠ .text t := fun t ht => htext t (ht ▸ List.mem_cons_self)
    have hrest : ∀ t, .text t ∉ rest := fun t ht => htext t (List.mem_cons_of_mem _ ht)
    cases rest with
    | nil =>
      rw [zonesArg, List.map_singleton, String.intercalate_singleton] at h
      exact (Scalar.isPlainChar_of_mem_render hzone h).1
    | cons next rest =>
      rw [zonesArg, List.map_cons, List.map_cons, String.intercalate_cons_cons,
        String.toList_append, String.toList_append, List.mem_append, List.mem_append] at h
      rcases h with (h | h) | h
      · exact (Scalar.isPlainChar_of_mem_render hzone h).1
      · -- the comma itself is harmless to a shell
        rw [List.mem_singleton.mp h]
        decide
      · exact ih hrest h

/-- An argument without characters is one text without characters. -/
theorem zonesArg_ne_empty (hne : zones ≠ []) (htext : ∀ t, .text t ∉ zones) :
    zonesArg zones ≠ "" := by
  intro hempty
  have hsplit := splitOn_zonesArg hne fun t ht => absurd ht (htext t)
  rw [hempty] at hsplit
  have hmem : "" ∈ zones.map Scalar.render := by
    rw [← hsplit]
    decide
  obtain ⟨zone, hzone, hrender⟩ := List.mem_map.mp hmem
  rw [Scalar.render_eq_empty.mp hrender] at hzone
  exact htext _ hzone

theorem shellQuote_zonesArg (hne : zones ≠ []) (htext : ∀ t, .text t ∉ zones) :
    shellQuote (zonesArg zones).toList = (zonesArg zones).toList := by
  have hchars : (zonesArg zones).toList ≠ [] := by
    intro hnil
    exact zonesArg_ne_empty hne htext (String.toList_eq_nil_iff.mp hnil)
  have hplain : (zonesArg zones).toList.all isPlainChar = true :=
    List.all_eq_true.mpr fun c hc => isPlainChar_of_mem_zonesArg htext hc
  rw [shellQuote, if_pos]
  simp [hchars, hplain]

end Build

/-! ## Zones in a command -/

/-- An argument that is not quoted stands in the line as it is, between blanks or at the end. -/
theorem LaunchCommand.render_of_shellQuote_eq (program : String) (before after : List String)
    {value : String} (logFile : Option String)
    (h : shellQuote value.toList = value.toList) :
    (LaunchCommand.mk program (before ++ ["-z", value] ++ after) logFile).render =
      (LaunchCommand.mk program before none).render ++ " -z " ++ value ++
        String.ofList (after.flatMap (fun arg => ' ' :: shellQuote arg.toList) ++
          redirection logFile) := by
  have hflag : shellQuote ['-', 'z'] = ['-', 'z'] := by decide
  rw [← String.toList_inj]
  simp [render, line, redirection, h, hflag]

/-- The arguments of each area stand together. -/
theorem Build.exists_of_mem_areaListArgs {index : Nat} {area : AreaConfig}
    {areas : List AreaConfig} {args : List String} (hmem : area ∈ areas)
    (h : areaListArgs index areas = .ok args) :
    ∃ i before own after, areaArgs i area = .ok own ∧ args = before ++ own ++ after := by
  induction areas generalizing index args with
  | nil => cases hmem
  | cons first areas ih =>
    obtain ⟨own, rest, hfirst, hrest, rfl⟩ := areaListArgs_cons_eq_ok.mp h
    rcases List.mem_cons.mp hmem with rfl | hmem
    · exact ⟨index, [], own, rest, hfirst, rfl⟩
    · obtain ⟨i, before, own', after, hown', rfl⟩ := ih hmem hrest
      refine ⟨i, own ++ before, own', after, hown', ?_⟩
      simp only [List.append_assoc]

namespace LaunchConfig

variable {c : LaunchConfig} {zones : List Scalar}

theorem exists_args_of_mem {command : LaunchCommand} (h : c.build.result = .ok command)
    {areas : List AreaConfig} (hareas : c.areas = some areas) {num : Scalar}
    (hmem : ⟨some num, some zones⟩ ∈ areas) :
    ∃ before after,
      command.args = before ++ ["-a", num.render, "-z", Build.zonesArg zones] ++ after := by
  obtain ⟨device, mqtt, -, hdevice, hmqtt, -, -⟩ := build_eq_ok h
  have hsame : c.withAreas areas = c := by rw [withAreas, ← hareas]
  rw [← hsame, build_withAreas_eq_ok hdevice hmqtt] at h
  obtain ⟨args, hargs, rfl⟩ := h
  obtain ⟨i, before, own, after, hown, rfl⟩ := Build.exists_of_mem_areaListArgs hmem hargs
  cases hown
  refine ⟨Build.headArgs c device mqtt ++ before, after ++ Build.tailArgs c, ?_⟩
  simp only [List.append_assoc]
  rfl

/--
**The zones of an area can be told apart.** Zones are one argument, and unless a text among them has
a comma, splitting it at every comma gives the texts of the zones, each in its place. Where all are
numbers and booleans it is not empty and needs no quotes, and stands in the line of the command as
it is.
-/
theorem zones_split_back (hne : zones ≠ [])
    (hcomma : ∀ t, .text t ∈ zones → ',' ∉ t.toList) (num : Scalar) :
    ∃ value : String,
      (∀ index, Build.areaArgs index ⟨some num, some zones⟩ =
        .ok ["-a", num.render, "-z", value]) ∧
      (value.toList.splitOn ',').map String.ofList = zones.map Scalar.render ∧
      ((∀ t, .text t ∉ zones) → value ≠ "" ∧ shellQuote value.toList = value.toList) ∧
      ∀ (c : LaunchConfig) (command : LaunchCommand) (areas : List AreaConfig),
        c.build.result = .ok command → c.areas = some areas → ⟨some num, some zones⟩ ∈ areas →
        ∃ before after, command.args = before ++ ["-a", num.render] ++ ["-z", value] ++ after ∧
          ((∀ t, .text t ∉ zones) → command.render =
            (LaunchCommand.mk command.program (before ++ ["-a", num.render]) none).render ++
              " -z " ++ value ++ String.ofList
                (after.flatMap (fun arg => ' ' :: shellQuote arg.toList) ++
                  LaunchCommand.redirection command.logFile)) := by
  refine ⟨Build.zonesArg zones, fun _ => rfl, Build.splitOn_zonesArg hne hcomma, fun htext =>
    ⟨Build.zonesArg_ne_empty hne htext, Build.shellQuote_zonesArg hne htext⟩, ?_⟩
  intro c command areas h hareas hmem
  obtain ⟨before, after, hargs⟩ := exists_args_of_mem h hareas hmem
  have hargs' : command.args =
      before ++ ["-a", num.render] ++ ["-z", Build.zonesArg zones] ++ after := by
    rw [hargs]
    simp
  refine ⟨before, after, hargs', fun htext => ?_⟩
  rw [← LaunchCommand.render_of_shellQuote_eq _ _ _ _ (Build.shellQuote_zonesArg hne htext),
    ← hargs']

/-- Zones of all kinds; the empty text is one of them. -/
theorem zones_split_back_mixed :
    ∃ value : String, value = "true,-7,,-0.0,.inf" ∧
      (value.toList.splitOn ',').map String.ofList = ["true", "-7", "", "-0.0", ".inf"] := by
  have hne : ([.bool true, .number (.int (-7) (by decide)), .text "",
      .number (.float (.finite true .zero)), .number (.float (.infinite false))] :
        List Scalar) ≠ [] := by
    simp
  obtain ⟨value, hargs, hsplit, -⟩ := zones_split_back hne (by simp) (.text "")
  have hvalue := hargs 0
  refine ⟨value, ?_, hsplit⟩
  cases hvalue
  decide

end LaunchConfig

end PanelLauncher
