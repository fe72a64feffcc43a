import PanelLauncher.Proofs.Config.Reader

/-!
# Which documents load, and as what

A document loads if it is a configuration, as what it says. The order of keys does not count, nor
do unknown keys, nor whether an absent value is written as null or not at all.
-/

namespace PanelLauncher.Config

open Yaml Decode

/-! ## The same settings in other words -/

/-- Entries that differ in their order, in unknown keys, in which absent values are written out and
in values that are `alike`. -/
inductive Reworded (names : List String) (alike : String → Node → Node → Prop) :
    List (Node × Node) → List (Node × Node) → Prop
  | perm {es es' : List (Node × Node)} (h : es.Perm es') : Reworded names alike es es'
  | unknown {es : List (Node × Node)} {key value : Node} {name : String}
      (hkey : key.text? = some name) (hname : name ∉ names) :
      Reworded names alike es ((key, value) :: es)
  | absent {es : List (Node × Node)} {key value : Node} {name : String}
      (hkey : key.text? = some name) (hvalue : value.isNull) (hes : Node.valuesOf name es = []) :
      Reworded names alike es ((key, value) :: es)
  | value {es : List (Node × Node)} {key key' value value' : Node} {name : String}
      (hkey : key.text? = some name) (hkey' : key'.text? = some name)
      (hvalue : alike name value value') :
      Reworded names alike ((key, value) :: es) ((key', value') :: es)
  | symm {es es' : List (Node × Node)} (h : Reworded names alike es es') :
      Reworded names alike es' es
  | trans {es es' es'' : List (Node × Node)} (h : Reworded names alike es es')
      (h' : Reworded names alike es' es'') : Reworded names alike es es''

/-- Mappings with reworded entries. -/
def RewordedMapping (names : List String) (alike : String → Node → Node → Prop) :
    Node → Node → Prop
  | .mapping _ _ es, .mapping _ _ es' => Reworded names alike es es'
  | _, _ => False

/-- A scalar at two places, written the same. -/
def SameScalar : Node → Node → Prop
  | .scalar _ _ isPlain text, .scalar _ _ isPlain' text' => isPlain = isPlain' ∧ text = text'
  | _, _ => False

/-- Scalars that are written the same, or both null. -/
def ScalarAlike (value value' : Node) : Prop :=
  value.isNull ∧ value'.isNull ∨ SameScalar value value'

/-- Values of an area that say the same. -/
inductive AreaAlike : String → Node → Node → Prop
  | scalar {name : String} {value value' : Node} (h : ScalarAlike value value') :
      AreaAlike name value value'
  | zones {mark mark' : Mark} {tag tag' : Option Tag} {items items' : List Node}
      (h : List.Forall₂ SameScalar items items') :
      AreaAlike "zones" (.sequence mark tag items) (.sequence mark' tag' items')

/-- Values of a configuration that say the same. An area is written the same if it is nothing. -/
inductive Alike : String → Node → Node → Prop
  | scalar {name : String} {value value' : Node} (h : ScalarAlike value value') :
      Alike name value value'
  | mqtt {value value' : Node}
      (h : RewordedMapping mqttSchema.names (fun _ => ScalarAlike) value value') :
      Alike "mqtt" value value'
  | areas {mark mark' : Mark} {tag tag' : Option Tag} {items items' : List Node}
      (h : List.Forall₂ (fun item item' => SameScalar item item' ∨
        RewordedMapping areaSchema.names AreaAlike item item') items items') :
      Alike "areas" (.sequence mark tag items) (.sequence mark' tag' items')

/-! ## Rewording keeps what is said -/

section

variable {σ : Type} {table : List (Decode.Field σ)} {room : Nat} {schema : Schema}
  {build : (String → Option Node) → σ} {alike : String → Node → Node → Prop}
  {es es' es'' : List (Node × Node)}

/-- Both conform or neither does, and if they do they say the same. -/
structure SameSettings (schema : Schema) (build : (String → Option Node) → σ)
    (es es' : List (Node × Node)) : Prop where
  conforms : Conforms schema es ↔ Conforms schema es'
  build_eq : Conforms schema es →
    build (overlay (fun _ => none) es) = build (overlay (fun _ => none) es')

theorem SameSettings.symm (h : SameSettings schema build es es') :
    SameSettings schema build es' es where
  conforms := h.conforms.symm
  build_eq hes' := (h.build_eq (h.conforms.mpr hes')).symm

theorem SameSettings.trans (h : SameSettings schema build es es')
    (h' : SameSettings schema build es' es'') : SameSettings schema build es es'' where
  conforms := h.conforms.trans h'.conforms
  build_eq hes := (h.build_eq hes).trans (h'.build_eq (h.conforms.mp hes))

theorem conforms_of_perm (h : es.Perm es') (hes : Conforms schema es) : Conforms schema es' where
  keys e he := hes.keys e (h.mem_iff.mpr he)
  once k hk := (h.filterMap _).length_eq ▸ hes.once k hk
  values k hk n hn := hes.values k hk n ((h.filterMap _).mem_iff.mpr hn)

/-- Where a key comes once at most, the order of the entries does not count. -/
theorem overlay_of_perm {vs : String → Option Node} {name : String} (h : es.Perm es')
    (hes : (Node.valuesOf name es).length ≤ 1) : overlay vs es name = overlay vs es' name := by
  have hperm : (Node.valuesOf name es).Perm (Node.valuesOf name es') := h.filterMap _
  have heq : Node.valuesOf name es = Node.valuesOf name es' := by
    match hvalues : Node.valuesOf name es with
    | [] => rw [hvalues] at hperm; exact (List.nil_perm.mp hperm).symm
    | [n] => rw [hvalues] at hperm; exact (List.singleton_perm.mp hperm)
    | _ :: _ :: _ => simp [hvalues] at hes
  rw [overlay, overlay, heq]

theorem SameSettings.of_perm (h : Describes table room schema build) (hes : es.Perm es') :
    SameSettings schema build es es' where
  conforms := ⟨conforms_of_perm hes, conforms_of_perm hes.symm⟩
  build_eq hconforms := h.congr fun k hk => overlay_of_perm hes (hconforms.once k hk)

variable {key key' value value' : Node} {name : String}

theorem SameSettings.of_unknown (h : Describes table room schema build)
    (hkey : key.text? = some name) (hname : ∀ k ∈ schema, k.1 ≠ name) :
    SameSettings schema build es ((key, value) :: es) where
  conforms := (conforms_cons_of_unknown hkey hname).symm
  build_eq _ := h.congr fun k hk => (overlay_cons_of_ne hkey (hname k hk).symm).symm

theorem SameSettings.of_isNull (h : Describes table room schema build)
    {k : String × (Node → Prop)} (hk : k ∈ schema) (hkey : key.text? = some k.1)
    (hvalue : value.isNull) (hes : Node.valuesOf k.1 es = []) :
    SameSettings schema build es ((key, value) :: es) where
  conforms := by
    rw [conforms_cons_of_mem h.distinct hk hkey]
    exact ⟨fun hconforms => ⟨.inl hvalue, hes, hconforms⟩, fun hconforms => hconforms.2.2⟩
  build_eq _ := by
    have hnone : Function.update (fun _ => none) k.1 none = fun _ => (none : Option Node) :=
      Function.update_eq_self k.1 _
    rw [overlay_cons_of_eq hkey, Node.unlessNull, if_pos hvalue, ← overlay_update hes, hnone]

/-- Values of a known key that may stand for one another. -/
structure Interchangeable (build : (String → Option Node) → σ) (k : String × (Node → Prop))
    (value value' : Node) : Prop where
  iff : value.isNull ∨ k.2 value ↔ value'.isNull ∨ k.2 value'
  build_eq : value.isNull ∨ k.2 value → ∀ vs,
    build (Function.update vs k.1 value.unlessNull) =
      build (Function.update vs k.1 value'.unlessNull)

theorem Interchangeable.of_isNull {k : String × (Node → Prop)} (h : value.isNull)
    (h' : value'.isNull) : Interchangeable build k value value' where
  iff := by simp [h, h']
  build_eq _ vs := by rw [Node.unlessNull, if_pos h, Node.unlessNull, if_pos h']

theorem SameSettings.of_mem (h : Describes table room schema build)
    {k : String × (Node → Prop)} (hk : k ∈ schema) (hkey : key.text? = some k.1)
    (hkey' : key'.text? = some k.1) (hvalue : Interchangeable build k value value') :
    SameSettings schema build ((key, value) :: es) ((key', value') :: es) where
  conforms := by
    rw [conforms_cons_of_mem h.distinct hk hkey, conforms_cons_of_mem h.distinct hk hkey',
      hvalue.iff]
  build_eq hconforms := by
    obtain ⟨hvalue', -⟩ := (conforms_cons_of_mem h.distinct hk hkey).mp hconforms
    rw [overlay_cons_of_eq hkey, overlay_cons_of_eq hkey']
    exact hvalue.build_eq hvalue' _

/-- A table reads reworded entries alike if alike values may stand for one another. -/
theorem SameSettings.of_reworded (h : Describes table room schema build)
    (halike : ∀ k ∈ schema, ∀ value value', alike k.1 value value' →
      Interchangeable build k value value')
    (hes : Reworded schema.names alike es es') : SameSettings schema build es es' := by
  have hunknown {name : String} (hname : name ∉ schema.names) : ∀ k ∈ schema, k.1 ≠ name :=
    fun k hk heq => hname (List.mem_map.mpr ⟨k, hk, heq⟩)
  induction hes with
  | perm hes => exact SameSettings.of_perm h hes
  | unknown hkey hname => exact SameSettings.of_unknown h hkey (hunknown hname)
  | @absent es key value name hkey hvalue hes =>
    by_cases hname : name ∈ schema.names
    · obtain ⟨k, hk, rfl⟩ := List.mem_map.mp hname
      exact SameSettings.of_isNull h hk hkey hvalue hes
    · exact SameSettings.of_unknown h hkey (hunknown hname)
  | @value es key key' value value' name hkey hkey' hvalue =>
    by_cases hname : name ∈ schema.names
    · obtain ⟨k, hk, rfl⟩ := List.mem_map.mp hname
      exact SameSettings.of_mem h hk hkey hkey' (halike k hk _ _ hvalue)
    · exact (SameSettings.of_unknown h hkey (hunknown hname)).symm.trans
        (.of_unknown h hkey' (hunknown hname))
  | symm _ ih => exact ih.symm
  | trans _ _ ih ih' => exact ih.trans ih'

/-- Reworded mappings are records alike, and say the same. -/
theorem isRecordOf_of_reworded (h : Describes table room schema build)
    (halike : ∀ k ∈ schema, ∀ value value', alike k.1 value value' →
      Interchangeable build k value value')
    (hvalue : RewordedMapping schema.names alike value value') :
    (IsRecordOf schema value ↔ IsRecordOf schema value') ∧
      (IsRecordOf schema value → build value.under = build value'.under) := by
  cases value with
  | mapping mark tag es =>
    cases value' with
    | mapping mark' tag' es' =>
      have hsame := SameSettings.of_reworded h halike hvalue
      rw [under_mapping, under_mapping]
      exact ⟨hsame.conforms, hsame.build_eq⟩
    | _ => exact hvalue.elim
  | _ => exact hvalue.elim

end

/-! ## Configurations in other words -/

theorem not_isNull_of_rewordedMapping {names : List String} {alike : String → Node → Node → Prop}
    {value value' : Node} (h : RewordedMapping names alike value value') :
    value.isNull = false ∧ value'.isNull = false := by
  cases value <;> cases value' <;> first | exact ⟨rfl, rfl⟩ | exact h.elim

theorem SameScalar.exists_eq {value value' : Node} (h : SameScalar value value') :
    ∃ mark mark' tag tag' isPlain text, value = .scalar mark tag isPlain text ∧
      value' = .scalar mark' tag' isPlain text := by
  cases value with
  | scalar mark tag isPlain text =>
    cases value' with
    | scalar mark' tag' isPlain' text' =>
      obtain ⟨rfl, rfl⟩ := h
      exact ⟨mark, mark', tag, tag', isPlain, text, rfl, rfl⟩
    | _ => exact h.elim
  | _ => exact h.elim

section Scalars

variable {mark mark' : Mark} {tag tag' : Option Tag} {isPlain : Bool} {text : String}

/-- A setting does not tell where a scalar is. -/
theorem update_bind_eq {β : Type} {f : Node → Option β}
    (h : f (.scalar mark tag isPlain text) = f (.scalar mark' tag' isPlain text))
    (vs : String → Option Node) (name name' : String) :
    (Function.update vs name (some (.scalar mark tag isPlain text)) name').bind f =
      (Function.update vs name (some (.scalar mark' tag' isPlain text)) name').bind f := by
  by_cases hname : name' = name
  · subst hname
    simpa using h
  · simp [Function.update_of_ne hname]

variable (vs : String → Option Node) (name : String)

theorem mqttOf_update_scalar :
    mqttOf (Function.update vs name (some (.scalar mark tag isPlain text))) =
      mqttOf (Function.update vs name (some (.scalar mark' tag' isPlain text))) := by
  have hscalar := @update_bind_eq mark mark' tag tag' isPlain text _ Node.scalar? rfl vs name
  simp only [mqttOf, hscalar]

theorem areaOf_update_scalar :
    areaOf (Function.update vs name (some (.scalar mark tag isPlain text))) =
      areaOf (Function.update vs name (some (.scalar mark' tag' isPlain text))) := by
  have hscalar := @update_bind_eq mark mark' tag tag' isPlain text _ Node.scalar? rfl vs name
  have hzones := @update_bind_eq mark mark' tag tag' isPlain text _
    (fun n => some (n.items.filterMap Node.scalar?)) rfl vs name
  simp only [areaOf, Option.map_eq_bind, Function.comp_def, hscalar, hzones]

theorem launchOf_update_scalar :
    launchOf (Function.update vs name (some (.scalar mark tag isPlain text))) =
      launchOf (Function.update vs name (some (.scalar mark' tag' isPlain text))) := by
  have hscalar := @update_bind_eq mark mark' tag tag' isPlain text _ Node.scalar? rfl vs name
  have htext := @update_bind_eq mark mark' tag tag' isPlain text _ Node.text? rfl vs name
  have hmqtt := @update_bind_eq mark mark' tag tag' isPlain text _
    (fun n => some (mqttOf n.under)) rfl vs name
  have hareas := @update_bind_eq mark mark' tag tag' isPlain text _
    (fun n => some (n.items.map fun item => areaOf item.under)) rfl vs name
  simp only [launchOf, Option.map_eq_bind, Function.comp_def, hscalar, htext, hmqtt, hareas]

end Scalars

/-- Scalars may stand for one another if neither the schema nor the structure tells where they
are. -/
theorem Interchangeable.of_scalarAlike {σ : Type} {build : (String → Option Node) → σ}
    {k : String × (Node → Prop)} {value value' : Node} (h : ScalarAlike value value')
    (hok : ∀ mark mark' tag tag' isPlain text,
      k.2 (.scalar mark tag isPlain text) ↔ k.2 (.scalar mark' tag' isPlain text))
    (hbuild : ∀ mark mark' tag tag' isPlain text vs,
      build (Function.update vs k.1 (some (.scalar mark tag isPlain text))) =
        build (Function.update vs k.1 (some (.scalar mark' tag' isPlain text)))) :
    Interchangeable build k value value' := by
  obtain ⟨hnull, hnull'⟩ | hsame := h
  · exact .of_isNull hnull hnull'
  · obtain ⟨mark, mark', tag, tag', isPlain, text, rfl, rfl⟩ := hsame.exists_eq
    have hnull : (Node.scalar mark' tag' isPlain text).isNull =
      (Node.scalar mark tag isPlain text).isNull := rfl
    refine ⟨or_congr (by rw [hnull]) (hok ..), fun _ vs => ?_⟩
    rw [Node.unlessNull, Node.unlessNull, hnull]
    split
    · rfl
    · exact hbuild ..

theorem interchangeable_mqtt {k : String × (Node → Prop)} (hk : k ∈ mqttSchema)
    {value value' : Node} (h : ScalarAlike value value') :
    Interchangeable mqttOf k value value' := by
  refine .of_scalarAlike h (fun _ _ _ _ _ _ => ?_) fun _ _ _ _ _ _ _ => mqttOf_update_scalar ..
  simp only [mqttSchema, List.mem_cons, List.not_mem_nil, or_false] at hk
  obtain rfl | rfl | rfl | rfl | rfl | rfl := hk <;> exact Iff.rfl

/-- Lists whose items are taken alike and say the same. -/
theorem map_eq_of_forall₂ {β : Type} {related : Node → Node → Prop} {ok : Node → Prop}
    {f : Node → β} {items items' : List Node} (h : List.Forall₂ related items items')
    (hitem : ∀ item item', related item item' →
      (ok item ↔ ok item') ∧ (ok item → f item = f item')) :
    ((∀ item ∈ items, ok item) ↔ ∀ item ∈ items', ok item) ∧
      ((∀ item ∈ items, ok item) → items.map f = items'.map f) := by
  induction h with
  | nil => simp
  | @cons item item' items items' hrelated _ ih =>
    obtain ⟨hiff, heq⟩ := hitem item item' hrelated
    obtain ⟨hrest, hmap⟩ := ih
    simp only [List.forall_mem_cons, List.map_cons]
    refine ⟨and_congr hiff hrest, fun hok => ?_⟩
    rw [heq hok.1, hmap hok.2]

theorem interchangeable_area {k : String × (Node → Prop)} (hk : k ∈ areaSchema)
    {value value' : Node} (h : AreaAlike k.1 value value') :
    Interchangeable areaOf k value value' := by
  obtain ⟨name, ok⟩ := k
  cases h with
  | scalar h =>
    refine .of_scalarAlike h (fun _ _ _ _ _ _ => ?_) fun _ _ _ _ _ _ _ => areaOf_update_scalar ..
    simp only [areaSchema, List.mem_cons, List.not_mem_nil, or_false, Prod.mk.injEq] at hk
    obtain ⟨-, rfl⟩ | ⟨-, rfl⟩ := hk <;> exact Iff.rfl
  | @zones mark mark' tag tag' items items' h =>
    obtain rfl : ok = IsListOf fun n => IsValue n ∧ ¬ n.isNull := by simpa [areaSchema] using hk
    have hzone (item item' : Node) (h : SameScalar item item') :
        ((IsValue item ∧ ¬ item.isNull) ↔ (IsValue item' ∧ ¬ item'.isNull)) ∧
          ((IsValue item ∧ ¬ item.isNull) → item.scalar? = item'.scalar?) := by
      obtain ⟨_, _, _, _, isPlain, text, rfl, rfl⟩ := h.exists_eq
      exact ⟨Iff.rfl, fun _ => rfl⟩
    obtain ⟨hiff, hmap⟩ := map_eq_of_forall₂ h hzone
    refine ⟨or_congr Iff.rfl hiff, fun hvalue vs => ?_⟩
    have hzones : items.filterMap Node.scalar? = items'.filterMap Node.scalar? := by
      have hmap := congrArg (List.filterMap id) (hmap (hvalue.resolve_left Bool.false_ne_true))
      simpa only [List.filterMap_map, Function.id_comp] using hmap
    simp [areaOf, Node.unlessNull, Node.isNull, Node.items, hzones]

theorem interchangeable_launch {k : String × (Node → Prop)} (hk : k ∈ launchSchema)
    {value value' : Node} (h : Alike k.1 value value') :
    Interchangeable launchOf k value value' := by
  obtain ⟨name, ok⟩ := k
  cases h with
  | scalar h =>
    refine .of_scalarAlike h (fun _ _ _ _ _ _ => ?_) fun _ _ _ _ _ _ _ =>
      launchOf_update_scalar ..
    simp only [launchSchema, List.mem_cons, List.not_mem_nil, or_false, Prod.mk.injEq] at hk
    obtain ⟨-, rfl⟩ | ⟨-, rfl⟩ | ⟨-, rfl⟩ | ⟨-, rfl⟩ | ⟨-, rfl⟩ | ⟨-, rfl⟩ | ⟨-, rfl⟩ | ⟨-, rfl⟩ |
      ⟨-, rfl⟩ := hk <;> exact Iff.rfl
  | mqtt h =>
    obtain rfl : ok = IsRecordOf mqttSchema := by simpa [launchSchema] using hk
    obtain ⟨hnull, hnull'⟩ := not_isNull_of_rewordedMapping h
    obtain ⟨hiff, hbuild⟩ :=
      isRecordOf_of_reworded describes_mqtt (fun k hk _ _ => interchangeable_mqtt hk) h
    refine ⟨or_congr (by rw [hnull, hnull']) hiff, fun hvalue vs => ?_⟩
    have hvalue : IsRecordOf mqttSchema value := hvalue.resolve_left (by simp [hnull])
    simp [launchOf, Node.unlessNull, hnull, hnull', hbuild hvalue]
  | @areas mark mark' tag tag' items items' h =>
    obtain rfl : ok = IsListOf fun n => isNothing n ∨ IsRecordOf areaSchema n := by
      simpa [launchSchema] using hk
    have harea (item item' : Node)
        (h : SameScalar item item' ∨ RewordedMapping areaSchema.names AreaAlike item item') :
        (isNothing item ∨ IsRecordOf areaSchema item ↔
          isNothing item' ∨ IsRecordOf areaSchema item') ∧
        (isNothing item ∨ IsRecordOf areaSchema item → areaOf item.under = areaOf item'.under) := by
      obtain h | h := h
      · obtain ⟨_, _, _, _, isPlain, text, rfl, rfl⟩ := h.exists_eq
        exact ⟨Iff.rfl, fun _ => rfl⟩
      · obtain ⟨hnull, hnull'⟩ := not_isNull_of_rewordedMapping h
        rw [isNothing_or_iff (by simp [hnull]), isNothing_or_iff (by simp [hnull'])]
        exact isRecordOf_of_reworded describes_area (fun k hk _ _ => interchangeable_area hk) h
    obtain ⟨hiff, hmap⟩ := map_eq_of_forall₂ h harea
    refine ⟨or_congr Iff.rfl hiff, fun hvalue vs => ?_⟩
    have hvalue := hvalue.resolve_left Bool.false_ne_true
    simp [launchOf, Node.unlessNull, Node.isNull, Node.items, hmap hvalue]

/-- A reworded document is a configuration like the first, and says the same. -/
theorem isConfiguration_of_reworded {d d' : Document} {root root' : Node} (hd : d.root = some root)
    (hd' : d'.root = some root') (h : RewordedMapping launchSchema.names Alike root root') :
    (IsConfiguration d ↔ IsConfiguration d') ∧ (IsConfiguration d → configOf d = configOf d') := by
  obtain ⟨hnull, hnull'⟩ := not_isNull_of_rewordedMapping h
  obtain ⟨hiff, hbuild⟩ :=
    isRecordOf_of_reworded describes_launch (fun k hk _ _ => interchangeable_launch hk) h
  have hrecord : IsConfiguration d ↔ IsRecordOf launchSchema root := by
    simp [IsConfiguration, hd, isNothing_or_iff (n := root) (by simp [hnull])]
  have hrecord' : IsConfiguration d' ↔ IsRecordOf launchSchema root' := by
    simp [IsConfiguration, hd', isNothing_or_iff (n := root') (by simp [hnull'])]
  rw [hrecord, hrecord', configOf, configOf, hd, hd']
  exact ⟨hiff, hbuild⟩

/-! ## Loading -/

/--
**Loading accepts exactly the configurations.** A document without tags and aliases loads if it is
one, as what it says, and so does a text that holds it. Loading depends only on what the known keys
map to: entries in another order, unknown keys with any values and nulls that are written out in
some way or not at all make no difference.
-/
theorem loads_exactly_configurations {d : Document} (hbare : d.IsBare) :
    (∀ c, Decode.run launch .empty d = .ok c ↔ IsConfiguration d ∧ c = configOf d) ∧
    (∀ text, Document.ofString text = .ok d →
      ∀ c, Config.ofString text = .ok c ↔ IsConfiguration d ∧ c = configOf d) ∧
    ∀ d' : Document, d'.IsBare → ∀ root root', d.root = some root → d'.root = some root' →
      RewordedMapping launchSchema.names Alike root root' →
      ∀ c, Decode.run launch .empty d = .ok c ↔ Decode.run launch .empty d' = .ok c := by
  refine ⟨fun c => run_launch_eq_ok hbare, fun text htext c => ?text, ?reworded⟩
  case text =>
    rw [← run_launch_eq_ok hbare, Config.ofString, Config.read, htext]
    dsimp only [Except.mapError]
    cases Decode.run launch .empty d <;> simp
  case reworded =>
    intro d' hbare' root root' hroot hroot' hreworded c
    obtain ⟨hiff, heq⟩ := isConfiguration_of_reworded hroot hroot' hreworded
    rw [run_launch_eq_ok hbare, run_launch_eq_ok hbare', ← hiff]
    exact and_congr_right fun hd => by rw [heq hd]

/-- A null, a code of digits, and two areas of which the second is not written. -/
def sampleText : String :=
  "verbose: ~\ndevice: 007\nareas:\n- num: 1\n  zones: [0x10, \"2\"]\n-\n"

def sampleConfig : LaunchConfig :=
  { LaunchConfig.empty with
    device := some (.text "007")
    areas := some [⟨some (.number (.int 1 (by decide))),
      some [.number (.int 16 (by decide)), .text "2"]⟩, .empty] }

/-- A scalar in no place in particular. -/
def sampleScalar (text : String) : Node :=
  .scalar .start none true text

def sampleMapping (entries : List (String × Node)) : Node :=
  .mapping .start none (entries.map fun e => (sampleScalar e.1, e.2))

def sampleList (items : List Node) : Node :=
  .sequence .start none items

def sampleZones : Node :=
  sampleList [sampleScalar "0x10", .scalar .start none false "2"]

/-- The document of the text, but for places. -/
def sampleDocument : Document :=
  ⟨some (sampleMapping [("verbose", sampleScalar "~"), ("device", sampleScalar "007"),
    ("areas", sampleList [sampleMapping [("num", sampleScalar "1"), ("zones", sampleZones)],
      sampleScalar ""])]), [], 22⟩

/-- The same with unknown keys, with another null and without one, and in another order. -/
def sampleReworded : Document :=
  ⟨some (sampleMapping [("extra", sampleZones),
    ("areas", sampleList [sampleMapping [("name", sampleScalar "hall"), ("zones", sampleZones),
      ("num", sampleScalar "1")], sampleScalar ""]),
    ("device", sampleScalar "007"), ("mqtt", sampleScalar "")]), [], 32⟩

theorem sampleDocument_reworded : ∃ root root', sampleDocument.root = some root ∧
    sampleReworded.root = some root' ∧ RewordedMapping launchSchema.names Alike root root' := by
  have harea : RewordedMapping areaSchema.names AreaAlike
      (sampleMapping [("num", sampleScalar "1"), ("zones", sampleZones)])
      (sampleMapping [("name", sampleScalar "hall"), ("zones", sampleZones),
        ("num", sampleScalar "1")]) :=
    Reworded.trans (.perm (.swap ..)) (.unknown rfl (by decide))
  have hnothing : SameScalar (sampleScalar "") (sampleScalar "") := ⟨rfl, rfl⟩
  have hareas : Alike "areas"
      (sampleList [sampleMapping [("num", sampleScalar "1"), ("zones", sampleZones)],
        sampleScalar ""])
      (sampleList [sampleMapping [("name", sampleScalar "hall"), ("zones", sampleZones),
        ("num", sampleScalar "1")], sampleScalar ""]) :=
    .areas (.cons (.inr harea) (.cons (.inl hnothing) .nil))
  have hmqtt (es : List (Node × Node)) (hes : Node.valuesOf "mqtt" es = []) :
      Reworded launchSchema.names Alike es ((sampleScalar "mqtt", sampleScalar "") :: es) :=
    .absent rfl rfl hes
  have hkey : (sampleScalar "areas").text? = some "areas" := rfl
  refine ⟨_, _, rfl, rfl, Reworded.trans (.symm (.absent rfl rfl rfl)) ?_⟩
  refine .trans (.perm (.swap ..)) (.trans (.value rfl hkey hareas) (.trans (hmqtt _ rfl) ?_))
  exact .trans (.perm (@List.perm_append_comm _ [_] _)) (.unknown rfl (by decide))

theorem loads_exactly_configurations_sample :
    (∃ d, Document.ofString sampleText = .ok d ∧ d.IsBare ∧ IsConfiguration d ∧
      configOf d = sampleConfig) ∧
    sampleDocument.IsBare ∧ sampleReworded.IsBare ∧ IsConfiguration sampleDocument ∧
    Decode.run launch .empty sampleReworded = .ok sampleConfig := by
  have hbare : sampleDocument.IsBare := by decide +kernel
  have hbare' : sampleReworded.IsBare := by decide +kernel
  have hrun : Decode.run launch .empty sampleDocument = .ok sampleConfig :=
    toOption_eq_some.mp (by decide +kernel)
  have hload : Config.ofString sampleText = .ok sampleConfig :=
    toOption_eq_some.mp (by decide +kernel)
  have hparse : (Document.ofString sampleText).toOption.any (fun d => decide d.IsBare) := by
    decide +kernel
  obtain ⟨hloads, -, hreworded⟩ := loads_exactly_configurations hbare
  refine ⟨?_, hbare, hbare', ((hloads _).mp hrun).1, ?_⟩
  · cases hd : Document.ofString sampleText with
    | error fault =>
      rw [hd] at hparse
      cases hparse
    | ok d =>
      rw [hd] at hparse
      have hd' : d.IsBare := by simpa [Except.toOption] using hparse
      obtain ⟨hconfiguration, hconfig⟩ :=
        ((loads_exactly_configurations hd').2.1 _ hd sampleConfig).mp hload
      exact ⟨d, rfl, hd', hconfiguration, hconfig.symm⟩
  · obtain ⟨root, root', hroot, hroot', hsame⟩ := sampleDocument_reworded
    exact (hreworded _ hbare' root root' hroot hroot' hsame _).mp hrun

end PanelLauncher.Config
