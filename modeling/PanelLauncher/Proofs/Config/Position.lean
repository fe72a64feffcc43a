import PanelLauncher.Proofs.Command.Options
import PanelLauncher.Proofs.Config.Reader

/-!
# Where scalars stand

Each scalar of a configuration has a position in documents, in configurations and, unless it is a
switch, in what the daemon is told. A configuration has at each position what the plain scalar there
stands for (`exists_scalar?_of_holds`), and the daemon is told its text (`isTold_of_asks`). Nothing
is assumed of the rest of the document, which may have tags and aliases.
-/

namespace PanelLauncher.Config

open Yaml Decode

/-- The scalars whose text is an option's value. Areas and zones are counted from zero. -/
inductive ValuePosition
  | device
  | userCode
  | statusPeriod
  | mqtt (o : MqttOption)
  | num (area : Nat)
  | zone (area zone : Nat)
  deriving DecidableEq, Repr

/-- The scalars of a configuration. -/
inductive Position
  | switch (s : Switch)
  | value (v : ValuePosition)
  deriving DecidableEq, Repr

/-- An alias stands for the node that has its anchor, any other node for itself. -/
def StandsFor (d : Document) (n n' : Node) : Prop :=
  n = n' ∨ ∃ mark anchor, n = .reference mark anchor ∧ d.target? anchor = some n'

/-- An alias, which stands for another node. -/
def isAlias : Node → Bool
  | .reference _ _ => true
  | _ => false

/-- A mapping has a node under a key. -/
def HasEntry (d : Document) (n : Node) (name : String) (value : Node) : Prop :=
  ∃ mark tag entries key, StandsFor d n (.mapping mark tag entries) ∧ (key, value) ∈ entries ∧
    ∃ mark tag isPlain, StandsFor d key (.scalar mark tag isPlain name)

/-- A sequence has a node as its item. -/
def HasItem (d : Document) (n : Node) (i : Nat) (item : Node) : Prop :=
  ∃ mark tag items, StandsFor d n (.sequence mark tag items) ∧ items[i]? = some item

/-- An area of a configuration. -/
def HasArea (d : Document) (root : Node) (i : Nat) (area : Node) : Prop :=
  ∃ areas, HasEntry d root "areas" areas ∧ HasItem d areas i area

namespace ValuePosition

/-- The node is at the position. -/
def Has (d : Document) (root n : Node) : ValuePosition → Prop
  | device => HasEntry d root "device" n
  | userCode => HasEntry d root "user_code" n
  | statusPeriod => HasEntry d root "status_period" n
  | mqtt o => ∃ mqtt, HasEntry d root "mqtt" mqtt ∧ HasEntry d mqtt o.name n
  | num i => ∃ area, HasArea d root i area ∧ HasEntry d area "num" n
  | zone i j => ∃ area zones, HasArea d root i area ∧ HasEntry d area "zones" zones ∧
    HasItem d zones j n

/-- The scalar at the position. -/
def scalar? (c : LaunchConfig) : ValuePosition → Option Scalar
  | device => c.device
  | userCode => c.userCode
  | statusPeriod => c.statusPeriod
  | mqtt o => c.mqtt.bind fun mqtt => o.value mqtt
  | num i => (c.areas.bind fun areas => areas[i]?).bind fun area => area.num
  | zone i j => (c.areas.bind fun areas => areas[i]?).bind fun area =>
    area.zones.bind fun zones => zones[j]?

/-- The daemon is told the text; of a zone, between commas. -/
def IsTold (o : Options) (text : String) : ValuePosition → Prop
  | device => o.value .device = some text
  | userCode => o.value .userCode = some text
  | statusPeriod => o.value .statusPeriod = some text
  | mqtt m => o.value (.mqtt m) = some text
  | num i => ∃ zones, o.areas[i]? = some (text, zones)
  | zone i j => ∃ num texts, o.areas[i]? = some (num, ",".intercalate texts) ∧ texts[j]? = some text

end ValuePosition

namespace Position

def Has (d : Document) (root n : Node) : Position → Prop
  | switch .verbose => HasEntry d root "verbose" n
  | switch .daemon => HasEntry d root "daemon" n
  | switch .retain => ∃ mqtt, HasEntry d root "mqtt" mqtt ∧ HasEntry d mqtt "retain" n
  | value v => v.Has d root n

def scalar? (c : LaunchConfig) : Position → Option Scalar
  | switch .verbose => c.verbose
  | switch .daemon => c.daemon
  | switch .retain => c.mqtt.bind fun mqtt => mqtt.retain
  | value v => v.scalar? c

end Position

/-! ## What a reading takes from a document -/

section

variable {α σ : Type} {read : Place → Node → Decode α} {d : Document} {p : Place} {n n' key : Node}
  {j j' : Nat}

/-- A reader takes a node to a value, at some place in the document. -/
def Gives (read : Place → Node → Decode α) (d : Document) (n : Node) (a : α) : Prop :=
  ∃ p j j', p.document = d ∧ read p n j = .ok (a, j')

theorem follow_of_standsFor (hn : StandsFor d n n') (hnode : isAlias n' = false) {m : Node}
    (h : follow d n j = .ok (m, j')) : m = n' := by
  obtain rfl | ⟨mark, anchor, rfl, htarget⟩ := hn
  · cases n with
    | reference mark anchor => cases hnode
    | _ => cases h; rfl
  · change (if _ then fail _ else pure ((d.target? anchor).getD _) : Decode Node) (j + 1) = _ at h
    split at h
    · exact absurd h fail_ne_ok
    · rw [pure_eq_ok, htarget] at h
      cases h
      rfl

theorem textOf_of_standsFor {expected : Expected} {mark : Mark} {tag : Option Tag} {isPlain : Bool}
    {s text : String} (hn : StandsFor p.document n (.scalar mark tag isPlain s))
    (h : textOf expected p n j = .ok (text, j')) : text = s := by
  obtain ⟨m, j₁, hm, h⟩ := bind_eq_ok.mp h
  cases follow_of_standsFor hn rfl hm
  cases placed_eq_ok.mp h
  rfl

/-- What is not absent is read. -/
theorem gives_of_optional {o : Option α} (hn : StandsFor d n n')
    (hnode : isAlias n' = false) (habsent : isAbsent n' = pure false)
    (h : Gives (optional read) d n o) : ∃ a, o = some a ∧ Gives read d n' a := by
  obtain ⟨p, j, j', rfl, h⟩ := h
  obtain ⟨m, j₁, hm, h⟩ := bind_eq_ok.mp h
  cases follow_of_standsFor hn hnode hm
  rw [habsent, pure_bind, if_neg Bool.false_ne_true, map_eq_ok] at h
  obtain ⟨a, j₂, h, hr⟩ := h
  cases hr
  exact ⟨a, rfl, p, j₁, j', rfl, h⟩

theorem document_of_descend {mark : Mark} {inner : Place}
    (h : descend p mark j = .ok (inner, j')) : inner.document = p.document := by
  obtain ⟨document, path, depth⟩ := p
  cases depth with
  | zero => cases h
  | succ depth =>
    cases h
    rfl

theorem getElem?_of_mapM {β : Type} {f : α → Decode β} {xs : List α} {l : List β}
    (h : xs.mapM f j = .ok (l, j')) {i : Nat} {x : α} (hx : xs[i]? = some x) :
    ∃ a j₁ j₂, l[i]? = some a ∧ f x j₁ = .ok (a, j₂) := by
  induction xs generalizing l i j with
  | nil => cases hx
  | cons y ys ih =>
    simp only [List.mapM_cons, bind_eq_ok, pure_eq_ok, Prod.mk.injEq] at h
    obtain ⟨b, j₁, hb, bs, j₂, hbs, rfl, rfl⟩ := h
    cases i with
    | zero =>
      cases hx
      exact ⟨b, j, j₁, rfl, hb⟩
    | succ i => exact ih hbs hx

theorem gives_of_optional_mapping {o : Option α} {name : String} {value : Node}
    (hn : HasEntry d n name value) (h : Gives (optional read) d n o) :
    ∃ a n', o = some a ∧ HasEntry d n' name value ∧ Gives read d n' a := by
  obtain ⟨mark, tag, entries, key, hn, hentry⟩ := hn
  obtain ⟨a, ha, h⟩ := gives_of_optional hn rfl rfl h
  exact ⟨a, _, ha, ⟨mark, tag, entries, key, .inl rfl, hentry⟩, h⟩

theorem gives_of_optional_sequence {o : Option α} {i : Nat} {item : Node}
    (hn : HasItem d n i item) (h : Gives (optional read) d n o) :
    ∃ a n', o = some a ∧ HasItem d n' i item ∧ Gives read d n' a := by
  obtain ⟨mark, tag, items, hn, hitem⟩ := hn
  obtain ⟨a, ha, h⟩ := gives_of_optional hn rfl rfl h
  exact ⟨a, _, ha, ⟨mark, tag, items, .inl rfl, hitem⟩, h⟩

/-- The items of a list are read one by one. -/
theorem gives_of_list {l : List α} {i : Nat} {item : Node} (hn : HasItem d n i item)
    (h : Gives (list read) d n l) : ∃ a, l[i]? = some a ∧ Gives read d item a := by
  obtain ⟨mark, tag, items, hn, hitem⟩ := hn
  obtain ⟨p, j, j', rfl, h⟩ := h
  obtain ⟨m, j₁, hm, h⟩ := bind_eq_ok.mp h
  cases follow_of_standsFor hn rfl hm
  obtain ⟨inner, j₂, hinner, h⟩ := bind_eq_ok.mp (placed_eq_ok.mp h)
  have hindexed : items.zipIdx[i]? = some (item, i) := by
    rw [List.getElem?_zipIdx, hitem, Option.map_some, Nat.zero_add]
  obtain ⟨a, j₃, j₄, ha, h⟩ := getElem?_of_mapM h hindexed
  have hdocument : inner.document = p.document := document_of_descend hinner
  exact ⟨a, ha, { inner with path := .item p.path i }, j₃, j₄, hdocument, h⟩

/-- What one entry of a mapping does. -/
theorem fields_cons_eq_ok {table : List (Decode.Field σ)} {seen : List String} {s : σ}
    {value : Node} {entries : List (Node × Node)} {r : σ × Nat}
    (h : fields table p seen s ((key, value) :: entries) j = .ok r) :
    ∃ name j₁, textOf .fieldName p key j = .ok (name, j₁) ∧
      (table.find? (·.name = name) = none ∧ fields table p seen s entries j₁ = .ok r ∨
        ∃ field s₁ j₂, table.find? (·.name = name) = some field ∧ name ∉ seen ∧
          field.read (entryPlace p key) value s j₁ = .ok (s₁, j₂) ∧
          fields table p (name :: seen) s₁ entries j₂ = .ok r) := by
  rw [fields, bind_eq_ok] at h
  obtain ⟨name, j₁, hname, h⟩ := h
  refine ⟨name, j₁, hname, ?_⟩
  cases hfind : table.find? (·.name = name) with
  | none =>
    rw [hfind] at h
    exact .inl ⟨rfl, h⟩
  | some field =>
    rw [hfind] at h
    dsimp only at h
    split at h
    · exact absurd h fail_ne_ok
    · next hseen =>
      obtain ⟨s₁, j₂, hread, h⟩ := bind_eq_ok.mp h
      exact .inr ⟨field, s₁, j₂, rfl, by simpa using hseen, hread, h⟩

/-- A field sets a part of a structure to what its reader gives, if it has the name, and leaves it
alone otherwise. -/
structure SetsUnder (name : String) (read : Place → Node → Decode α) (part : σ → Option α)
    (field : Decode.Field σ) : Prop where
  own : field.name = name → ∀ {p n s j s' j'}, field.read p n s j = .ok (s', j') →
    optional read p n j = .ok (part s', j')
  other : field.name ≠ name → ∀ {p n s j s' j'}, field.read p n s j = .ok (s', j') →
    part s' = part s

/-- A table knows the name, and only the field with this name sets the part. -/
structure Sets (table : List (Decode.Field σ)) (name : String) (read : Place → Node → Decode α)
    (part : σ → Option α) : Prop where
  known : (table.find? (·.name = name)).isSome
  fields : ∀ field ∈ table, SetsUnder name read part field

variable {table : List (Decode.Field σ)} {name : String} {part : σ → Option α} {seen : List String}
  {s s' : σ} {value : Node} {entries : List (Node × Node)}

/-- A field that has a value keeps it. -/
theorem Sets.part_of_seen (hsets : Sets table name read part) (hseen : name ∈ seen)
    (h : Decode.fields table p seen s entries j = .ok (s', j')) : part s' = part s := by
  induction entries generalizing seen s j with
  | nil => cases h; rfl
  | cons e entries ih =>
    obtain ⟨key, value⟩ := e
    obtain ⟨name', j₁, -, ⟨-, h⟩ | ⟨field, s₁, j₂, hfind, hnew, hread, h⟩⟩ := fields_cons_eq_ok h
    · exact ih hseen h
    · obtain rfl : field.name = name' := by simpa using List.find?_some hfind
      have hother : field.name ≠ name := fun heq => hnew (heq ▸ hseen)
      rw [ih (List.mem_cons_of_mem _ hseen) h]
      exact (hsets.fields field (List.mem_of_find?_eq_some hfind)).other hother hread

/-- A field is what is read under its key. -/
theorem Sets.gives_of_mem (hsets : Sets table name read part)
    (h : Decode.fields table p seen s entries j = .ok (s', j')) (hentry : (key, value) ∈ entries)
    {mark : Mark} {tag : Option Tag} {isPlain : Bool}
    (hkey : StandsFor p.document key (.scalar mark tag isPlain name)) :
    Gives (optional read) p.document value (part s') := by
  induction entries generalizing seen s j with
  | nil => cases hentry
  | cons e entries ih =>
    obtain ⟨key', value'⟩ := e
    obtain ⟨name', j₁, hname, h⟩ := fields_cons_eq_ok h
    obtain hhead | htail := List.mem_cons.mp hentry
    · cases hhead
      cases textOf_of_standsFor hkey hname
      obtain ⟨hfind, -⟩ | ⟨field, s₁, j₂, hfind, -, hread, h⟩ := h
      · have hknown := hsets.known
        rw [hfind] at hknown
        cases hknown
      · have hown : field.name = name := by simpa using List.find?_some hfind
        have hread :=
          (hsets.fields field (List.mem_of_find?_eq_some hfind)).own hown hread
        rw [hsets.part_of_seen List.mem_cons_self h]
        exact ⟨entryPlace p key, j₁, j₂, by cases key <;> rfl, hread⟩
    · obtain ⟨-, h⟩ | ⟨_, _, _, -, -, -, h⟩ := h
      · exact ih h htail
      · exact ih h htail

/-- A structure has under a key what is read there. -/
theorem Sets.gives (hsets : Sets table name read part) {expected : Expected} {empty : σ}
    (hn : HasEntry d n name value) (h : Gives (record expected table empty) d n s) :
    Gives (optional read) d value (part s) := by
  obtain ⟨mark, tag, entries, key, hn, hentry, keyMark, keyTag, isPlain, hkey⟩ := hn
  obtain ⟨p, j, j', rfl, h⟩ := h
  obtain ⟨m, j₁, hm, h⟩ := bind_eq_ok.mp h
  cases follow_of_standsFor hn rfl hm
  obtain ⟨inner, j₂, hinner, h⟩ := bind_eq_ok.mp (placed_eq_ok.mp h)
  rw [← document_of_descend hinner] at hkey ⊢
  exact hsets.gives_of_mem h hentry hkey

end

/-! ## The fields of a configuration -/

section

variable {α β σ : Type} {name name' : String} {read : Place → Node → Decode α}
  {read' : Place → Node → Decode β} {part : σ → Option α}

theorem SetsUnder.of_eq {set : Option α → σ → σ} (hset : ∀ o s, part (set o s) = o) :
    SetsUnder name read part ⟨name, fun p n s => return set (← optional read p n) s⟩ where
  own _ {p n s j s' j'} h := by
    obtain ⟨o, j₁, ho, h⟩ := bind_eq_ok.mp h
    cases pure_eq_ok.mp h
    rw [hset]
    exact ho
  other hne := absurd rfl hne

theorem SetsUnder.of_ne {set : Option β → σ → σ} (hne : name' ≠ name)
    (hset : ∀ o s, part (set o s) = part s) :
    SetsUnder name read part ⟨name', fun p n s => return set (← optional read' p n) s⟩ where
  own heq := absurd heq hne
  other _ {p n s j s' j'} h := by
    obtain ⟨o, j₁, -, h⟩ := bind_eq_ok.mp h
    cases pure_eq_ok.mp h
    exact hset o s

theorem launch_sets :
    Sets launchFields "verbose" scalar LaunchConfig.verbose ∧
    Sets launchFields "daemon" scalar LaunchConfig.daemon ∧
    Sets launchFields "device" scalar LaunchConfig.device ∧
    Sets launchFields "mqtt" mqtt LaunchConfig.mqtt ∧
    Sets launchFields "areas" (list area) LaunchConfig.areas ∧
    Sets launchFields "user_code" scalar LaunchConfig.userCode ∧
    Sets launchFields "status_period" scalar LaunchConfig.statusPeriod := by
  refine ⟨?_, ?_, ?_, ?_, ?_, ?_, ?_⟩ <;>
  · refine ⟨rfl, ?_⟩
    simp only [launchFields, List.forall_mem_cons]
    refine ⟨?_, ?_, ?_, ?_, ?_, ?_, ?_, ?_, ?_, nofun⟩ <;>
      first
      | exact .of_eq fun _ _ => rfl
      | exact .of_ne (by decide) fun _ _ => rfl

theorem mqtt_sets : (∀ o : MqttOption, Sets mqttFields o.name scalar fun c => o.value c) ∧
    Sets mqttFields "retain" scalar MqttConfig.retain := by
  refine ⟨fun o => ?_, ?_⟩
  on_goal 1 => cases o
  all_goals
    refine ⟨rfl, ?_⟩
    simp only [mqttFields, List.forall_mem_cons]
    refine ⟨?_, ?_, ?_, ?_, ?_, ?_, nofun⟩ <;>
      first
      | exact .of_eq fun _ _ => rfl
      | exact .of_ne (by decide) fun _ _ => rfl

theorem area_sets : Sets areaFields "num" scalar AreaConfig.num ∧
    Sets areaFields "zones" (list scalar) AreaConfig.zones := by
  refine ⟨?_, ?_⟩ <;>
  · refine ⟨rfl, ?_⟩
    simp only [areaFields, List.forall_mem_cons]
    refine ⟨?_, ?_, nofun⟩ <;>
      first
      | exact .of_eq fun _ _ => rfl
      | exact .of_ne (by decide) fun _ _ => rfl

end

/-! ## From the document to the configuration -/

section

variable {d : Document} {root n : Node} {c : LaunchConfig} {s : String}

/-- A document has the text as a plain scalar at the position. -/
def Holds (d : Document) (position : Position) (s : String) : Prop :=
  ∃ root n mark, d.root = some root ∧ position.Has d root n ∧
    StandsFor d n (.scalar mark none true s)

/-- A plain scalar is what its text stands for. -/
theorem scalar?_of_gives {mark : Mark} {v : Scalar} (hn : StandsFor d n (.scalar mark none true s))
    (h : Gives scalar d n v) : (Value.ofPlain s).scalar? = some v := by
  obtain ⟨p, j, j', rfl, h⟩ := h
  obtain ⟨o, j₁, hcontent, h⟩ := bind_eq_ok.mp h
  cases o with
  | none => exact absurd h fail_ne_ok
  | some v' =>
    cases pure_eq_ok.mp h
    rw [content, bind_eq_ok] at hcontent
    obtain ⟨m, j₂, hm, hcontent⟩ := hcontent
    cases follow_of_standsFor hn rfl hm
    exact (scalarValue_eq_ok.mp (placed_eq_ok.mp hcontent)).1.symm

theorem scalar?_of_gives_optional {mark : Mark} {o : Option Scalar}
    (hn : StandsFor d n (.scalar mark none true s)) (hs : s ∉ Value.nulls)
    (h : Gives (optional scalar) d n o) :
    ∃ v, o = some v ∧ (Value.ofPlain s).scalar? = some v := by
  have hnull : (Node.scalar mark none true s).isNull = false := by simpa [Node.isNull] using hs
  have habsent : isAbsent (.scalar mark none true s) = pure false := by
    rw [isAbsent_of_isBare .scalar, hnull]
  obtain ⟨v, hv, h⟩ := gives_of_optional hn rfl habsent h
  exact ⟨v, hv, scalar?_of_gives (.inl rfl) h⟩

theorem gives_launch (hroot : d.root = some root) (hc : Decode.run launch .empty d = .ok c) :
    Gives launch d root c := by
  rw [Decode.run, hroot] at hc
  obtain ⟨j', hread⟩ := run'_eq_ok.mp hc
  exact ⟨_, 0, j', rfl, hread⟩

theorem gives_mqtt {name : String} (h : Gives launch d root c) {m : Node}
    (hm : HasEntry d root "mqtt" m) (hn : HasEntry d m name n) :
    ∃ mqttConfig m', c.mqtt = some mqttConfig ∧ HasEntry d m' name n ∧
      Gives mqtt d m' mqttConfig := by
  obtain ⟨-, -, -, hmqtt, -⟩ := launch_sets
  exact gives_of_optional_mapping hn (hmqtt.gives hm h)

theorem gives_area (h : Gives launch d root c) {i : Nat} (hn : HasArea d root i n) :
    ∃ areaConfig, (c.areas.bind fun areas => areas[i]?) = some areaConfig ∧
      Gives area d n areaConfig := by
  obtain ⟨-, -, -, -, hareas, -⟩ := launch_sets
  obtain ⟨areas, hentry, hitem⟩ := hn
  obtain ⟨l, areas', hl, hitem, h⟩ := gives_of_optional_sequence hitem (hareas.gives hentry h)
  obtain ⟨areaConfig, harea, h⟩ := gives_of_list hitem h
  exact ⟨areaConfig, by rw [hl, Option.bind_some, harea], h⟩

/-- In a configuration a plain scalar that is not null is what its text stands for. -/
theorem exists_scalar?_of_holds {position : Position} (h : Holds d position s)
    (hs : s ∉ Value.nulls) (hc : Decode.run launch .empty d = .ok c) :
    ∃ v, position.scalar? c = some v ∧ (Value.ofPlain s).scalar? = some v := by
  obtain ⟨root, n, mark, hroot, hat, hn⟩ := h
  have h : Gives launch d root c := gives_launch hroot hc
  obtain ⟨hverbose, hdaemon, hdevice, -, -, hcode, hperiod⟩ := launch_sets
  match position with
  | .switch .verbose => exact scalar?_of_gives_optional hn hs (hverbose.gives hat h)
  | .switch .daemon => exact scalar?_of_gives_optional hn hs (hdaemon.gives hat h)
  | .switch .retain =>
    obtain ⟨m, hm, hat⟩ := hat
    obtain ⟨mqttConfig, m', hc, hat, h⟩ := gives_mqtt h hm hat
    rw [Position.scalar?, hc]
    exact scalar?_of_gives_optional hn hs (mqtt_sets.2.gives hat h)
  | .value .device => exact scalar?_of_gives_optional hn hs (hdevice.gives hat h)
  | .value .userCode => exact scalar?_of_gives_optional hn hs (hcode.gives hat h)
  | .value .statusPeriod => exact scalar?_of_gives_optional hn hs (hperiod.gives hat h)
  | .value (.mqtt o) =>
    obtain ⟨m, hm, hat⟩ := hat
    obtain ⟨mqttConfig, m', hc, hat, h⟩ := gives_mqtt h hm hat
    rw [Position.scalar?, ValuePosition.scalar?, hc]
    exact scalar?_of_gives_optional hn hs ((mqtt_sets.1 o).gives hat h)
  | .value (.num i) =>
    obtain ⟨area, harea, hat⟩ := hat
    obtain ⟨areaConfig, hc, h⟩ := gives_area h harea
    rw [Position.scalar?, ValuePosition.scalar?, hc]
    exact scalar?_of_gives_optional hn hs (area_sets.1.gives hat h)
  | .value (.zone i j) =>
    obtain ⟨area, zones, harea, hzones, hat⟩ := hat
    obtain ⟨areaConfig, hc, h⟩ := gives_area h harea
    obtain ⟨l, zones', hl, hat, h⟩ := gives_of_optional_sequence hat (area_sets.2.gives hzones h)
    obtain ⟨v, hv, h⟩ := gives_of_list hat h
    refine ⟨v, ?_, scalar?_of_gives hn h⟩
    rw [Position.scalar?, ValuePosition.scalar?, hc, Option.bind_some, hl, Option.bind_some, hv]

end

/-! ## From the configuration to the daemon -/

/-- The daemon is told the text of a scalar at its position; an empty user code is not told. -/
theorem isTold_of_asks {c : LaunchConfig} {o : Options} (hasks : c.Asks o) {v : ValuePosition}
    {s : Scalar} (hs : v.scalar? c = some s) (hcode : v = .userCode → s.render ≠ "") :
    v.IsTold o s.render := by
  obtain ⟨areas, hareas, htexts⟩ := hasks.areas
  have harea {i : Nat} :
      (c.areas.bind fun areas => areas[i]?) = areas[i]?.map CompleteArea.toConfig := by
    rw [hareas, Option.bind_some, List.getElem?_map]
  cases v with
  | device =>
    obtain ⟨device, hdevice, htold⟩ := hasks.device
    cases hdevice.symm.trans hs
    exact htold
  | userCode =>
    have hcode := hcode rfl
    change c.userCode = some s at hs
    simp [ValuePosition.IsTold, hasks.userCode, hs, hcode]
  | statusPeriod =>
    change c.statusPeriod = some s at hs
    simp [ValuePosition.IsTold, hasks.statusPeriod, hs]
  | mqtt m =>
    obtain ⟨mqtt, hmqtt, htold, -⟩ := hasks.mqtt
    rw [ValuePosition.scalar?, hmqtt, Option.bind_some] at hs
    rw [ValuePosition.IsTold, htold, hs, Option.map_some]
  | num i =>
    rw [ValuePosition.scalar?, harea] at hs
    obtain ⟨config, harea, hs⟩ := Option.bind_eq_some_iff.mp hs
    obtain ⟨area, hitem, rfl⟩ := Option.map_eq_some_iff.mp harea
    cases hs
    exact ⟨area.texts.2, by rw [htexts, List.getElem?_map, hitem]; rfl⟩
  | zone i j =>
    rw [ValuePosition.scalar?, harea] at hs
    obtain ⟨config, harea, hs⟩ := Option.bind_eq_some_iff.mp hs
    obtain ⟨area, hitem, rfl⟩ := Option.map_eq_some_iff.mp harea
    refine ⟨area.texts.1, area.2.map Scalar.render, ?_, ?_⟩
    · rw [htexts, List.getElem?_map, hitem]
      rfl
    · have hzone : area.2[j]? = some s := hs
      rw [List.getElem?_map, hzone, Option.map_some]

end PanelLauncher.Config
