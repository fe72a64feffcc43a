import PanelLauncher.Config.Decode
import PanelLauncher.Proofs.Yaml.Value

/-!
# The schema of a configuration

Which documents are configurations, and what they say. A schema lists the keys that are known with
what may stand under each; a configuration is a view of what a mapping has under these keys. Both
are about trees without tags and aliases.
-/

namespace PanelLauncher

open Yaml

/-! ## Parts of a tree -/

/-- The scalar that a value is; null is none, and neither is an integer that no number holds. -/
def Yaml.Value.scalar? : Value → Option Scalar
  | bool b => some (.bool b)
  | number n => some (.number n)
  | text s => some (.text s)
  | null => none
  | wide _ => none

namespace Yaml.Node

/-- Neither the node nor any below it has a tag or is an alias. -/
inductive IsBare : Node → Prop
  | scalar {mark : Mark} {isPlain : Bool} {text : String} : IsBare (.scalar mark none isPlain text)
  | sequence {mark : Mark} {items : List Node} (h : ∀ item ∈ items, IsBare item) :
      IsBare (.sequence mark none items)
  | mapping {mark : Mark} {entries : List (Node × Node)} (hkeys : ∀ e ∈ entries, IsBare e.1)
      (hvalues : ∀ e ∈ entries, IsBare e.2) : IsBare (.mapping mark none entries)

mutual

/-- Looks for tags and aliases. -/
def isBare : Node → Bool
  | scalar _ tag _ _ => tag.isNone
  | sequence _ tag items => tag.isNone && itemsBare items
  | mapping _ tag entries => tag.isNone && entriesBare entries
  | reference _ _ => false

def itemsBare : List Node → Bool
  | [] => true
  | n :: ns => isBare n && itemsBare ns

def entriesBare : List (Node × Node) → Bool
  | [] => true
  | (k, v) :: es => isBare k && isBare v && entriesBare es

end

mutual

theorem isBare_iff : ∀ n : Node, n.isBare ↔ n.IsBare
  | scalar mark tag isPlain text => by
    cases tag with
    | none => exact iff_of_true rfl .scalar
    | some tag => exact iff_of_false nofun nofun
  | sequence mark tag items => by
    cases tag with
    | none =>
      have hitems := itemsBare_iff items
      exact ⟨fun h => .sequence (hitems.mp h), fun | .sequence h => hitems.mpr h⟩
    | some tag => exact iff_of_false nofun nofun
  | mapping mark tag entries => by
    cases tag with
    | none =>
      have hentries := entriesBare_iff entries
      exact ⟨fun h => .mapping (hentries.mp h).1 (hentries.mp h).2,
        fun | .mapping hkeys hvalues => hentries.mpr ⟨hkeys, hvalues⟩⟩
    | some tag => exact iff_of_false nofun nofun
  | reference mark anchor => iff_of_false nofun nofun

theorem itemsBare_iff : ∀ items : List Node, itemsBare items ↔ ∀ n ∈ items, n.IsBare
  | [] => by simp [itemsBare]
  | n :: ns => by
    rw [itemsBare, Bool.and_eq_true, List.forall_mem_cons, isBare_iff n, itemsBare_iff ns]

theorem entriesBare_iff : ∀ entries : List (Node × Node),
    entriesBare entries ↔ (∀ e ∈ entries, e.1.IsBare) ∧ ∀ e ∈ entries, e.2.IsBare
  | [] => by simp [entriesBare]
  | (k, v) :: es => by
    rw [entriesBare, Bool.and_eq_true, Bool.and_eq_true, List.forall_mem_cons,
      List.forall_mem_cons, isBare_iff k, isBare_iff v, entriesBare_iff es]
    exact and_and_and_comm

end

instance (n : Node) : Decidable n.IsBare :=
  decidable_of_iff _ (isBare_iff n)

/-- The text of a scalar as written. -/
def text? : Node → Option String
  | scalar _ _ _ s => some s
  | _ => none

/-- A plain scalar that spells null, or is not written at all. -/
def isNull : Node → Bool
  | scalar _ _ isPlain s => isPlain && Value.nulls.contains s
  | _ => false

/-- The scalar that a node without a tag stands for. -/
def scalar? : Node → Option Scalar
  | scalar _ _ isPlain s => (if isPlain then Value.ofPlain s else .text s).scalar?
  | _ => none

def items : Node → List Node
  | sequence _ _ items => items
  | _ => []

def entries : Node → List (Node × Node)
  | mapping _ _ entries => entries
  | _ => []

/-- The node itself, unless it is null. -/
def unlessNull (n : Node) : Option Node :=
  if n.isNull then none else some n

/-- All that entries have under a key. -/
def valuesOf (name : String) (entries : List (Node × Node)) : List Node :=
  entries.filterMap fun (key, value) => if key.text? = some name then some value else none

section Entries

variable {name name' : String} {key value : Node} {entries : List (Node × Node)}

theorem valuesOf_cons_of_eq (h : key.text? = some name) :
    valuesOf name ((key, value) :: entries) = value :: valuesOf name entries := by
  simp [valuesOf, h]

theorem valuesOf_cons_of_ne (h : key.text? = some name') (hne : name' ≠ name) :
    valuesOf name ((key, value) :: entries) = valuesOf name entries := by
  simp [valuesOf, h, hne]

end Entries

/-- What a mapping has under a key; null is nothing. -/
def under (n : Node) (name : String) : Option Node :=
  (valuesOf name n.entries).head?.bind unlessNull

end Yaml.Node

/-- A document without tags and aliases. -/
def Yaml.Document.IsBare (d : Document) : Prop :=
  ∀ root ∈ d.root, root.IsBare

instance (d : Document) : Decidable d.IsBare :=
  inferInstanceAs (Decidable (∀ root ∈ d.root, root.IsBare))

/-! ## What conforms -/

namespace Config

/-- The keys that are known, and what may stand under each of them. -/
abbrev Schema := List (String × (Node → Prop))

/-- The keys that are known. -/
def Schema.names (schema : Schema) : List String :=
  schema.map Prod.fst

/-- A scalar that is no integer of more than 64 and at most 128 bits. -/
def IsValue : Node → Prop
  | .scalar _ _ isPlain s => isPlain = true → ¬ Value.InGap s
  | _ => False

/-- A scalar of any kind. -/
def IsText (n : Node) : Prop :=
  n.text?.isSome

/-- A sequence of nodes of a kind. -/
def IsListOf (ok : Node → Prop) : Node → Prop
  | .sequence _ _ items => ∀ item ∈ items, ok item
  | _ => False

/-- Each key is a scalar, each known key comes once at most, and what stands under it is null or
what may stand there. -/
structure Conforms (schema : Schema) (entries : List (Node × Node)) : Prop where
  keys : ∀ e ∈ entries, IsText e.1
  once : ∀ k ∈ schema, (Node.valuesOf k.1 entries).length ≤ 1
  values : ∀ k ∈ schema, ∀ n ∈ Node.valuesOf k.1 entries, n.isNull ∨ k.2 n

/-- A mapping with entries that conform. -/
def IsRecordOf (schema : Schema) : Node → Prop
  | .mapping _ _ entries => Conforms schema entries
  | _ => False

section Entries

variable {schema : Schema} {key value : Node} {entries : List (Node × Node)} {name : String}
  {k : String × (Node → Prop)}

theorem conforms_nil : Conforms schema [] := by
  constructor <;> simp [Node.valuesOf]

/-- An entry with an unknown key says nothing. -/
theorem conforms_cons_of_unknown (hkey : key.text? = some name)
    (hname : ∀ k ∈ schema, k.1 ≠ name) :
    Conforms schema ((key, value) :: entries) ↔ Conforms schema entries := by
  have hvalues : ∀ k ∈ schema,
      Node.valuesOf k.1 ((key, value) :: entries) = Node.valuesOf k.1 entries := by
    intro k hk
    rw [Node.valuesOf_cons_of_ne hkey (hname k hk).symm]
  constructor
  · intro h
    refine ⟨fun e he => h.keys e (List.mem_cons_of_mem _ he), fun k hk => ?_, fun k hk => ?_⟩
    · rw [← hvalues k hk]
      exact h.once k hk
    · rw [← hvalues k hk]
      exact h.values k hk
  · intro h
    refine ⟨List.forall_mem_cons.mpr ⟨by simp [IsText, hkey], h.keys⟩, fun k hk => ?_,
      fun k hk => ?_⟩
    · rw [hvalues k hk]
      exact h.once k hk
    · rw [hvalues k hk]
      exact h.values k hk

/-- An entry with a known key has a value that may stand there, and is the only one. -/
theorem conforms_cons_of_mem (hdistinct : schema.names.Nodup) (hk : k ∈ schema)
    (hkey : key.text? = some k.1) :
    Conforms schema ((key, value) :: entries) ↔
      (value.isNull ∨ k.2 value) ∧ Node.valuesOf k.1 entries = [] ∧ Conforms schema entries := by
  have hother : ∀ k' ∈ schema, k' = k ∨ k'.1 ≠ k.1 := by
    intro k' hk'
    by_cases h : k'.1 = k.1
    · exact .inl (List.inj_on_of_nodup_map hdistinct hk' hk h)
    · exact .inr h
  constructor
  · intro h
    have honce := h.once k hk
    have hvalue := h.values k hk value
    rw [Node.valuesOf_cons_of_eq hkey] at honce hvalue
    have hnone : Node.valuesOf k.1 entries = [] := by simpa using honce
    refine ⟨hvalue List.mem_cons_self, hnone, fun e he => h.keys e (List.mem_cons_of_mem _ he),
      fun k' hk' => ?_, fun k' hk' => ?_⟩
    · obtain rfl | hne := hother k' hk'
      · simp [hnone]
      · rw [← Node.valuesOf_cons_of_ne hkey hne.symm]
        exact h.once k' hk'
    · obtain rfl | hne := hother k' hk'
      · simp [hnone]
      · rw [← Node.valuesOf_cons_of_ne hkey hne.symm]
        exact h.values k' hk'
  · rintro ⟨hvalue, hnone, h⟩
    refine ⟨List.forall_mem_cons.mpr ⟨by simp [IsText, hkey], h.keys⟩, fun k' hk' => ?_,
      fun k' hk' => ?_⟩
    · obtain rfl | hne := hother k' hk'
      · simp [Node.valuesOf_cons_of_eq hkey, hnone]
      · rw [Node.valuesOf_cons_of_ne hkey hne.symm]
        exact h.once k' hk'
    · obtain rfl | hne := hother k' hk'
      · simpa [Node.valuesOf_cons_of_eq hkey, hnone] using hvalue
      · rw [Node.valuesOf_cons_of_ne hkey hne.symm]
        exact h.values k' hk'

end Entries

def mqttSchema : Schema :=
  [("server", IsValue), ("port", IsValue), ("topic", IsValue), ("login", IsValue),
    ("password", IsValue), ("retain", IsValue)]

def areaSchema : Schema :=
  [("num", IsValue), ("zones", IsListOf fun n => IsValue n ∧ ¬ n.isNull)]

/-- An area may also be an item that is not written. -/
def launchSchema : Schema :=
  [("binary_path", IsText), ("verbose", IsValue), ("daemon", IsValue), ("device", IsValue),
    ("mqtt", IsRecordOf mqttSchema),
    ("areas", IsListOf fun n => Decode.isNothing n ∨ IsRecordOf areaSchema n),
    ("user_code", IsValue), ("status_period", IsValue), ("log_file", IsText)]

/-- A document that is empty or conforms. -/
def IsConfiguration (d : Document) : Prop :=
  ∀ root, d.root = some root → Decode.isNothing root ∨ IsRecordOf launchSchema root

/-! ## What a configuration says -/

/-- The broker settings that stand under the known keys. -/
def mqttOf (under : String → Option Node) : MqttConfig where
  server := (under "server").bind Node.scalar?
  port := (under "port").bind Node.scalar?
  topic := (under "topic").bind Node.scalar?
  login := (under "login").bind Node.scalar?
  password := (under "password").bind Node.scalar?
  retain := (under "retain").bind Node.scalar?

def areaOf (under : String → Option Node) : AreaConfig where
  num := (under "num").bind Node.scalar?
  zones := (under "zones").map fun n => n.items.filterMap Node.scalar?

/-- The configuration that stands under the known keys. -/
def launchOf (under : String → Option Node) : LaunchConfig where
  binaryPath := (under "binary_path").bind Node.text?
  verbose := (under "verbose").bind Node.scalar?
  daemon := (under "daemon").bind Node.scalar?
  device := (under "device").bind Node.scalar?
  mqtt := (under "mqtt").map fun n => mqttOf n.under
  areas := (under "areas").map fun n => n.items.map fun item => areaOf item.under
  userCode := (under "user_code").bind Node.scalar?
  statusPeriod := (under "status_period").bind Node.scalar?
  logFile := (under "log_file").bind Node.text?

/-- What a document says. -/
def configOf (d : Document) : LaunchConfig :=
  launchOf fun name => d.root.bind fun root => root.under name

end Config

end PanelLauncher
