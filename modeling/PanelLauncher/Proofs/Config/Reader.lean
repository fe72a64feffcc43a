import Mathlib.Logic.Function.Basic
import PanelLauncher.Proofs.Config.Schema

/-!
# Reading against a schema

A reader takes what conforms, and nothing else, and takes it to what it says. Without tags and
aliases no reader depends on where it stands, so that each is described by what it takes, what that
says and how deep it goes; a table of fields is described by a schema.
-/

namespace PanelLauncher

theorem toOption_eq_some {ε α : Type} {x : Except ε α} {a : α} :
    x.toOption = some a ↔ x = .ok a := by
  cases x <;> simp [Except.toOption]

namespace Config.Decode

open Yaml

variable {α β σ : Type}

/-! ## Readings that end well -/

theorem pure_eq_ok {a : α} {j : Nat} {r : α × Nat} :
    (pure a : Decode α) j = .ok r ↔ r = (a, j) := by
  change Except.ok (a, j) = .ok r ↔ _
  rw [Except.ok.injEq, eq_comm]

theorem bind_eq_ok {x : Decode α} {f : α → Decode β} {j : Nat} {r : β × Nat} :
    (x >>= f) j = .ok r ↔ ∃ a j', x j = .ok (a, j') ∧ f a j' = .ok r := by
  change (x j >>= fun q => f q.1 q.2) = .ok r ↔ _
  cases x j with
  | error e => simp [bind, Except.bind]
  | ok q => simp [bind, Except.bind, Prod.ext_iff, and_assoc]

theorem map_eq_ok {x : Decode α} {f : α → β} {j : Nat} {r : β × Nat} :
    (f <$> x) j = .ok r ↔ ∃ a j', x j = .ok (a, j') ∧ r = (f a, j') := by
  simp only [map_eq_pure_bind, bind_eq_ok, pure_eq_ok]

theorem run'_eq_ok {x : Decode α} {j : Nat} {a : α} :
    x.run' j = .ok a ↔ ∃ j', x j = .ok (a, j') := by
  change Prod.fst <$> x j = .ok a ↔ _
  cases x j with
  | error e => simp [Functor.map, Except.map]
  | ok q => simp [Functor.map, Except.map, Prod.ext_iff]

theorem fail_ne_ok {cause : ShapeCause} {j : Nat} {r : α × Nat} :
    (fail cause : Decode α) j ≠ .ok r :=
  fun h => nomatch h

theorem placed_eq_ok {path : Path} {mark : Mark} {x : Decode α} {j : Nat} {r : α × Nat} :
    placed path mark x j = .ok r ↔ x j = .ok r := by
  unfold placed
  cases x j <;> simp [Except.mapError]

/-- Without aliases there is nothing to follow. -/
theorem follow_of_isBare {d : Document} {n : Node} (h : n.IsBare) : follow d n = pure n := by
  cases h <;> rfl

theorem descend_of_pos {p : Place} {mark : Mark} (h : 0 < p.depth) :
    descend p mark = pure { p with depth := p.depth - 1 } := by
  obtain ⟨depth, hdepth⟩ := Nat.exists_eq_add_of_lt h
  rw [Nat.zero_add] at hdepth
  simp only [descend, hdepth, Nat.add_sub_cancel]

theorem wrongType_ne_ok {expected : Expected} {n : Node} {j : Nat} {r : α × Nat} :
    (wrongType expected n : Decode α) j ≠ .ok r := by
  cases n with
  | scalar mark tag isPlain s =>
    intro h
    obtain ⟨v, j', -, h⟩ := bind_eq_ok.mp h
    exact fail_ne_ok h
  | sequence mark tag items => exact fail_ne_ok
  | mapping mark tag entries => exact fail_ne_ok
  | reference mark anchor => exact fail_ne_ok

/-! ## Readers -/

/-- A reader takes the nodes that are `ok`, and each for its `value`, wherever collections may be
nested by `room` more. -/
structure Reads (read : Place → Node → Decode α) (room : Nat) (ok : Node → Prop)
    (value : Node → Option α) : Prop where
  isSome : ∀ n, ok n → (value n).isSome
  eq_ok : ∀ {p : Place} {n : Node} {j : Nat} {r : α × Nat}, room ≤ p.depth → n.IsBare →
    (read p n j = .ok r ↔ ok n ∧ ∃ a, value n = some a ∧ r = (a, j))

theorem reads_textOf {expected : Expected} : Reads (textOf expected) 0 IsText Node.text? where
  isSome n h := h
  eq_ok {p n j r} _ hn := by
    rw [textOf, follow_of_isBare hn, pure_bind, placed_eq_ok]
    cases hn with
    | scalar => simp [IsText, Node.text?, pure_eq_ok]
    | sequence => simp [IsText, Node.text?, wrongType_ne_ok]
    | mapping => simp [IsText, Node.text?, wrongType_ne_ok]

theorem textOf_of_text? {expected : Expected} {p : Place} {n : Node} {s : String} (hn : n.IsBare)
    (h : n.text? = some s) : textOf expected p n = pure s := by
  cases hn <;> cases h
  rfl

/-- A scalar stands for what it is, if any number can hold it. -/
theorem scalarValue_eq_ok {isPlain : Bool} {text : String} {s : Option Scalar} {j j' : Nat} :
    scalarValue none isPlain text j = .ok (s, j') ↔
      s = (if isPlain then Value.ofPlain text else .text text).scalar? ∧
        (isPlain = true → ¬ Value.InGap text) ∧ j' = j := by
  have hvalue : valueOf none isPlain text =
      pure (if isPlain then Value.ofPlain text else .text text) := rfl
  have hgap : (isPlain = true → ¬ Value.InGap text) ↔
      ¬ ∃ n, (if isPlain then Value.ofPlain text else .text text) = .wide n := by
    cases isPlain <;> simp [← Value.ofPlain_eq_wide]
  rw [scalarValue, hvalue, pure_bind, hgap]
  generalize (if isPlain then Value.ofPlain text else .text text) = v
  cases v with
  | wide n => simp [fail_ne_ok]
  | _ => simp [pure_eq_ok, Value.scalar?]

/-- No collection is a scalar, whatever is in it. -/
theorem content_eq_ok {d : Document} {depth : Nat} {path : Path} {n : Node} {j j' : Nat}
    {s : Scalar} (hn : n.IsBare) :
    content d depth path n j = .ok (some s, j') ↔ n.scalar? = some s ∧ IsValue n ∧ j' = j := by
  rw [content, follow_of_isBare hn, pure_bind, placed_eq_ok]
  cases hn with
  | @scalar mark isPlain text =>
    change scalarValue none isPlain text j = _ ↔ _
    rw [scalarValue_eq_ok, Node.scalar?, eq_comm, IsValue]
  | sequence | mapping =>
    refine iff_of_false (fun h => ?_) (by simp [IsValue])
    obtain ⟨-, j₁, -, h⟩ := bind_eq_ok.mp h
    cases depth with
    | zero => cases h
    | succ depth =>
      obtain ⟨-, j₂, -, h⟩ := bind_eq_ok.mp h
      cases h

theorem isSome_scalar? {n : Node} : n.scalar?.isSome ↔ IsValue n ∧ ¬ n.isNull := by
  cases n with
  | scalar mark tag isPlain text =>
    cases isPlain with
    | false => simp [Node.scalar?, Value.scalar?, IsValue, Node.isNull]
    | true =>
      simp [Node.scalar?, IsValue, Node.isNull, ← Value.ofPlain_eq_wide, ← Value.ofPlain_eq_null]
      cases Value.ofPlain text <;> simp [Value.scalar?]
  | _ => simp [Node.scalar?, IsValue]

theorem reads_scalar : Reads scalar 0 (fun n => IsValue n ∧ ¬ n.isNull) Node.scalar? where
  isSome n h := isSome_scalar?.mpr h
  eq_ok {p n j r} _ hn := by
    rw [scalar, bind_eq_ok, ← isSome_scalar?]
    constructor
    · rintro ⟨s, j', hread, hr⟩
      cases s with
      | none => exact absurd hr fail_ne_ok
      | some s =>
        obtain ⟨hs, -, rfl⟩ := (content_eq_ok hn).mp hread
        exact ⟨Option.isSome_of_mem hs, s, hs, pure_eq_ok.mp hr⟩
    · rintro ⟨hsome, s, hs, rfl⟩
      exact ⟨some s, j, (content_eq_ok hn).mpr ⟨hs, (isSome_scalar?.mp hsome).1, rfl⟩, rfl⟩

theorem isAbsent_of_isBare {n : Node} (hn : n.IsBare) : isAbsent n = pure n.isNull := by
  cases hn with
  | @scalar mark isPlain text =>
    have hnull : (text.isEmpty || Value.isNullText text) = Value.nulls.contains text := by
      rw [Bool.eq_iff_iff, Bool.or_eq_true, List.contains_iff_mem]
      exact Value.isNull_iff
    cases isPlain with
    | false => rfl
    | true => simp [isAbsent, Node.isNull, hnull]
  | _ => rfl

variable {read : Place → Node → Decode α} {room : Nat} {ok : Node → Prop} {value : Node → Option α}

/-- A null is absent, and anything else as the reader takes it. -/
theorem Reads.optional (h : Reads read room ok value) {p : Place} {n : Node} {j : Nat}
    {r : Option α × Nat} (hroom : room ≤ p.depth) (hn : n.IsBare) :
    optional read p n j = .ok r ↔
      (n.isNull ∨ ok n) ∧ r = (n.unlessNull.bind value, j) := by
  rw [Decode.optional, follow_of_isBare hn, pure_bind, isAbsent_of_isBare hn, pure_bind,
    Node.unlessNull]
  cases hnull : n.isNull with
  | true => simp [pure_eq_ok]
  | false =>
    simp only [Bool.false_eq_true, if_false, map_eq_ok, h.eq_ok hroom hn, false_or,
      Option.bind_some]
    constructor
    · rintro ⟨a, j', ⟨hok, a', ha, hr⟩, rfl⟩
      cases hr
      exact ⟨hok, by rw [ha]⟩
    · rintro ⟨hok, rfl⟩
      obtain ⟨a, ha⟩ := Option.isSome_iff_exists.mp (h.isSome n hok)
      exact ⟨a, j, ⟨hok, a, ha, rfl⟩, by rw [ha]⟩

theorem Reads.mapM (h : Reads read room ok value) {p : Place} (hroom : room ≤ p.depth)
    (path : Nat → Path) {items : List Node} (hitems : ∀ item ∈ items, item.IsBare) {i j : Nat}
    {r : List α × Nat} :
    (((items.zipIdx i).mapM fun q => read { p with path := path q.2 } q.1) :
        Decode (List α)) j = .ok r ↔
      (∀ item ∈ items, ok item) ∧ r = (items.filterMap value, j) := by
  induction items generalizing i j r with
  | nil => simp [pure_eq_ok]
  | cons item items ih =>
    rw [List.forall_mem_cons] at hitems
    simp only [List.zipIdx_cons, List.mapM_cons, bind_eq_ok, pure_eq_ok, List.forall_mem_cons,
      ih hitems.2, h.eq_ok (p := { p with path := path i }) hroom hitems.1]
    constructor
    · rintro ⟨a, j', ⟨hitem, a', ha, hr⟩, as, j'', ⟨hrest, has⟩, rfl⟩
      cases hr
      cases has
      exact ⟨⟨hitem, hrest⟩, by rw [List.filterMap_cons_some ha]⟩
    · rintro ⟨⟨hitem, hrest⟩, rfl⟩
      obtain ⟨a, ha⟩ := Option.isSome_iff_exists.mp (h.isSome item hitem)
      exact ⟨a, j, ⟨hitem, a, ha, rfl⟩, _, j, ⟨hrest, rfl⟩, by rw [List.filterMap_cons_some ha]⟩

/-- A sequence item by item; nothing is the empty one. -/
theorem Reads.list (h : Reads read room ok value) :
    Reads (list read) (room + 1) (fun n => isNothing n ∨ IsListOf ok n)
      (fun n => some (n.items.filterMap value)) where
  isSome _ _ := rfl
  eq_ok {p n j r} hroom hn := by
    rw [Decode.list, follow_of_isBare hn, pure_bind, placed_eq_ok]
    cases hn with
    | @scalar mark isPlain text =>
      dsimp only
      split_ifs with hnothing <;>
        simp [hnothing, IsListOf, Node.items, pure_eq_ok, wrongType_ne_ok]
    | @sequence mark items hitems =>
      have hpos : 0 < p.depth := Nat.zero_lt_of_lt hroom
      have hmapM := h.mapM (p := { p with depth := p.depth - 1 }) (Nat.le_sub_one_of_lt hroom)
        (.item p.path) hitems (i := 0) (j := j) (r := r)
      dsimp only
      rw [descend_of_pos hpos, pure_bind]
      exact hmapM.trans (by simp [isNothing, IsListOf, Node.items])
    | mapping => simp [isNothing, IsListOf, wrongType_ne_ok]

/-! ## Tables of fields -/

/-- A field reads what is known under a key. What a structure has so far is what stood under the
keys so far. -/
structure FieldReads (room : Nat) (build : (String → Option Node) → σ) (field : Field σ)
    (known : String × (Node → Prop)) : Prop where
  name : field.name = known.1
  eq_ok : ∀ {p : Place} {n : Node} {vs : String → Option Node} {j : Nat} {r : σ × Nat},
    room ≤ p.depth → n.IsBare → (field.read p n (build vs) j = .ok r ↔
      (n.isNull ∨ known.2 n) ∧ r = (build (Function.update vs known.1 n.unlessNull), j))

/-- A table of fields reads what a schema says. -/
structure Describes (table : List (Field σ)) (room : Nat) (schema : Schema)
    (build : (String → Option Node) → σ) : Prop where
  distinct : schema.names.Nodup
  reads : List.Forall₂ (FieldReads room build) table schema
  congr : ∀ {vs vs' : String → Option Node}, (∀ k ∈ schema, vs k.1 = vs' k.1) → build vs = build vs'

/-- A field whose value may be absent. -/
theorem Reads.field (h : Reads read room ok value) {room' : Nat} {name : String} {ok' : Node → Prop}
    {build : (String → Option Node) → σ} {set : Option α → σ → σ} (hroom : room ≤ room')
    (hok : ∀ n, ¬ n.isNull → (ok n ↔ ok' n))
    (hset : ∀ (vs : String → Option Node) (n? : Option Node),
      set (n?.bind value) (build vs) = build (Function.update vs name n?)) :
    FieldReads room' build ⟨name, fun p n c => return set (← Decode.optional read p n) c⟩
      (name, ok') where
  name := rfl
  eq_ok {p n vs j r} hp hn := by
    have hok' : n.isNull ∨ ok n ↔ n.isNull ∨ ok' n := or_congr_right' (hok n)
    rw [← hok', ← hset]
    simp only [bind_eq_ok, pure_eq_ok, h.optional (hroom.trans hp) hn]
    constructor
    · rintro ⟨o, j', ⟨hn, ho⟩, rfl⟩
      cases ho
      exact ⟨hn, rfl⟩
    · rintro ⟨hn, rfl⟩
      exact ⟨_, _, ⟨hn, rfl⟩, rfl⟩

/-- What stands under a key in the entries, and before them where they have nothing. -/
def overlay (vs : String → Option Node) (entries : List (Node × Node)) (name : String) :
    Option Node :=
  ((Node.valuesOf name entries).head?.map Node.unlessNull).getD (vs name)

variable {vs : String → Option Node} {key n : Node} {entries : List (Node × Node)} {name : String}

theorem under_mapping {mark : Mark} {tag : Option Tag} :
    (Node.mapping mark tag entries).under = overlay (fun _ => none) entries := by
  funext name
  rw [Node.under, Node.entries, overlay]
  cases (Node.valuesOf name entries).head? <;> rfl

theorem overlay_nil : overlay vs [] = vs := rfl

theorem overlay_update (hnone : Node.valuesOf name entries = []) {o : Option Node} :
    overlay (Function.update vs name o) entries = Function.update (overlay vs entries) name o := by
  funext name'
  by_cases h : name' = name
  · subst h
    simp [overlay, hnone]
  · simp [overlay, Function.update_of_ne h]

theorem overlay_cons_of_eq (hkey : key.text? = some name) :
    overlay vs ((key, n) :: entries) = Function.update (overlay vs entries) name n.unlessNull := by
  funext name'
  by_cases h : name = name'
  · subst h
    simp [overlay, Node.valuesOf_cons_of_eq hkey]
  · simp [overlay, Node.valuesOf_cons_of_ne hkey h, Function.update_of_ne (Ne.symm h)]

theorem overlay_cons_of_ne {name' : String} (hkey : key.text? = some name) (hne : name ≠ name') :
    overlay vs ((key, n) :: entries) name' = overlay vs entries name' := by
  simp [overlay, Node.valuesOf_cons_of_ne hkey hne]

variable {table : List (Field σ)} {schema : Schema} {build : (String → Option Node) → σ}

/-- A key is known to the table and to the schema, or to neither. -/
theorem find?_cases (h : List.Forall₂ (FieldReads room build) table schema) (name : String) :
    (table.find? (·.name = name) = none ∧ ∀ k ∈ schema, k.1 ≠ name) ∨
      ∃ field k, table.find? (·.name = name) = some field ∧ k ∈ schema ∧ k.1 = name ∧
        FieldReads room build field k := by
  induction h with
  | nil => exact .inl ⟨rfl, by simp⟩
  | @cons field k table schema hfield _ ih =>
    by_cases hname : field.name = name
    · exact .inr ⟨field, k, List.find?_cons_of_pos (by simpa using hname), List.mem_cons_self,
        hfield.name ▸ hname, hfield⟩
    · have hfind : (field :: table).find? (·.name = name) = table.find? (·.name = name) :=
        List.find?_cons_of_neg (by simpa using hname)
      rw [hfind]
      obtain ⟨hnone, hschema⟩ | ⟨field', k', hfind', hk', hname', hreads⟩ := ih
      · exact .inl ⟨hnone, List.forall_mem_cons.mpr ⟨hfield.name ▸ hname, hschema⟩⟩
      · exact .inr ⟨field', k', hfind', List.mem_cons_of_mem _ hk', hname', hreads⟩

/-- No known key among those that were seen comes again. -/
def Fresh (schema : Schema) (seen : List String) (entries : List (Node × Node)) : Prop :=
  ∀ k ∈ schema, k.1 ∈ seen → Node.valuesOf k.1 entries = []

variable {seen : List String} {k : String × (Node → Prop)}

theorem fresh_cons_of_unknown (hkey : key.text? = some name) (hname : ∀ k ∈ schema, k.1 ≠ name) :
    Fresh schema seen ((key, n) :: entries) ↔ Fresh schema seen entries := by
  refine forall₂_congr fun k hk => ?_
  rw [Node.valuesOf_cons_of_ne hkey (hname k hk).symm]

theorem not_fresh_cons_of_mem (hk : k ∈ schema) (hkey : key.text? = some k.1) (hseen : k.1 ∈ seen) :
    ¬ Fresh schema seen ((key, n) :: entries) := by
  intro h
  have hnone := h k hk hseen
  rw [Node.valuesOf_cons_of_eq hkey] at hnone
  cases hnone

/-- A key that comes for the first time is one more that must not come again. -/
theorem fresh_cons_of_not_mem (hk : k ∈ schema) (hkey : key.text? = some k.1)
    (hseen : k.1 ∉ seen) :
    Node.valuesOf k.1 entries = [] ∧ Fresh schema seen ((key, n) :: entries) ↔
      Fresh schema (k.1 :: seen) entries := by
  constructor
  · rintro ⟨hnone, h⟩ k' hk' hmem
    by_cases hne : k.1 = k'.1
    · rw [← hne, hnone]
    · rw [← Node.valuesOf_cons_of_ne hkey hne]
      exact h k' hk' ((List.mem_cons.mp hmem).resolve_left (Ne.symm hne))
  · intro h
    refine ⟨h k hk List.mem_cons_self, fun k' hk' hmem => ?_⟩
    have hne : k.1 ≠ k'.1 := fun heq => hseen (heq ▸ hmem)
    rw [Node.valuesOf_cons_of_ne hkey hne]
    exact h k' hk' (List.mem_cons_of_mem _ hmem)

theorem entryPlace_depth {p : Place} : (entryPlace p key).depth = p.depth := by
  cases key <;> rfl

/-- Entries are taken if they conform and have no key that was seen before. -/
theorem Describes.fields_eq_ok (h : Describes table room schema build) {p : Place}
    (hp : room ≤ p.depth) (hkeys : ∀ e ∈ entries, e.1.IsBare) (hvalues : ∀ e ∈ entries, e.2.IsBare)
    {j : Nat} {r : σ × Nat} :
    fields table p seen (build vs) entries j = .ok r ↔
      Conforms schema entries ∧ Fresh schema seen entries ∧
        r = (build (overlay vs entries), j) := by
  induction entries generalizing seen vs r with
  | nil => simp [fields, pure_eq_ok, conforms_nil, overlay_nil, Fresh, Node.valuesOf]
  | cons e entries ih =>
    obtain ⟨key, n⟩ := e
    rw [List.forall_mem_cons] at hkeys hvalues
    cases hkey : key.text? with
    | none =>
      have hconforms : ¬ Conforms schema ((key, n) :: entries) := by
        intro hconforms
        simpa [IsText, hkey] using hconforms.keys _ List.mem_cons_self
      have htext : ¬ IsText key := by simp [IsText, hkey]
      simp [fields, bind_eq_ok, reads_textOf.eq_ok (Nat.zero_le _) hkeys.1, htext, hconforms]
    | some name =>
      rw [fields, textOf_of_text? hkeys.1 hkey, pure_bind]
      obtain ⟨hfind, hunknown⟩ | ⟨field, k, hfind, hk, rfl, hreads⟩ := find?_cases h.reads name
      · -- an unknown key says nothing, whatever is under it
        have hbuild : build (overlay vs ((key, n) :: entries)) = build (overlay vs entries) :=
          h.congr fun k hk => overlay_cons_of_ne hkey (hunknown k hk).symm
        rw [hfind, conforms_cons_of_unknown hkey hunknown, fresh_cons_of_unknown hkey hunknown,
          hbuild]
        exact ih hkeys.2 hvalues.2
      · rw [hfind]
        dsimp only
        by_cases hseen : k.1 ∈ seen
        · -- the key comes again, maybe after a null
          have hfresh : ¬ Fresh schema seen ((key, n) :: entries) :=
            not_fresh_cons_of_mem hk hkey hseen
          simp [hseen, hfresh, fail_ne_ok]
        · have hplace : room ≤ (entryPlace p key).depth := entryPlace_depth.symm ▸ hp
          have hfresh : Node.valuesOf k.1 entries = [] ∧ Fresh schema seen ((key, n) :: entries) ↔
              Fresh schema (k.1 :: seen) entries := fresh_cons_of_not_mem hk hkey hseen
          rw [if_neg (by simpa using hseen), bind_eq_ok, conforms_cons_of_mem h.distinct hk hkey]
          simp only [hreads.eq_ok hplace hvalues.1]
          constructor
          · rintro ⟨s, j', ⟨hvalue, hs⟩, hrest⟩
            cases hs
            obtain ⟨hconforms, hseen', rfl⟩ := (ih hkeys.2 hvalues.2).mp hrest
            obtain ⟨hnone, hseen'⟩ := hfresh.mpr hseen'
            refine ⟨⟨hvalue, hnone, hconforms⟩, hseen', ?_⟩
            rw [overlay_cons_of_eq hkey, overlay_update hnone]
          · rintro ⟨⟨hvalue, hnone, hconforms⟩, hseen', rfl⟩
            refine ⟨_, _, ⟨hvalue, rfl⟩, (ih hkeys.2 hvalues.2).mpr ?_⟩
            refine ⟨hconforms, hfresh.mp ⟨hnone, hseen'⟩, ?_⟩
            rw [overlay_cons_of_eq hkey, overlay_update hnone]

/-- A mapping by its entries; nothing is the empty one. -/
theorem Describes.record (h : Describes table room schema build) {expected : Expected} :
    Reads (record expected table (build fun _ => none)) (room + 1)
      (fun n => isNothing n ∨ IsRecordOf schema n) (fun n => some (build n.under)) where
  isSome _ _ := rfl
  eq_ok {p n j r} hroom hn := by
    rw [Decode.record, follow_of_isBare hn, pure_bind, placed_eq_ok]
    cases hn with
    | @scalar mark isPlain text =>
      have hunder : (Node.scalar mark none isPlain text).under = fun _ => none := rfl
      dsimp only
      split_ifs with hnothing <;>
        simp [hnothing, hunder, IsRecordOf, pure_eq_ok, wrongType_ne_ok]
    | @mapping mark entries hkeys hvalues =>
      have hpos : 0 < p.depth := Nat.zero_lt_of_lt hroom
      dsimp only
      rw [descend_of_pos hpos, pure_bind, h.fields_eq_ok (Nat.le_sub_one_of_lt hroom) hkeys hvalues,
        under_mapping]
      simp [isNothing, IsRecordOf, Fresh]
    | sequence => simp [isNothing, IsRecordOf, wrongType_ne_ok]

/-! ## The structures of a configuration -/

theorem scalarField {set : Option Scalar → σ → σ}
    (hset : ∀ (vs : String → Option Node) (n? : Option Node),
      set (n?.bind Node.scalar?) (build vs) = build (Function.update vs name n?)) :
    FieldReads room build ⟨name, fun p n c => return set (← optional scalar p n) c⟩
      (name, IsValue) :=
  reads_scalar.field (Nat.zero_le _) (fun n hn => by simp [hn]) hset

theorem textField {expected : Expected} {set : Option String → σ → σ}
    (hset : ∀ (vs : String → Option Node) (n? : Option Node),
      set (n?.bind Node.text?) (build vs) = build (Function.update vs name n?)) :
    FieldReads room build ⟨name, fun p n c => return set (← optional (textOf expected) p n) c⟩
      (name, IsText) :=
  reads_textOf.field (Nat.zero_le _) (fun _ _ => Iff.rfl) hset

/-- Nothing is null, where that is allowed. -/
theorem isNull_of_isNothing {n : Node} (h : isNothing n) : n.isNull := by
  cases n with
  | scalar mark tag isPlain s =>
    simp only [isNothing, Bool.and_eq_true, String.isEmpty_iff] at h
    obtain ⟨rfl, rfl⟩ := h
    rfl
  | _ => cases h

theorem isNothing_or_iff {n : Node} {P : Prop} (hn : ¬ n.isNull) : isNothing n ∨ P ↔ P :=
  or_iff_right fun h => hn (isNull_of_isNothing h)

theorem describes_mqtt : Describes mqttFields 0 mqttSchema mqttOf where
  distinct := by decide
  reads := by
    refine .cons (scalarField ?_) (.cons (scalarField ?_) (.cons (scalarField ?_)
      (.cons (scalarField ?_) (.cons (scalarField ?_) (.cons (scalarField ?_) .nil))))) <;>
    · intros
      simp [mqttOf]
  congr h := by
    simp [mqttSchema] at h
    simp [mqttOf, h]

theorem reads_mqtt : Reads mqtt 1 (fun n => isNothing n ∨ IsRecordOf mqttSchema n)
    (fun n => some (mqttOf n.under)) :=
  describes_mqtt.record

theorem describes_area : Describes areaFields 1 areaSchema areaOf where
  distinct := by decide
  reads := by
    refine .cons (scalarField ?_) (.cons (reads_scalar.list.field (Nat.le_refl _)
      (fun _ hn => isNothing_or_iff hn) ?_) .nil) <;>
    · intros
      simp [areaOf, Option.map_eq_bind]
  congr h := by
    simp [areaSchema] at h
    simp [areaOf, h]

theorem reads_area : Reads area 2 (fun n => isNothing n ∨ IsRecordOf areaSchema n)
    (fun n => some (areaOf n.under)) :=
  describes_area.record

theorem describes_launch : Describes launchFields 3 launchSchema launchOf where
  distinct := by decide
  reads := by
    refine .cons (textField ?_) (.cons (scalarField ?_) (.cons (scalarField ?_)
      (.cons (scalarField ?_)
        (.cons (reads_mqtt.field (by decide) (fun _ hn => isNothing_or_iff hn) ?_)
          (.cons (reads_area.list.field (Nat.le_refl _) (fun _ hn => isNothing_or_iff hn) ?_)
            (.cons (scalarField ?_) (.cons (scalarField ?_) (.cons (textField ?_) .nil)))))))) <;>
    · intros
      simp [launchOf, Option.map_eq_bind]
  congr h := by
    simp [launchSchema] at h
    simp [launchOf, h]

theorem reads_launch : Reads launch 4 (fun n => isNothing n ∨ IsRecordOf launchSchema n)
    (fun n => some (launchOf n.under)) :=
  describes_launch.record

/-- A document without tags and aliases is taken if it is a configuration, for what it says. -/
theorem run_launch_eq_ok {d : Document} (hbare : d.IsBare) {c : LaunchConfig} :
    run launch .empty d = .ok c ↔ IsConfiguration d ∧ c = configOf d := by
  unfold run IsConfiguration configOf
  cases hd : d.root with
  | none =>
    have hnothing : launchOf (fun _ => none) = .empty := rfl
    simp only [Option.bind_none, hnothing, Except.ok.injEq, eq_comm (a := c)]
    exact ⟨fun h => ⟨nofun, h⟩, fun h => h.2⟩
  | some root =>
    have hread {j : Nat} := reads_launch.eq_ok (p := ⟨d, .root, nesting⟩) (n := root) (j := 0)
      (r := (c, j)) (show 4 ≤ nesting by decide) (hbare root hd)
    simp only [run'_eq_ok, hread, Option.bind_some]
    constructor
    · rintro ⟨j, hroot, a, ha, hc⟩
      cases ha
      cases hc
      exact ⟨fun _ h => Option.some.inj h ▸ hroot, rfl⟩
    · rintro ⟨hroot, rfl⟩
      exact ⟨0, hroot root rfl, _, rfl, rfl⟩

end Config.Decode

end PanelLauncher
