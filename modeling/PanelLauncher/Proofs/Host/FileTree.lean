import PanelLauncher.Host.FileTree

/-!
# What stays in a tree of files

An entry that is set is the only one that changes, a touch changes no entry that is there, and what
is appended comes behind all that a file holds.
-/

namespace PanelLauncher

/-- What an entry is after bytes have been appended to it; only a file keeps them. -/
def Entry.grow (bytes : ByteArray) : Entry → Entry
  | file isExecutable content => file isExecutable (content ++ bytes)
  | entry => entry

@[simp] theorem Entry.grow_empty (entry : Entry) : entry.grow .empty = entry := by
  cases entry <;> simp [grow]

@[simp] theorem Entry.map_grow_empty (entry : Option Entry) : entry.map (grow .empty) = entry := by
  cases entry <;> simp

@[simp] theorem Entry.grow_grow (entry : Entry) (first second : ByteArray) :
    (entry.grow first).grow second = entry.grow (first ++ second) := by
  cases entry <;> simp [grow, ByteArray.append_assoc]

namespace FileTree

theorem lookup_filter_fst_ne {place p : Location} (h : p ≠ place)
    (entries : List (Location × Entry)) :
    (entries.filter (·.1 != place)).lookup p = entries.lookup p := by
  induction entries with
  | nil => rfl
  | cons entry entries ih =>
    obtain ⟨q, e⟩ := entry
    by_cases hq : q = place
    · subst hq
      simp [ih, List.lookup_cons, beq_eq_false_iff_ne.mpr h]
    · simp [hq, ih, List.lookup_cons]

/-- The root is a directory whatever is set. -/
theorem entry?_set (t : FileTree) {place : Location} (h : place ≠ []) (entry : Entry)
    (p : Location) :
    entry? (t.set place entry) p = if p = place then some entry else t.entry? p := by
  by_cases hp : p = place
  · subst hp
    simp [set, entry?, h]
  · simp [set, entry?, List.lookup_cons, hp, beq_eq_false_iff_ne.mpr hp, lookup_filter_fst_ne hp]

theorem ne_nil_of_entry?_eq_none {t : FileTree} {place : Location} (h : t.entry? place = none) :
    place ≠ [] := by
  rintro rfl
  cases h

theorem entry?_touch (t : FileTree) (place p : Location) :
    entry? (t.touch place) p =
      if p = place ∧ t.entry? place = none then some (.file false .empty) else t.entry? p := by
  unfold touch
  split
  · next h => simp [entry?_set t (ne_nil_of_entry?_eq_none h), h]
  · next h => simp [h]

/-- A touch fills a vacant place. -/
theorem entry?_touch_eq_or (t : FileTree) (place p : Location) :
    entry? (t.touch place) p =
      (t.entry? p).or (if place = p then some (.file false .empty) else none) := by
  rw [entry?_touch]
  by_cases hp : place = p
  · subst hp
    cases t.entry? place <;> simp
  · simp [hp, Ne.symm hp]

theorem entry?_append (t : FileTree) (place : Location) (bytes : ByteArray) (p : Location) :
    entry? (t.append place bytes) p =
      (t.entry? p).map (Entry.grow (if place = p then bytes else .empty)) := by
  have hother : place ≠ p →
      t.entry? p = (t.entry? p).map (Entry.grow (if place = p then bytes else .empty)) := by
    intro hp
    rw [if_neg hp, Entry.map_grow_empty]
  unfold append
  split
  · next isExecutable content hentry =>
    have hplace : place ≠ [] := by
      rintro rfl
      cases hentry
    rw [entry?_set t hplace]
    by_cases hp : place = p
    · subst hp
      simp [hentry, Entry.grow]
    · rw [if_neg (Ne.symm hp)]
      exact hother hp
  · next hentry =>
    by_cases hp : place = p
    · subst hp
      cases hat : t.entry? place with
      | none => rfl
      | some entry =>
        -- nothing but a file takes bytes
        cases entry with
        | file isExecutable content => exact absurd hat (hentry isExecutable content)
        | _ => rfl
    · exact hother hp

end FileTree

end PanelLauncher
