import PanelLauncher.Command.Render
import PanelLauncher.Command.ShellLine

/-!
# The shell line of a command, read back

`Word.ofText` is the word that a text is read as when it has been quoted. A quoted text is read from
between two words up to its end without a token coming out (`tokens_shellQuote`); the blanks of a
line then end one word each, and the redirection at its end gives the only operators.
-/

namespace PanelLauncher

open ShellLine

/-! ## Harmless characters -/

theorem ne_of_isPlainChar {c d : Char} (hc : isPlainChar c = true) (hd : isPlainChar d = false) :
    c ≠ d := by
  rintro rfl
  rw [hc] at hd
  cases hd

theorem Operator.ofChar?_of_isPlainChar {c : Char} (hc : isPlainChar c = true) :
    Operator.ofChar? c = none := by
  unfold Operator.ofChar?
  split
  all_goals first | rfl | exact absurd hc (by decide)

theorem Glyph.isActive_bare {c : Char} (hc : isPlainChar c = true) :
    Glyph.isActive ⟨c, .bare⟩ = false := by
  simp only [Glyph.isActive, List.contains_eq_mem, decide_eq_false_iff_not]
  intro hmem
  have hall : (['$', '`', '~', '*', '?', '[', '#'].all fun d => isPlainChar d = false) = true := by
    decide
  exact ne_of_isPlainChar hc (of_decide_eq_true (List.all_eq_true.mp hall c hmem)) rfl

namespace ShellLine

/-! ## The word of a text -/

/-- The word that a text is read as when it has been quoted. -/
def Word.ofText (text : List Char) : Word :=
  if !text.isEmpty && text.all isPlainChar then ⟨text.map (⟨·, .bare⟩), false⟩
  else ⟨text.map (⟨·, .hard⟩), true⟩

theorem Word.text_ofText (text : List Char) : (ofText text).text = String.ofList text := by
  unfold ofText
  split <;> simp [Word.text, Function.comp_def]

theorem Word.isInert_ofText (text : List Char) : (ofText text).isInert = true := by
  unfold ofText
  split
  · next h =>
    simp only [Bool.and_eq_true, List.all_eq_true] at h
    simp only [isInert, List.all_map, List.all_eq_true, Function.comp_apply, Bool.not_eq_true']
    intro c hc
    exact Glyph.isActive_bare (h.2 c hc)
  · simp [isInert, Glyph.isActive]

/-- The word with further characters of one quoting, as reading adds them. -/
def Word.addAll (w : Word) (quoting : Quoting) (cs : List Char) : Word :=
  cs.foldl (fun w c => w.add c quoting) w

theorem Word.addAll_eq (w : Word) (quoting : Quoting) (cs : List Char) :
    w.addAll quoting cs = ⟨(cs.map (⟨·, quoting⟩)).reverse ++ w.glyphs, w.hasQuotes⟩ := by
  induction cs generalizing w with
  | nil => rfl
  | cons c cs ih =>
    rw [addAll, List.foldl_cons, ← addAll, ih]
    simp [add]

/-! ## Reading a quoted text -/

theorem tokens_cons (r : Reader) (c : Char) (cs : List Char) :
    r.tokens (c :: cs) = ((r.step c).2.tokens cs).map ((r.step c).1 ++ ·) := rfl

/-- A step without a token only changes where reading stands. -/
theorem tokens_silent {r : Reader} {c : Char} {cs : List Char} (next : Reader)
    (h : r.step c = ([], next)) : r.tokens (c :: cs) = next.tokens cs := by
  rw [tokens_cons, h]
  simp

theorem startOrAdd_isPlainChar {b : Begun} {w : Word} {c : Char} (hc : isPlainChar c = true)
    (hb : b.toWord = ([], w)) : Reader.startOrAdd b c = ([], .plain (.word (w.add c .bare))) := by
  have hquote := ne_of_isPlainChar hc (d := '\'') (by decide)
  have hdouble := ne_of_isPlainChar hc (d := '"') (by decide)
  have hback := ne_of_isPlainChar hc (d := '\\') (by decide)
  have hblank := ne_of_isPlainChar hc (d := ' ') (by decide)
  have htab := ne_of_isPlainChar hc (d := '\t') (by decide)
  have hhash := ne_of_isPlainChar hc (d := '#') (by decide)
  simp only [Reader.startOrAdd, hb, hquote, hdouble, hback, hblank, htab, or_self, if_false,
    Operator.ofChar?_of_isPlainChar hc, hhash]
  cases b <;> rfl

/-- Harmless characters are added to the word as they are. -/
theorem tokens_plainChars {cs : List Char} (hcs : ∀ c ∈ cs, isPlainChar c = true) (w : Word)
    (rest : List Char) :
    (Reader.plain (.word w)).tokens (cs ++ rest) =
      (Reader.plain (.word (w.addAll .bare cs))).tokens rest := by
  induction cs generalizing w with
  | nil => rfl
  | cons c cs ih =>
    have hstep : (Reader.plain (.word w)).step c = ([], .plain (.word (w.add c .bare))) :=
      startOrAdd_isPlainChar (hcs c List.mem_cons_self) rfl
    rw [List.cons_append, tokens_silent _ hstep, ih fun d hd => hcs d (List.mem_cons_of_mem _ hd)]
    rfl

/-- Between single quotes a character is read as itself, also the one that leaves the quotes, stands
behind a backslash and enters them again. -/
theorem tokens_quoteChars (cs : List Char) (w : Word) (hw : w.hasQuotes = true)
    (rest : List Char) :
    (Reader.single w).tokens (cs.flatMap quoteChar ++ rest) =
      (Reader.single (w.addAll .hard cs)).tokens rest := by
  induction cs generalizing w with
  | nil => rfl
  | cons c cs ih =>
    have hquoted : w.quoted = w := by cases w; cases hw; rfl
    rw [List.flatMap_cons, List.append_assoc]
    by_cases hc : c = '\''
    · subst hc
      have hcode : quoteChar '\'' = ['\'', '\\', '\'', '\''] := rfl
      have hback : (Reader.escaped (.word w)).step '\'' = ([], .plain (.word (w.add '\'' .hard))) := by
        simp [Reader.step, Begun.toWord, hquoted]
      have henter : (Reader.plain (.word (w.add '\'' .hard))).step '\'' =
          ([], .single (w.add '\'' .hard)) := by
        simp [Reader.step, Reader.startOrAdd, Begun.toWord, Word.quoted, Word.add, hw]
      rw [hcode, List.cons_append, tokens_silent (.plain (.word w)) rfl, List.cons_append,
        tokens_silent (.escaped (.word w)) rfl, List.cons_append, tokens_silent _ hback,
        List.cons_append, tokens_silent _ henter, List.nil_append, ih (w.add '\'' .hard) hw]
      rfl
    · have hcode : quoteChar c = [c] := if_neg hc
      have hstep : (Reader.single w).step c = ([], .single (w.add c .hard)) := by
        simp [Reader.step, hc]
      rw [hcode, List.cons_append, tokens_silent _ hstep, List.nil_append, ih (w.add c .hard) hw]
      rfl

/-- A quoted text is read as its word, and nothing else comes out. -/
theorem tokens_shellQuote (text rest : List Char) :
    (Reader.plain .nothing).tokens (shellQuote text ++ rest) =
      (Reader.plain (.word (Word.ofText text).reverse)).tokens rest := by
  unfold shellQuote Word.ofText
  split
  · next h =>
    simp only [Bool.and_eq_true, List.all_eq_true] at h
    cases text with
    | nil => simp at h
    | cons c cs =>
      have hstep : (Reader.plain .nothing).step c =
          ([], .plain (.word (Word.empty.add c .bare))) :=
        startOrAdd_isPlainChar (h.2 c List.mem_cons_self) rfl
      rw [List.cons_append, tokens_silent _ hstep,
        tokens_plainChars fun d hd => h.2 d (List.mem_cons_of_mem _ hd), Word.addAll_eq]
      simp [Word.reverse, Word.add, Word.empty]
  · have hopen : (Reader.plain .nothing).step '\'' = ([], .single Word.empty.quoted) := rfl
    rw [List.cons_append, List.cons_append, tokens_silent _ hopen, List.append_assoc,
      tokens_quoteChars _ _ rfl, List.cons_append, tokens_silent _ rfl, Word.addAll_eq]
    simp [Word.reverse, Word.quoted, Word.empty]

end ShellLine

end PanelLauncher
