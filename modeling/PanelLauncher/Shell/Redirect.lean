import PanelLauncher.Shell.Expansion

/-!
# Redirections under way

A redirection gives a descriptor another meaning for as long as a command runs. What the descriptor
meant before is kept under a number that programs do not get.

This is part of the system for test runs and of nothing else. No theorem is about it.
-/

namespace PanelLauncher.Shell

inductive Redirecting
  | file (descriptor : Nat) (direction : Direction) (path : String)
  | copy (descriptor : Nat) (source : Option Nat)
  | text (descriptor : Nat) (content : String)

namespace Redirecting

def descriptor : Redirecting → Nat
  | file n _ _ => n
  | copy n _ => n
  | text n _ => n

def source (text : String) : Action (Option Nat) := do
  match text.toList with
  | ['-'] => return none
  | [c] => if c.isDigit then return some (c.toNat - '0'.toNat) else malformed
  | _ => malformed
where
  malformed : Action (Option Nat) := do
    modify fun s => { s with line := s.sourceLine }
    Action.fail "Syntax error: Bad fd number"

def ofRedirection (run : Runner) : Redirection → Action Redirecting
  | .file n direction target => return .file n direction (← Word.single run target)
  | .copy n target => return .copy n (← source (← Word.single run target))
  | .document n number => do
    let word := ((← get).documents.lookup number).getD []
    return .text n (← Word.document run word)

def access : Direction → FileTree.Access
  | .read => .read
  | .write | .overwrite => .write
  | .append => .append
  | .readWrite => .readWrite

def openFile (descriptor : Nat) (direction : Direction) (path : String) : Action Unit := do
  let creates := direction ≠ .read
  let complain (e : Errno) : Action Unit := do
    let text :=
      if e = .noEntry || e = .notDirectory then
        if creates then "Directory nonexistent" else "No such file"
      else e.text
    let verb := if creates then "create" else "open"
    Action.fail s!"cannot {verb} {path}: {text}"
  let isGuarded := direction = .write && (← Action.hasOption 'C')
  let there? ← if isGuarded then Except.toOption <$> Action.ask (.info path) else pure none
  match there? with
  | some info =>
    if !info.isDirectory && !info.isDevice then complain .alreadyThere
  | none => pure ()
  match ← Action.ask (.open_ descriptor path (access direction)) with
  | none => return ()
  | some e => complain e

/-- What a descriptor meant: the number under which that is kept, or none if it was closed. -/
abbrev Kept := List (Nat × Option Nat)

def keep (kept : Kept) (descriptor : Nat) : Action Kept := do
  if (kept.lookup descriptor).isSome then return kept
  else
    let copy ← Action.ask (.vacant Action.firstOwnDescriptor)
    let isOpen ← Action.ask (.duplicate descriptor copy true)
    return (descriptor, if isOpen then some copy else none) :: kept

/-- Carries redirections out; what they replace is kept. -/
def apply (keeps : Bool) : Kept → List Redirecting → Action Kept
  | kept, [] => return kept
  | kept, r :: rs => do
    let keepIt : Action Kept := if keeps then keep kept r.descriptor else return kept
    match r with
    | .copy n none =>
      let kept ← keepIt
      Action.tell (.close n)
      apply keeps kept rs
    | .copy n (some source) =>
      if source = n then apply keeps kept rs
      else
        let kept ← keepIt
        if ← Action.ask (.duplicate source n false) then apply keeps kept rs
        else
          restore kept
          Action.fail s!"{source}: Bad file descriptor"
    | .file n direction path =>
      let temporary ← Action.ask (.vacant Action.firstOwnDescriptor)
      tryCatch (openFile temporary direction path) fun h => do
        restore kept
        throw h
      let kept ← keepIt
      let _ ← Action.ask (.duplicate temporary n false)
      Action.tell (.close temporary)
      apply keeps kept rs
    | .text n content =>
      let reader ← Action.ask (.vacant Action.firstOwnDescriptor)
      let writer ← Action.ask (.vacant (reader + 1))
      Action.tell (.pipe reader writer)
      let _ ← Action.writeTo writer content
      Action.tell (.close writer)
      let kept ← keepIt
      let _ ← Action.ask (.duplicate reader n false)
      Action.tell (.close reader)
      apply keeps kept rs
where
  restore (kept : Kept) : Action Unit :=
    kept.forM fun (n, place) => do
      match place with
      | none => Action.tell (.close n)
      | some place =>
        let _ ← Action.ask (.duplicate place n false)
        Action.tell (.close place)

def forget (kept : Kept) : Action Unit :=
  kept.forM fun (_, place) =>
    match place with
    | none => return ()
    | some place => Action.tell (.close place)

/-- An action with redirections around it; if they fail, there is a status in its place. -/
def around (rs : List Redirecting) (lasts : Bool) (m : Action Nat) (failed : Action Nat) :
    Action Nat := do
  let kept? ← tryCatch (some <$> apply true [] rs) fun h =>
    if h = .failed then return none else throw h
  match kept? with
  | none => failed
  | some kept => Action.andFinally m (if lasts then forget kept else apply.restore kept)

end Redirecting

end PanelLauncher.Shell
