import PanelLauncher.Launch

/-!
# Stages one after the other

What each stage does with the files it finds, and what two stages do one after the other. A call
that both make together is one of the first, or one of the second after the first succeeded.
-/

namespace PanelLauncher

variable {α β : Type}

namespace Outcome

@[simp] theorem andThen_ok (hs : List Happening) (cs : List Call) (files : FileTree) (a : α)
    (as : List Happening) (next : α → Stage β) :
    (Outcome.mk hs cs files (.ok a) as).andThen next =
      ⟨hs ++ (next a files).happenings, cs ++ (next a files).calls, (next a files).files,
        (next a files).result, as ++ (next a files).aftermath⟩ := rfl

@[simp] theorem andThen_error (hs : List Happening) (cs : List Call) (files : FileTree)
    (e : LaunchError) (as : List Happening) (next : α → Stage β) :
    (Outcome.mk hs cs files (.error e) as).andThen next = ⟨hs, cs, files, .error e, as⟩ := rfl

end Outcome

namespace Stage

@[simp] theorem bind_apply (first : Stage α) (next : α → Stage β) (files : FileTree) :
    (first >>= next) files = (first files).andThen next := rfl

@[simp] theorem pure_apply (a : α) (files : FileTree) :
    (pure a : Stage α) files = ⟨[], [], files, .ok a, []⟩ := rfl

@[simp] theorem mapError_ok {ε ε' : Type} (f : ε → ε') (a : α) :
    (Except.ok a : Except ε α).mapError f = .ok a := rfl

@[simp] theorem mapError_error {ε ε' : Type} (f : ε → ε') (e : ε) :
    (Except.error e : Except ε α).mapError f = .error (f e) := rfl

@[simp] theorem done_apply (result : Except LaunchError α) (files : FileTree) :
    done result files = ⟨[], [], files, result, []⟩ := rfl

@[simp] theorem files_apply (files : FileTree) :
    Stage.files files = ⟨[], [], files, .ok files, []⟩ := rfl

@[simp] theorem log_apply (events : List Log.Event) (files : FileTree) :
    log events files = ⟨events.map .logged, [], files, .ok (), []⟩ := rfl

@[simp] theorem touch_apply (place : Location) (files : FileTree) :
    touch place files = ⟨[], [], files.touch place, .ok (), []⟩ := rfl

@[simp] theorem ask_ok (request : Request) (a : α) (files : FileTree) :
    ask request (.ok a) files = ⟨[], [⟨request, none⟩], files, .ok a, []⟩ := rfl

@[simp] theorem ask_error (request : Request) (fault : IoFault) (files : FileTree) :
    ask request (.error fault : Except IoFault α) files =
      ⟨[], [⟨request, some fault⟩], files, .error (request.error fault), []⟩ := rfl

theorem mem_calls_bind {first : Stage α} {next : α → Stage β} {files : FileTree} {call : Call}
    (h : call ∈ ((first >>= next) files).calls) :
    call ∈ (first files).calls ∨
      ∃ a, (first files).result = .ok a ∧ call ∈ (next a (first files).files).calls := by
  rw [bind_apply] at h
  generalize first files = o at h ⊢
  obtain ⟨hs, cs, files, result, as⟩ := o
  cases result with
  | error e => exact .inl h
  | ok a => exact (List.mem_append.mp h).imp_right fun h => ⟨a, rfl, h⟩

theorem request_of_mem_ask {request : Request} {answer : Except IoFault α} {files : FileTree}
    {call : Call} (h : call ∈ (ask request answer files).calls) : call.request = request := by
  rw [List.mem_singleton.mp h]

end Stage

end PanelLauncher
