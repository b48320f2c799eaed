import MarkupLint.Settings.Load

set_option autoImplicit false

namespace MarkupLint.Loading

variable {α β : Type}

def outcome (load : Loading α) (lines : List LogLine) : Except LoadError α := (load.run lines).1

theorem run_bind (load : Loading α) (next : α → Loading β) (lines : List LogLine) :
    (load >>= next).run lines =
      match load.run lines with
      | (.ok value, after) => (next value).run after
      | (.error cause, after) => (.error cause, after) := by
  change (match load.run lines with
    | (result, after) => (ExceptT.bindCont next result).run after) = _
  rcases load.run lines with ⟨_ | _, after⟩ <;> rfl

theorem outcome_bind (load : Loading α) (next : α → Loading β) (lines : List LogLine) :
    outcome (load >>= next) lines =
      match outcome load lines with
      | .ok value => outcome (next value) (load.run lines).2
      | .error cause => .error cause := by
  rw [outcome, outcome, run_bind]
  rcases load.run lines with ⟨_ | _, after⟩ <;> rfl

def firstOf : List (Loading (Option α)) → Loading (Option α)
  | [] => pure none
  | load :: rest => do
      let found ← load
      if found.isSome then pure found else firstOf rest

end MarkupLint.Loading
