import MarkupLint.Proofs.Check.Session
import MarkupLint.Settings.Basic

set_option autoImplicit false

namespace MarkupLint

theorem Ignores.add_all_list (ignores : Ignores) (sources : List String) (kind : IgnoreKind) :
    (ignores.addAll sources).list kind = ignores.list kind ++ sources.flatMap (Inline.names kind) := by
  induction sources generalizing ignores with
  | nil => exact (List.append_nil _).symm
  | cons source rest ih =>
      have added : (ignores.addInline source).list kind = ignores.list kind ++ Inline.names kind source := by
        cases kind <;> rfl
      change ((ignores.addInline source).addAll rest).list kind = _
      rw [ih, added, List.flatMap_cons, List.append_assoc]

namespace Settings

def listOf (settings : Settings) : IgnoreKind → Option (List String)
  | .directives => settings.directives
  | .roles => settings.roles
  | .substitutions => settings.substitutions
  | .languages => settings.languages

def extended (settings : Settings) (sources : List String) : Settings :=
  let grown (kind : IgnoreKind) := (settings.listOf kind).map (· ++ sources.flatMap (Inline.names kind))
  { settings with
    directives := grown .directives
    roles := grown .roles
    substitutions := grown .substitutions
    languages := grown .languages }

theorem ignores_list (settings : Settings) (kind : IgnoreKind) :
    settings.ignores.list kind = (settings.listOf kind).getD [] := by
  cases kind <;> rfl

theorem list_of_extended (settings : Settings) (sources : List String) (kind : IgnoreKind) :
    (settings.extended sources).listOf kind
      = (settings.listOf kind).map (· ++ sources.flatMap (Inline.names kind)) := by
  cases kind <;> rfl

theorem with_lists_add_all (settings : Settings) (sources : List String) :
    settings.withLists (settings.ignores.addAll sources) = settings.extended sources := by
  have grown (kind : IgnoreKind) : ((settings.listOf kind).map fun _ => (settings.ignores.addAll sources).list kind)
      = (settings.listOf kind).map (· ++ sources.flatMap (Inline.names kind)) := by
    rw [Ignores.add_all_list, ignores_list]
    cases settings.listOf kind <;> rfl
  simp only [extended, ← grown]
  rfl

@[simp]
theorem extended_append (settings : Settings) (first second : List String) :
    (settings.extended first).extended second = settings.extended (first ++ second) := by
  have grown (kind : IgnoreKind) :
      ((settings.extended first).listOf kind).map (· ++ second.flatMap (Inline.names kind))
        = (settings.listOf kind).map (· ++ (first ++ second).flatMap (Inline.names kind)) := by
    rw [list_of_extended, Option.map_map, List.flatMap_append]
    cases settings.listOf kind with
    | none => rfl
    | some names => exact congrArg some (List.append_assoc _ _ _)
  rw [extended]
  simp only [grown]
  rfl

theorem extended_eq_self_iff (settings : Settings) (sources : List String) :
    settings.extended sources = settings ↔
      ∀ source ∈ sources, ∀ kind, (settings.listOf kind).isSome → Inline.names kind source = [] := by
  have fixed (kind : IgnoreKind) :
      (settings.listOf kind).map (· ++ sources.flatMap (Inline.names kind)) = settings.listOf kind ↔
        ((settings.listOf kind).isSome → ∀ source ∈ sources, Inline.names kind source = []) := by
    cases settings.listOf kind with
    | none => simp
    | some names => simp [List.flatMap_eq_nil_iff]
  constructor
  · intro same source member kind isSet
    have kept : (settings.extended sources).listOf kind = settings.listOf kind := by rw [same]
    rw [list_of_extended] at kept
    exact (fixed kind).mp kept isSet source member
  · intro silent
    have kept (kind : IgnoreKind) := (fixed kind).mpr fun isSet source member => silent source member kind isSet
    simp only [extended, kept]
    rfl

@[simp]
theorem extended_nil (settings : Settings) : settings.extended [] = settings :=
  (extended_eq_self_iff settings []).mpr fun _ member => nomatch member

theorem extended_append_eq_self (settings : Settings) (first second : List String)
    (same : settings.extended (first ++ second) = settings) : settings.extended first = settings := by
  rw [extended_eq_self_iff] at same ⊢
  exact fun source member => same source (List.mem_append_left second member)

end Settings

end MarkupLint
