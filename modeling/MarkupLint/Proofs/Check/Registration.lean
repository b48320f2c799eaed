import MarkupLint.Proofs.Code.Selection

set_option autoImplicit false

namespace MarkupLint

theorem lookup_entry {α : Type} (name wanted : String) (value : α) (rest : List (String × α)) :
    ((name, value) :: rest).lookup wanted = if wanted = name then some value else rest.lookup wanted := by
  rw [List.lookup_cons]
  by_cases own : wanted = name
  · rw [if_pos own, beq_iff_eq.mpr own]
  · rw [if_neg own, beq_eq_false_iff_ne.mpr own]

@[simp]
theorem lookup_put {α : Type} (name wanted : String) (value : α) (table : List (String × α)) :
    (putNamed name value table).lookup wanted = if wanted = name then some value else table.lookup wanted := by
  induction table with
  | nil => rw [putNamed, lookup_entry]
  | cons entry rest ih =>
      obtain ⟨other, old⟩ := entry
      rw [putNamed, lookup_entry]
      by_cases same : other = name
      · rw [if_pos same, lookup_entry, same]
        by_cases own : wanted = name <;> simp [own]
      · rw [if_neg same, lookup_entry, ih]
        by_cases own : wanted = name
        · simp [own, Ne.symm same]
        · simp [own]

theorem mem_names_iff {α : Type} (table : List (String × α)) (name : String) :
    name ∈ table.map (·.1) ↔ (table.lookup name).isSome = true := by
  induction table with
  | nil => simp
  | cons entry rest ih =>
      obtain ⟨other, value⟩ := entry
      rw [List.map_cons, List.mem_cons, ih, lookup_entry]
      by_cases own : name = other <;> simp [own]

namespace Registry

theorem set_directives_lookup (registry : Registry) (names : List String) (kind : DirectiveKind) (wanted : String) :
    (names.foldl (fun found name => found.setDirective name kind) registry).directives.lookup wanted =
      if wanted ∈ names then some kind else registry.directives.lookup wanted := by
  induction names generalizing registry with
  | nil => simp
  | cons name rest ih =>
      rw [List.foldl_cons, ih, setDirective, lookup_put]
      by_cases later : wanted ∈ rest <;> by_cases own : wanted = name <;> simp [later, own]

@[simp]
theorem set_directives_roles (registry : Registry) (names : List String) (kind : DirectiveKind) :
    (names.foldl (fun found name => found.setDirective name kind) registry).roles = registry.roles := by
  induction names generalizing registry with
  | nil => rfl
  | cons name rest ih => exact ih (registry.setDirective name kind)

@[simp]
theorem set_directives_role_key (registry : Registry) (names : List String) (kind : DirectiveKind) :
    (names.foldl (fun found name => found.setDirective name kind) registry).roleKey = registry.roleKey := by
  induction names generalizing registry with
  | nil => rfl
  | cons name rest ih => exact ih (registry.setDirective name kind)

theorem set_roles_lookup (registry : Registry) (names : List String) (kind : RoleKind) (wanted : String) :
    (names.foldl (fun found name => found.setRole name kind) registry).roles.lookup wanted =
      if wanted ∈ names.map registry.roleKey then some kind else registry.roles.lookup wanted := by
  induction names generalizing registry with
  | nil => simp
  | cons name rest ih =>
      have same : (registry.setRole name kind).roleKey = registry.roleKey := rfl
      rw [List.foldl_cons, ih, same, setRole, lookup_put, List.map_cons]
      by_cases later : wanted ∈ rest.map registry.roleKey <;> by_cases own : wanted = registry.roleKey name <;>
        simp [later, own]

@[simp]
theorem set_roles_directives (registry : Registry) (names : List String) (kind : RoleKind) :
    (names.foldl (fun found name => found.setRole name kind) registry).directives = registry.directives := by
  induction names generalizing registry with
  | nil => rfl
  | cons name rest ih => exact ih (registry.setRole name kind)

theorem ignore_directives_lookup (registry : Registry) (directives roles : List String) (wanted : String) :
    (registry.ignore directives roles).directives.lookup wanted =
      if wanted ∈ directives then some .ignored else registry.directives.lookup wanted := by
  rw [ignore, set_roles_directives, set_directives_lookup]

theorem ignore_roles_lookup (registry : Registry) (directives roles : List String) (wanted : String) :
    (registry.ignore directives roles).roles.lookup wanted =
      if wanted ∈ roles.map registry.roleKey then some .ignored else registry.roles.lookup wanted := by
  rw [ignore, set_roles_lookup, set_directives_roles, set_directives_role_key]

theorem add_code_roles (registry : Registry) (ignored : List String) :
    (registry.addCodeDirectives ignored).roles = registry.roles ∧
      (registry.addCodeDirectives ignored).roleKey = registry.roleKey :=
  ⟨set_directives_roles _ _ _, set_directives_role_key _ _ _⟩

theorem add_code_lookup (registry : Registry) (ignored : List String) (wanted : String) :
    (registry.addCodeDirectives ignored).directives.lookup wanted =
      if wanted ∈ codeDirectives ∧ wanted ∉ ignored then some .codeBlock else registry.directives.lookup wanted := by
  rw [addCodeDirectives, set_directives_lookup]
  simp

theorem ignore_project_lookup (registry : Registry) (wanted : String) :
    registry.ignoreProject.directives.lookup wanted =
      if wanted ∉ keptDirectives ∧ (wanted ∈ projectDirectives ∨ (registry.directives.lookup wanted).isSome = true) then
        some .ignored
      else registry.directives.lookup wanted := by
  have named : wanted ∈ withoutKept (projectDirectives ++ registry.directives.map (·.1)) ↔
      wanted ∉ keptDirectives ∧ (wanted ∈ projectDirectives ∨ (registry.directives.lookup wanted).isSome = true) := by
    rw [withoutKept, List.mem_filter, List.mem_append, mem_names_iff, and_comm]
    simp
  rw [ignoreProject, ignore_directives_lookup]
  exact if_congr named rfl rfl

theorem ignore_project_roles_lookup (registry : Registry) (wanted : String)
    (ignored : registry.roles.lookup wanted = some .ignored) :
    registry.ignoreProject.roles.lookup wanted = some .ignored := by
  rw [ignoreProject, ignore_roles_lookup, ignored]
  split <;> rfl

end Registry

namespace Check

section Prepared

variable (bench : Workbench) (session : Session)

def prepared : Registry := ((prepareRegistry bench).run session).2.registry

theorem prepared_alone (alone : bench.project = false) :
    prepared bench session = (session.registry.addCodeDirectives session.ignores.directives).ignore
      session.ignores.directives session.ignores.roles := by
  change (if bench.project then _ else _) = _
  simp [alone]

theorem prepared_project (inside : bench.project = true) :
    prepared bench session =
      (session.registry.ignore session.ignores.directives session.ignores.roles).ignoreProject := by
  change (if bench.project then _ else _) = _
  simp [inside]

theorem prepared_role (spelled : String)
    (listed : Text.toLower spelled ∈ session.ignores.roles.map session.registry.roleKey) :
    (prepared bench session).role? spelled = some .ignored := by
  rw [Registry.role?]
  by_cases inside : bench.project = true
  · rw [prepared_project bench session inside]
    apply Registry.ignore_project_roles_lookup
    rw [Registry.ignore_roles_lookup, if_pos listed]
  · rw [prepared_alone bench session (Bool.eq_false_iff.mpr inside), Registry.ignore_roles_lookup,
      (Registry.add_code_roles _ _).2, if_pos listed]

theorem prepared_role_alone (alone : bench.project = false) (spelled : String) :
    (prepared bench session).role? spelled =
      if Text.toLower spelled ∈ session.ignores.roles.map session.registry.roleKey then some .ignored
      else session.registry.role? spelled := by
  rw [Registry.role?, prepared_alone bench session alone, Registry.ignore_roles_lookup, (Registry.add_code_roles _ _).1,
    (Registry.add_code_roles _ _).2, Registry.role?]

-- The directive that a stored name stands for, if it is not listed.
def unlisted (project : Bool) (registry : Registry) (stored : String) : Option DirectiveKind :=
  if project then
    if stored ∉ keptDirectives ∧ (stored ∈ projectDirectives ∨ (registry.directives.lookup stored).isSome = true) then
      some .ignored
    else registry.directives.lookup stored
  else if stored ∈ Registry.codeDirectives then some .codeBlock
  else registry.directives.lookup stored

theorem prepared_directive (spelled : String) :
    (prepared bench session).directive? spelled =
      if Text.toLower spelled ∈ session.ignores.directives then some .ignored
      else unlisted bench.project session.registry (Text.toLower spelled) := by
  rw [Registry.directive?, unlisted]
  generalize Text.toLower spelled = stored
  by_cases inside : bench.project = true
  · rw [prepared_project bench session inside, Registry.ignore_project_lookup, Registry.ignore_directives_lookup]
    by_cases listed : stored ∈ session.ignores.directives
    · simp [listed]
    · rw [if_neg listed, if_neg listed, if_pos inside]
  · rw [prepared_alone bench session (Bool.eq_false_iff.mpr inside), Registry.ignore_directives_lookup,
      Registry.add_code_lookup]
    by_cases listed : stored ∈ session.ignores.directives
    · simp [listed]
    · simp [listed, inside]

/-- A role is ignored whenever its name in small letters is that under which a listed one is stored, so every listed
role is, in whatever letters, if roles are stored in small letters; without a project no other role becomes ignored. A
directive is ignored exactly if its name in small letters is listed, or stands for an ignored one without being
listed. The directives for code that are not listed show code, unless the document is part of a project. -/
theorem prepared_ignores_iff :
    (∀ spelled, Text.toLower spelled ∈ session.ignores.roles.map session.registry.roleKey →
      (prepared bench session).role? spelled = some .ignored) ∧
    (session.registry.smallRoles = true → ∀ name ∈ session.ignores.roles, ∀ spelled,
      Text.toLower spelled = Text.toLower name → (prepared bench session).role? spelled = some .ignored) ∧
    (bench.project = false → ∀ spelled, (prepared bench session).role? spelled = some .ignored ↔
      Text.toLower spelled ∈ session.ignores.roles.map session.registry.roleKey ∨
        session.registry.role? spelled = some .ignored) ∧
    (∀ spelled, (prepared bench session).directive? spelled = some .ignored ↔
      Text.toLower spelled ∈ session.ignores.directives ∨
        unlisted bench.project session.registry (Text.toLower spelled) = some .ignored) ∧
    (bench.project = false → ∀ name ∈ Registry.codeDirectives, name ∉ session.ignores.directives →
      (prepared bench session).directive? name = some .codeBlock) := by
  refine ⟨prepared_role bench session, ?_, ?_, ?_, ?_⟩
  · intro small name listed spelled alike
    refine prepared_role bench session spelled (List.mem_map.mpr ⟨name, listed, ?_⟩)
    rw [Registry.roleKey, if_pos small, alike]
  · intro alone spelled
    rw [prepared_role_alone bench session alone]
    by_cases listed : Text.toLower spelled ∈ session.ignores.roles.map session.registry.roleKey <;> simp [listed]
  · intro spelled
    rw [prepared_directive]
    by_cases listed : Text.toLower spelled ∈ session.ignores.directives <;> simp [listed]
  · intro alone name code absent
    have small : ∀ name ∈ Registry.codeDirectives, Text.toLower name = name := by decide
    rw [prepared_directive, small name code, if_neg absent, alone, unlisted]
    simp [code]

end Prepared

-- Names with capital letters that are to be ignored.
def capitals (smallRoles : Bool) : Session where
  ignores := { directives := ["Foo", "CODE"], roles := ["RFC"] }
  registry := { Registry.empty with smallRoles }

/-- The role is ignored if it is stored in small letters; of the directives, one stays unknown and the other one still
shows code. -/
theorem prepared_ignores_capitals :
    (prepared bareBench (capitals true)).role? "rfc" = some .ignored ∧
      (prepared bareBench (capitals false)).role? "RFC" ≠ some .ignored ∧
      (prepared bareBench (capitals true)).directive? "Foo" ≠ some .ignored ∧
      (prepared bareBench (capitals true)).directive? "CODE" ≠ some .ignored ∧
      (prepared bareBench (capitals true)).directive? "code" = some .codeBlock := by
  obtain ⟨-, roles, -, directives, code⟩ := prepared_ignores_iff bareBench (capitals true)
  obtain ⟨-, -, given, -, -⟩ := prepared_ignores_iff bareBench (capitals false)
  refine ⟨roles rfl "RFC" (by decide) "rfc" (by decide), ?_, ?_, ?_, code rfl "code" (by decide) (by decide)⟩
  · rw [ne_eq, given rfl]
    decide
  · rw [ne_eq, directives]
    decide
  · rw [ne_eq, directives]
    decide

end Check

end MarkupLint
