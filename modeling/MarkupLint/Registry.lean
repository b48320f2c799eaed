import MarkupLint.Text.Case

set_option autoImplicit false

namespace MarkupLint

inductive DirectiveKind where
  | ignored
  | codeBlock
  | projectCode
  | projectCodeBlock
  | projectInclude
  | builtIn (name : String)
deriving DecidableEq, Repr

structure RoleOptions where
  language : Option String := none
  format : Option String := none
deriving DecidableEq, Repr

inductive RoleKind where
  | ignored
  | builtIn (name : String) (options : RoleOptions := {})
  | verbatim
deriving DecidableEq, Repr

namespace RoleKind

def texts (kind : RoleKind) (text : String) : List String :=
  if kind = .ignored then [] else [text]

end RoleKind

def putNamed {α : Type} (name : String) (value : α) : List (String × α) → List (String × α)
  | [] => [(name, value)]
  | (other, old) :: rest =>
      if other = name then (name, value) :: rest else (other, old) :: putNamed name value rest

structure Registry where
  directives : List (String × DirectiveKind)
  roles : List (String × RoleKind)
  -- Whether roles are stored in small letters.
  smallRoles : Bool := true
deriving DecidableEq, Repr

namespace Registry

def empty : Registry := { directives := [], roles := [] }

def setDirective (registry : Registry) (name : String) (kind : DirectiveKind) : Registry :=
  { registry with directives := putNamed name kind registry.directives }

def roleKey (registry : Registry) (name : String) : String :=
  if registry.smallRoles then Text.toLower name else name

def setRole (registry : Registry) (name : String) (kind : RoleKind) : Registry :=
  { registry with roles := putNamed (registry.roleKey name) kind registry.roles }

def directive? (registry : Registry) (name : String) : Option DirectiveKind :=
  registry.directives.lookup (Text.toLower name)

def role? (registry : Registry) (name : String) : Option RoleKind :=
  registry.roles.lookup (Text.toLower name)

def clearDefaultRole (registry : Registry) : Registry :=
  { registry with roles := registry.roles.filter fun role => role.1 ≠ "" }

def ignore (registry : Registry) (directives roles : List String) : Registry :=
  let withDirectives := directives.foldl (fun found name => found.setDirective name .ignored) registry
  roles.foldl (fun found name => found.setRole name .ignored) withDirectives

def codeDirectives : List String := ["code", "code-block", "sourcecode"]

def addCodeDirectives (registry : Registry) (ignored : List String) : Registry :=
  (codeDirectives.filter fun name => !ignored.contains name).foldl
    (fun found name => found.setDirective name .codeBlock) registry

def substitutionRole (name : String) : String := "substitution-" ++ name

def addSubstitution (registry : Registry) (name : String) : Registry :=
  registry.setRole (substitutionRole name) .verbatim

end Registry

end MarkupLint
