import MarkupLint.Inline
import MarkupLint.Pattern.Reader

set_option autoImplicit false

namespace MarkupLint

structure KnownPattern where
  text : String
  pattern : Pattern
deriving DecidableEq, Repr

structure MessagePattern where
  text : String
  foundIn : String → Bool

-- The regular expressions that are not read here. A text that is none at all has no search.
class ForeignPatterns where
  search? : String → Option (String → Bool)

abbrev ForeignPatterns.none : ForeignPatterns := ⟨fun _ => .none⟩

namespace KnownPattern

def ofString? (text : String) : Option KnownPattern :=
  (Pattern.ofText? text).map fun pattern => ⟨text, pattern⟩

def compiled (known : KnownPattern) : MessagePattern := ⟨known.text, known.pattern.foundIn⟩

end KnownPattern

def MessagePattern.compile? [ForeignPatterns] (text : String) : Option MessagePattern :=
  match KnownPattern.ofString? text with
  | some known => some known.compiled
  | none => (ForeignPatterns.search? text).map fun search => ⟨text, search⟩

structure Ignores where
  messages : Option MessagePattern := none
  languages : List String := []
  directives : List String := []
  roles : List String := []
  substitutions : List String := []

namespace Ignores

def list (ignores : Ignores) : IgnoreKind → List String
  | .directives => ignores.directives
  | .roles => ignores.roles
  | .substitutions => ignores.substitutions
  | .languages => ignores.languages

def add (ignores : Ignores) (kind : IgnoreKind) (names : List String) : Ignores :=
  match kind with
  | .directives => { ignores with directives := ignores.directives ++ names }
  | .roles => { ignores with roles := ignores.roles ++ names }
  | .substitutions => { ignores with substitutions := ignores.substitutions ++ names }
  | .languages => { ignores with languages := ignores.languages ++ names }

def addInline (ignores : Ignores) (source : String) : Ignores :=
  { ignores with
    directives := ignores.directives ++ Inline.names .directives source
    roles := ignores.roles ++ Inline.names .roles source
    substitutions := ignores.substitutions ++ Inline.names .substitutions source
    languages := ignores.languages ++ Inline.names .languages source }

end Ignores

end MarkupLint
