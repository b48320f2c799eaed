import MarkupLint.Text.Search

set_option autoImplicit false

namespace MarkupLint

structure ProjectText where
  prolog : String := ""
  substitutions : List (String × String) := []
  epilog : String := ""
deriving DecidableEq, Repr

namespace ProjectText

def definitionStart (name : String) : String := ".. |" ++ name ++ "| replace::"

def define (source : String) (definition : String × String) : String :=
  if Text.hasPiece source (definitionStart definition.1) then source
  else source ++ "\n\n" ++ definitionStart definition.1 ++ " " ++ definition.2 ++ "\n"

def augment (project : ProjectText) (source : String) : String :=
  let opened := if project.prolog.isEmpty then source else project.prolog ++ "\n\n" ++ source
  let defined := project.substitutions.foldl define opened
  if project.epilog.isEmpty then defined else defined ++ "\n\n" ++ project.epilog

end ProjectText

end MarkupLint
