import MarkupLint.Text.Search

set_option autoImplicit false

namespace MarkupLint.Masking

def reference (name : List Char) : List Char := '|' :: name ++ ['|']

def masked (name : List Char) : List Char := 'x' :: name ++ ['x']

def maskName (text : List Char) (name : String) : List Char :=
  Text.replaceAll (reference name.toList) (masked name.toList) text

def maskAll (names : List String) (source : String) : String :=
  String.ofList (names.foldl maskName source.toList)

end MarkupLint.Masking
