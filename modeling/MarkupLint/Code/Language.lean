set_option autoImplicit false

namespace MarkupLint.Code

inductive Language where
  | python
  | json
  | yaml
  | xml
  | rst
  | doctest
  | bash
  | c
  | cpp
deriving DecidableEq, Repr

namespace Language

def all : List Language := [.python, .json, .yaml, .xml, .rst, .doctest, .bash, .c, .cpp]

def name : Language → String
  | .python => "python"
  | .json => "json"
  | .yaml => "yaml"
  | .xml => "xml"
  | .rst => "rst"
  | .doctest => "doctest"
  | .bash => "bash"
  | .c => "c"
  | .cpp => "cpp"

def ofName? (name : String) : Option Language := all.find? (·.name = name)

end Language

end MarkupLint.Code
