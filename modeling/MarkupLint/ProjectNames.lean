import MarkupLint.Registry

set_option autoImplicit false

namespace MarkupLint

structure Domain where
  name : String
  directives : List String
  roles : List String
deriving Repr

namespace Domain

def qualify (domain : Domain) (names : List String) : List String :=
  names ++ names.map fun name => domain.name ++ ":" ++ name

end Domain

def standardDirectives : List String :=
  [ "program", "cmdoption", "option", "envvar", "glossary", "productionlist" ]

def standardRoles : List String :=
  [ "option", "envvar", "token", "term", "ref", "numref", "keyword", "doc" ]

def domains : List Domain :=
  [ { name := "c"
      directives := [ "member", "var", "function", "macro", "struct", "union", "enum",
                      "enumerator", "type", "namespace", "namespace-push", "namespace-pop",
                      "alias" ]
      roles := [ "member", "data", "var", "func", "macro", "struct", "union", "enum",
                 "enumerator", "type", "expr", "texpr" ] },
    { name := "cpp"
      directives := [ "class", "struct", "union", "function", "member", "var", "type", "concept",
                      "enum", "enum-struct", "enum-class", "enumerator", "namespace",
                      "namespace-push", "namespace-pop", "alias" ]
      roles := [ "any", "class", "struct", "union", "func", "member", "var", "type", "concept",
                 "enum", "enumerator", "expr", "texpr" ] },
    { name := "js"
      directives := [ "function", "method", "class", "data", "attribute", "module" ]
      roles := [ "func", "meth", "class", "data", "attr", "mod" ] },
    { name := "py"
      directives := [ "function", "data", "class", "exception", "method", "classmethod",
                      "staticmethod", "attribute", "property", "module", "currentmodule",
                      "decorator", "decoratormethod" ]
      roles := [ "data", "exc", "func", "class", "const", "attr", "meth", "mod", "obj" ] } ]

def projectDirectives : List String :=
  standardDirectives ++ domains.flatMap fun domain => domain.qualify domain.directives

def projectRoles : List String :=
  standardRoles ++ domains.flatMap fun domain => domain.qualify domain.roles

def keptDirectives : List String := ["code", "code-block", "sourcecode", "include"]

def withoutKept (directives : List String) : List String :=
  directives.filter fun name => !keptDirectives.contains name

def loadedDirectives : List String :=
  [ "toctree", "sectionauthor", "moduleauthor", "codeauthor", "seealso", "tabularcolumns", "centered",
    "acks", "hlist", "only", "figure", "meta", "csv-table", "math", "default-role", "default-domain",
    "object", "describe", "rst-class", "cssclass", "highlight", "highlightlang", "literalinclude",
    "index", "deprecated", "versionadded", "versionchanged", "versionremoved" ]

def loadedRoles : List String :=
  [ "command", "dfn", "kbd", "mailheader", "makevar", "mimetype", "newsgroup", "program", "regexp",
    "download", "any", "eq", "pep", "rfc", "guilabel", "menuselection", "file", "samp", "abbr",
    "index" ]

namespace Registry

def loadProject (registry : Registry) : Registry :=
  let withNames := registry.ignore loadedDirectives loadedRoles
  [("code", .projectCode), ("code-block", .projectCodeBlock), ("sourcecode", .projectCodeBlock),
    ("include", .projectInclude)].foldl (fun registry (name, kind) => registry.setDirective name kind)
    withNames

-- Ignores all names of a project, and with them everything that has been registered before, but for the
-- directives that are kept.
def ignoreProject (registry : Registry) : Registry :=
  registry.ignore
    (withoutKept (projectDirectives ++ registry.directives.map (·.1)))
    (projectRoles ++ registry.roles.map (·.1))

end Registry

end MarkupLint
