import MarkupLint.Markup.Highlight
import MarkupLint.Markup.Span
import MarkupLint.Markup.State
import MarkupLint.Text.Digit

set_option autoImplicit false

namespace MarkupLint.Markup

def roleNames : List (String × String) :=
  [ ("abbreviation", "abbreviation"), ("ab", "abbreviation"), ("acronym", "acronym"),
    ("ac", "acronym"), ("code", "code"), ("index", "index"), ("i", "index"),
    ("subscript", "subscript"), ("sub", "subscript"), ("superscript", "superscript"),
    ("sup", "superscript"), ("title-reference", "title-reference"), ("title", "title-reference"),
    ("t", "title-reference"), ("pep-reference", "pep-reference"), ("pep", "pep-reference"),
    ("rfc-reference", "rfc-reference"), ("rfc", "rfc-reference"), ("emphasis", "emphasis"),
    ("strong", "strong"), ("literal", "literal"), ("math", "math"),
    ("named-reference", "named-reference"), ("anonymous-reference", "anonymous-reference"),
    ("footnote-reference", "footnote-reference"), ("citation-reference", "citation-reference"),
    ("substitution-reference", "substitution-reference"), ("target", "target"),
    ("uri-reference", "uri-reference"), ("uri", "uri-reference"), ("url", "uri-reference"),
    ("raw", "raw") ]

def unsupportedRoles : List String :=
  [ "index", "named-reference", "anonymous-reference", "uri-reference", "footnote-reference",
    "citation-reference", "substitution-reference", "target", "restructuredtext-unimplemented-role" ]

def defaultRole : String := "title-reference"

def plainRole : String := "inline"

def wordModule : String := "docutils.parsers.rst.languages.en"

def lookupRole (place : Place) (role : String) : Parse (Option RoleKind × List Node) := do
  match (← get).registry.role? role with
  | some kind => pure (some kind, [])
  | none =>
      let known := if role.isEmpty then some defaultRole else roleNames.lookup (Text.toLower role)
      match known with
      | some name =>
          remember role name
          pure (some (.builtIn name), [])
      | none =>
          Parse.report .info place ("No role entry for \"" ++ role ++ "\" in module \"" ++ wordModule
            ++ "\".\nTrying \"" ++ role ++ "\" as canonical role name.")
          let name := Text.toLower role
          if unsupportedRoles.contains name then
            remember role name
            pure (some (.builtIn name), [Node.message])
          else pure (none, [Node.message])
where
  remember (role name : String) : Parse Unit :=
    modify fun state => { state with registry := state.registry.setRole role (.builtIn name) }

def problematic (text : List Char) : Parse Node := do
  let message ← Parse.element .message .unknown []
  let node ← Parse.element .problematic .unknown [.text (String.ofList (restoreEscapes text))]
  let _ ← Parse.identify (message.key?.getD 0) "system-message"
  let _ ← Parse.identify (node.key?.getD 0) "problematic"
  pure node

def textNode (text : List Char) : Node := .text (String.ofList (dropEscapes text))

def spanNode (name : String) (text : List Char) : Parse Node :=
  Parse.element (.span name) .unknown [textNode text]

def isNumberWithin (low : Int) (high : Option Int) (text : List Char) : Bool :=
  match (Text.readInteger (String.ofList text)).toOption with
  | some number => decide (low ≤ number) && (high.map fun most => decide (number ≤ most)).getD true
  | none => false

def applyRole (place : Place) (kind : RoleKind) (role : String) (content raw : List Char) :
    Parse (List Node × List Node) := do
  let refuse (text : String) : Parse (List Node × List Node) := do
    Parse.report .error place text
    pure ([← problematic raw], [Node.message])
  let meant := dropEscapes content
  match kind with
  | .ignored => pure ([], [])
  | .verbatim => pure ([textNode content], [])
  | .builtIn name options =>
      if unsupportedRoles.contains name then
        refuse ("Interpreted text role \"" ++ role ++ "\" not implemented.")
      else
        match name with
        | "raw" =>
            match options.format with
            | none => refuse ("No format (Writer name) is associated with this role: \"" ++ role
                ++ "\".\nThe \"raw\" role cannot be used directly.\nInstead, use the \"role\" directive "
                ++ "to create a new role with an associated format.")
            | some _ =>
                let node ← Parse.element (.span "raw") place
                  [.text (String.ofList (restoreEscapes content))]
                pure ([node], [])
        | "code" =>
            let language := options.language.getD ""
            if isHighlighted language then pure ([← spanNode "literal" content], [])
            else do
              modify fun state => state.tellNear .warning .unknown
                ("Cannot analyze code. No Pygments lexer found for \"" ++ language ++ "\".")
              pure ([← problematic raw], [Node.message])
        | "pep-reference" =>
            if isNumberWithin 0 (some 9999) meant then pure ([← reference content], [])
            else refuse ("PEP number must be a number from 0 to 9999; \"" ++ String.ofList content
              ++ "\" is invalid.")
        | "rfc-reference" =>
            if isNumberWithin 1 none (meant.takeWhile (· ≠ '#')) then pure ([← reference content], [])
            else refuse ("RFC number must be a number greater than or equal to 1; \""
              ++ String.ofList content ++ "\" is invalid.")
        | _ => pure ([← spanNode name content], [])
where
  reference (text : List Char) : Parse Node :=
    Parse.element (.reference (String.ofList (restoreEscapes text))) .unknown [textNode text]
      { refuri := some (String.ofList text) }

end MarkupLint.Markup
