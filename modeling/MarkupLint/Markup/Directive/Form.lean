import MarkupLint.Markup.OptionValue
import MarkupLint.Registry

set_option autoImplicit false

namespace MarkupLint.Markup

structure DirectiveForm where
  required : Nat := 0
  optional : Nat := 0
  lastTakesRest : Bool := false
  options : Option (List (String × OptionKind)) := none
  hasContent : Bool := false
deriving Repr

namespace DirectiveForm

def takesArguments (form : DirectiveForm) : Bool := 0 < form.required + form.optional

def content : DirectiveForm := { hasContent := true }

def block (options : List (String × OptionKind)) : DirectiveForm :=
  { options := some options, hasContent := true }

def titled (required : Bool) (options : List (String × OptionKind)) : DirectiveForm :=
  { required := if required then 1 else 0, optional := if required then 0 else 1
    lastTakesRest := true, options := some options, hasContent := true }

def line (options : Option (List (String × OptionKind))) : DirectiveForm :=
  { required := 1, lastTakesRest := true, options := options }

end DirectiveForm

def directiveAliases : List (String × String) :=
  [("code-block", "code"), ("sourcecode", "code"), ("section-numbering", "sectnum")]

def admonitionNames : List String :=
  [ "attention", "caution", "danger", "error", "hint", "important", "note", "tip", "warning" ]

def commonOptions : List (String × OptionKind) := [("class", .classes), ("name", .text)]

def sideways : List String := ["left", "center", "right"]

def upright : List String := ["top", "middle", "bottom"]

def imageOptions : List (String × OptionKind) :=
  commonOptions ++
    [ ("alt", .text), ("height", .length), ("width", .lengthOrPercentage), ("scale", .percentage),
      ("align", .choice (upright ++ sideways)), ("target", .requiredText),
      ("loading", .choice ["embed", "link", "lazy"]) ]

def figureOptions : List (String × OptionKind) :=
  imageOptions.filter (fun option => option.1 ≠ "align") ++
    [ ("align", .choice sideways), ("figwidth", .figureWidth), ("figclass", .classes), ("figname", .text) ]

def tableOptions : List (String × OptionKind) :=
  commonOptions ++ [("align", .choice sideways), ("width", .lengthOrPercentage)]

def listTableOptions : List (String × OptionKind) :=
  tableOptions ++ [("header-rows", .count), ("stub-columns", .count), ("widths", .widths ["auto"])]

def csvOptions : List (String × OptionKind) :=
  listTableOptions ++
    [ ("header", .text), ("file", .path), ("url", .address), ("encoding", .encoding),
      ("delim", .characterOrBlank), ("keepspace", .flag), ("quote", .character),
      ("escape", .character) ]

def includeOptions : List (String × OptionKind) :=
  commonOptions ++
    [ ("literal", .flag), ("code", .text), ("encoding", .encoding), ("parser", .language),
      ("tab-width", .integer), ("start-line", .integer), ("end-line", .integer),
      ("start-after", .requiredText), ("end-before", .requiredText), ("number-lines", .text) ]

def builtInForms : List (String × DirectiveForm) :=
  admonitionNames.map (fun name => (name, .block commonOptions)) ++
  [ ("admonition", .titled true commonOptions),
    ("sidebar", .titled false (commonOptions ++ [("subtitle", .requiredText)])),
    ("topic", .titled true commonOptions),
    ("line-block", .block commonOptions),
    ("parsed-literal", .block commonOptions),
    ("rubric", .line (some commonOptions)),
    ("epigraph", .content),
    ("highlights", .content),
    ("pull-quote", .content),
    ("compound", .block commonOptions),
    ("container", .titled false [("name", .text)]),
    ("table", .titled false (tableOptions ++ [("widths", .widths ["auto", "grid"])])),
    ("csv-table", .titled false csvOptions),
    ("list-table", .titled false listTableOptions),
    ("meta", .content),
    ("math", .block commonOptions),
    ("image", .line (some imageOptions)),
    ("figure", .titled true figureOptions),
    ("include", .line (some includeOptions)),
    ("raw", .titled true
      [("file", .path), ("url", .address), ("encoding", .encoding), ("class", .classes)]),
    ("replace", .content),
    ("unicode", .line (some [("trim", .flag), ("ltrim", .flag), ("rtrim", .flag)])),
    ("date", .content),
    ("class", { required := 1, lastTakesRest := true, hasContent := true }),
    ("role", .content),
    ("default-role", { optional := 1 }),
    ("title", .line none),
    ("contents", { optional := 1, lastTakesRest := true
                   options := some [ ("depth", .count), ("local", .flag),
                     ("backlinks", .choice ["top", "entry", "none"]), ("class", .classes) ] }),
    ("sectnum", { options := some [ ("depth", .integer), ("start", .integer),
                    ("prefix", .requiredText), ("suffix", .requiredText) ] }),
    ("header", .content),
    ("footer", .content),
    ("target-notes", { options := some commonOptions }),
    ("code", { optional := 1, hasContent := true
               options := some (commonOptions ++ [("force", .flag), ("number-lines", .text)]) }),
    ("restructuredtext-test-directive", .titled false [("option", .requiredText)]) ]

def builtInDirective? (word : String) : Option String :=
  let name := (directiveAliases.lookup word).getD word
  (builtInForms.lookup name).map fun _ => name

def directiveForm : DirectiveKind → DirectiveForm
  | .ignored => .content
  | .codeBlock => { optional := 1, hasContent := true }
  | .projectCode =>
      { optional := 1, hasContent := true
        options := some (commonOptions ++ [("force", .flag), ("number-lines", .optionalCount)]) }
  | .projectCodeBlock =>
      { optional := 1, hasContent := true
        options := some (commonOptions ++
          [ ("force", .flag), ("linenos", .flag), ("dedent", .optionalCount), ("lineno-start", .integer),
            ("emphasize-lines", .requiredText), ("caption", .requiredText) ]) }
  | .projectInclude => .line (some includeOptions)
  | .builtIn name => (builtInForms.lookup name).getD {}

end MarkupLint.Markup
