import MarkupLint.Markup.Directive.Form
import MarkupLint.Markup.Paragraph

set_option autoImplicit false

namespace MarkupLint.Markup

-- A directive with what it was called with. `place` is where it starts; messages about it are given at
-- `reported`. The content starts at `contentReported`, even if there is none. `definition` is the name of
-- the substitution that the directive is the value of.
structure Call where
  name : String
  arguments : List String := []
  options : List (String × Option String) := []
  content : List Line := []
  contentReported : Place := .unknown
  place : Place
  reported : Place
  blockText : String
  lastPlace : Place
  definition : Option String := none
  reader : Reader

namespace Call

def has (call : Call) (option : String) : Bool := (call.options.lookup option).isSome

def text? (call : Call) (option : String) : Option String :=
  (call.options.lookup option).map fun value => value.getD ""

def argument (call : Call) : String := call.arguments.headD ""

def classes (call : Call) (option : String := "class") : List String :=
  ((call.text? option).bind OptionValue.classes?).getD []

def count (call : Call) (option : String) : Nat :=
  ((call.text? option).bind OptionValue.count?).getD 0

def refuse (call : Call) (severity : Severity) (text : String) : Parse (List Node) := do
  Parse.report severity call.reported text
  pure [Node.message]

def complain (call : Call) (severity : Severity) (text : String) : Parse (List Node) := do
  Parse.report severity call.reported text [call.blockText]
  pure [Node.message]

def withContent (call : Call) (action : Parse (List Node)) : Parse (List Node) :=
  if call.content.isEmpty then
    call.refuse .error ("Content block expected for the \"" ++ call.name ++ "\" directive; none found.")
  else action

def inline (call : Call) (text : String) : Parse (List Node × List Node) :=
  inlineText call.reported text.toList

def named (call : Call) (node : Node) (option : String := "name") : Parse Node := do
  match call.text? option, node.key? with
  | some text, some key =>
      Parse.updateFacts key fun facts => { facts with names := facts.names ++ [normalName text] }
      let marks ← Parse.register node true node.place
      pure (node.withChildren (node.children ++ marks))
  | _, _ => pure node

end Call

inductive BlockFault where
  | invalidOptions
  | severalWords
  | notOneParagraph (option : String)
  | unknownOption (option : String)
  | duplicateOption (option : String)
  | unfitValue (option : String)
  | tooFewArguments (required found : Nat)
  | tooManyArguments (most found : Nat)
  | contentNotPermitted
deriving DecidableEq, Repr

namespace BlockFault

def message : BlockFault → String
  | .invalidOptions => "invalid option block"
  | .severalWords => "invalid option data: extension option field name may not contain multiple words"
  | .notOneParagraph option => "invalid option data: extension option field body may contain\n"
      ++ "a single paragraph only (option \"" ++ option ++ "\")"
  | .unknownOption option => "unknown option: \"" ++ option ++ "\""
  | .duplicateOption option => "invalid option data: duplicate option \"" ++ option ++ "\""
  | .unfitValue option => "invalid option value: (option: \"" ++ option ++ "\")"
  | .tooFewArguments required found =>
      toString required ++ " argument(s) required, " ++ toString found ++ " supplied"
  | .tooManyArguments most found =>
      "maximum " ++ toString most ++ " argument(s) allowed, " ++ toString found ++ " supplied"
  | .contentNotPermitted => "no content permitted"

end BlockFault

structure OptionField where
  name : String
  clean : Bool
  value : Option String

def optionText (block : List Line) : Option String :=
  match (block.map (·.text)).filter fun text => !Text.allBlank text with
  | [] => none
  | texts => some (String.ofList (Text.joinWith '\n' texts))

def optionFields : Nat → List Line → Parse (Option (List OptionField))
  | 0, _ => pure (some [])
  | fuel + 1, lines => do
      match lines with
      | [] => pure (some [])
      | first :: _ =>
          match field? first.text with
          | none => pure none
          | some (name, column) =>
              let cut := cutFirstKnown column false false lines
              -- Messages about the markup in a name count the lines of the block from one on.
              let (nodes, messages) ← inlineText first.reported name
              let field : OptionField :=
                ⟨Node.contentOfAll nodes, messages.isEmpty, optionText cut.block⟩
              let rest ← optionFields fuel cut.rest
              pure (rest.map (field :: ·))

def checkOptions (kinds : List (String × OptionKind)) :
    List (String × Option String) → List OptionField →
      Except (BlockFault ⊕ String) (List (String × Option String))
  | done, [] => .ok done
  | done, field :: rest =>
      let name := Text.toLower field.name
      match kinds.lookup name with
      | none => .error (.inl (.unknownOption name))
      | some kind =>
          if (done.lookup name).isSome then .error (.inl (.duplicateOption name))
          else
            match OptionValue.check kind field.value with
            | .ok () => checkOptions kinds (done ++ [(name, field.value)]) rest
            | .error .unfit => .error (.inl (.unfitValue name))
            | .error (.noValue question) => .error (.inr question)

def fieldFault? (fields : List OptionField) : Option BlockFault :=
  fields.findSome? fun field =>
    if (words field.name.toList).length ≠ 1 then some .severalWords
    else if !field.clean then some (.notOneParagraph field.name)
    else none

def readOptions (kinds : List (String × OptionKind)) (block : List Line) :
    Parse (Except BlockFault (List (String × Option String))) := do
  match block with
  | [] => pure (.ok [])
  | first :: _ =>
      let origin := (← get).origin
      let fields ← optionFields (block.length + 1) (reportFrom ⟨some origin, some 1⟩ block)
      match fields with
      | none => pure (.error .invalidOptions)
      | some fields =>
          modify fun state => { state with current := ⟨first.place.source, none⟩ }
          match fieldFault? fields with
          | some fault => pure (.error fault)
          | none =>
              match checkOptions kinds [] fields with
              | .ok options => pure (.ok options)
              | .error (.inl fault) => pure (.error fault)
              | .error (.inr question) => throw (.noValue question)

def readArguments (form : DirectiveForm) (block : List Line) : Except BlockFault (List String) :=
  let text := joinLines block
  let found := words text
  let most := form.required + form.optional
  if found.length < form.required then .error (.tooFewArguments form.required found.length)
  else if most < found.length then
    if form.lastTakesRest then .ok [String.ofList (Text.trimLeft text)]
    else .error (.tooManyArguments most found.length)
  else .ok (found.map String.ofList)

structure Parts where
  arguments : List String := []
  options : List (String × Option String) := []
  content : List Line := []
  contentReported : Place

def startContent (form : DirectiveForm) (arguments : List String)
    (options : List (String × Option String)) (content : List Line) (start : Place) :
    Except BlockFault Parts :=
  let kept := dropLeadingBlank content
  if !kept.isEmpty && !form.hasContent then .error .contentNotPermitted
  else .ok ⟨arguments, options, kept, start.down ((content.length - kept.length : Nat) : Int)⟩

def readParts (form : DirectiveForm) (block : List Line) : Parse (Except BlockFault Parts) := do
  let start := firstReported block
  let (block, start) : List Line × Place := match block with
    | first :: others => if first.isBlank then (others, start.down 1) else (block, start)
    | [] => ([], start)
  let block := dropTrailingBlank block
  if block.isEmpty || !(form.takesArguments || form.options.isSome) then
    if form.takesArguments then
      pure ((readArguments form []).bind fun arguments => startContent form arguments [] block start)
    else pure (startContent form [] [] block start)
  else
    let head := block.takeWhile fun line => !line.isBlank
    let below := block.drop head.length
    let argumentLines := if form.options.isSome then
      head.takeWhile fun line => (field? line.text).isNone else head
    match ← readOptions (form.options.getD []) (head.drop argumentLines.length) with
    | .error fault => pure (.error fault)
    | .ok options =>
        if form.takesArguments then
          pure ((readArguments form argumentLines).bind fun arguments =>
            startContent form arguments options (below.drop 1)
              (start.down ((head.length + 1 : Nat) : Int)))
        else if argumentLines.isEmpty then
          pure (startContent form [] options (below.drop 1) (start.down ((head.length + 1 : Nat) : Int)))
        -- Lines before the options are content where no arguments are asked for, which is counted
        -- as if it had no gap.
        else pure (startContent form [] options (reportFrom start (argumentLines ++ below)) start)

end MarkupLint.Markup
