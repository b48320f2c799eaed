import MarkupLint.Markup.Directive.Definition
import MarkupLint.Markup.Directive.Image
import MarkupLint.Markup.Directive.Insertion
import MarkupLint.Markup.Directive.Part
import MarkupLint.Markup.Directive.Tables

set_option autoImplicit false

namespace MarkupLint.Markup

namespace Directive

def builtInAction? : String → Option (Call → Parse (List Node))
  | "admonition" => some titledAdmonition
  | "sidebar" => some sidebar
  | "topic" => some (topic ·)
  | "line-block" => some lines
  | "parsed-literal" => some parsedLiteral
  | "rubric" => some rubric
  | "epigraph" => some quotes
  | "highlights" => some quotes
  | "pull-quote" => some quotes
  | "compound" => some compound
  | "container" => some container
  | "table" => some drawnTable
  | "csv-table" => some csvTable
  | "list-table" => some listTable
  | "meta" => some metaData
  | "math" => some formulas
  | "image" => some image
  | "figure" => some figure
  | "raw" => some raw
  | "replace" => some replace
  | "unicode" => some characters
  | "date" => some date
  | "class" => some classes
  | "role" => some role
  | "default-role" => some defaultRole
  | "title" => some fun _ => pure []
  | "contents" => some contents
  | "sectnum" => some numberSections
  | "header" => some header
  | "footer" => some footer
  | "target-notes" => some targetNotes
  | "code" => some classedCode
  | "restructuredtext-test-directive" => some showCall
  | _ => none

def run (kind : DirectiveKind) (call : Call) : Parse Outcome := do
  match kind with
  | .ignored => pure {}
  | .codeBlock => pure { nodes := ← plainCode call }
  | .projectCode => pure { nodes := ← projectCode call }
  | .projectCodeBlock => pure { nodes := ← projectCodeBlock call }
  | .projectInclude => throw .noProjectEnvironment
  | .builtIn "include" => inclusion call
  | .builtIn name => pure { nodes := ← ((builtInAction? name).getD admonition) call }

def lookup (name : String) : Parse (Option DirectiveKind × List Node) := do
  let state ← get
  match state.registry.directive? name with
  | some kind => pure (some kind, [])
  | none =>
      match builtInDirective? (Text.toLower name) with
      -- A directive that is found for the first time is registered.
      | some builtIn =>
          set { state with
            registry := state.registry.setDirective (Text.toLower name) (.builtIn builtIn) }
          pure (some (.builtIn builtIn), [])
      | none =>
          Parse.report .info (state.lineOrMain state.current.line) ("No directive entry for \"" ++ name ++ "\" in module \""
            ++ wordModule ++ "\".\nTrying \"" ++ name ++ "\" as canonical directive name.")
          pure (none, [Node.message])

end Directive

structure Explicit where
  nodes : List Node
  settled : Bool
  rest : List Line

def insertLines (reader : Reader) (inserted rest : List Line) : Parse (List Line) := do
  if reader.context.titles then
    modify fun state =>
      let passed := state.mainPlaces.take (state.mainPlaces.length - rest.length)
      { state with mainPlaces := passed ++ (inserted ++ rest).map (·.place) }
  pure (inserted ++ rest)

def directive (reader : Reader) (definition : Option String) (name : String) (column : Nat)
    (lines : List Line) : Parse Explicit := do
  let reported := firstReported lines
  let (kind?, messages) ← Directive.lookup name
  match kind? with
  | none =>
      let cut := cutFirstKnown 0 false true lines
      reader.moveOver cut.block
      Parse.report .error reported ("Unknown directive type \"" ++ name ++ "\".")
        [String.ofList (joinLines cut.block)]
      pure ⟨messages ++ [Node.message], cut.settled, cut.rest⟩
  | some kind =>
      let cut := cutFirstKnown column false false lines
      reader.moveOver cut.block
      let shown := String.ofList (joinLines (lines.take cut.block.length))
      match ← readParts (directiveForm kind) cut.block with
      | .error fault =>
          Parse.report .error reported ("Error in \"" ++ name ++ "\" directive:\n" ++ fault.message ++ ".")
            [shown]
          pure ⟨messages ++ [Node.message], cut.settled, cut.rest⟩
      | .ok parts =>
          let presets : List (String × Option String) :=
            match definition with
            | some alt => if parts.options.any (·.1 = "alt") then [] else [("alt", some alt)]
            | none => []
          let outcome ← Directive.run kind
            { name := name, arguments := parts.arguments, options := presets ++ parts.options
              content := parts.content, contentReported := parts.contentReported
              place := firstPlace lines, reported := reported, blockText := shown
              lastPlace := lastPlace cut.block (firstPlace lines), definition := definition
              reader := reader }
          let rest ← if outcome.inserted.isEmpty || definition.isSome then pure cut.rest
            else insertLines reader outcome.inserted cut.rest
          pure ⟨messages ++ outcome.nodes, cut.settled || nextIsBlank rest, rest⟩

end MarkupLint.Markup
