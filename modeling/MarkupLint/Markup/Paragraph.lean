import MarkupLint.Markup.Structure

set_option autoImplicit false

namespace MarkupLint.Markup

def announcesLiteral (text : List Char) : Bool :=
  match text.reverse with
  | ':' :: ':' :: before => (before.takeWhile (· = '\\')).length % 2 = 0
  | _ => false

def announcedText (text : List Char) : List Char :=
  match text.reverse with
  | ':' :: ':' :: c :: before =>
      if c = ' ' || c = '\n' then Text.trimRight before.reverse else text.dropLast
  | _ => text

def paragraph (block : List Line) : Parse (List Node × Bool) := do
  let data := Text.trimRight (joinLines block)
  let literalNext := announcesLiteral data
  if literalNext && data.length = 2 then pure ([], true)
  else
    let text := if literalNext then announcedText data else data
    let (nodes, messages) ← inlineText (firstReported block) text
    let node ← Parse.element (.paragraph (String.ofList data)) (firstPlace block) nodes
    pure (node :: messages, literalNext)

def preserved : String × AttributeValue := ("xml:space", .text "preserve")

def blockText (block : List Line) : String := String.ofList (joinLines block)

def literalNode (place : Place) (block : List Line) : Parse Node :=
  let text := blockText block
  Parse.element (.literalBlock text [preserved]) place [.text text]

def quotedLiteral (paragraph lines : List Line) : Parse Built := do
  let ahead := dropLeadingBlank lines
  let missing : Parse Built := do
    Parse.report .warning (reportedAfter (paragraph ++ lines) ahead) "Literal block expected; none found."
    pure { nodes := [Node.message], rest := ahead }
  match ahead with
  | [] => missing
  | first :: _ =>
      match first.text.head? with
      | none => missing
      | some mark =>
          if isPunctuation mark then
            let block := ahead.takeWhile fun line => line.text.head? = some mark
            let rest := ahead.drop block.length
            let complaint : Option String := match rest.head? with
              | none => none
              | some line =>
                  if line.isBlank then none
                  else if line.startsIndented then some "Unexpected indentation."
                  else some "Inconsistent literal block quoting."
            let messages ← match complaint with
              | none => pure []
              | some text => do
                  Parse.report .error (reportedAfter block rest) text
                  pure [Node.message]
            let node ← literalNode first.place block
            pure { nodes := node :: messages, rest := rest, jumped := true }
          else missing

def literalBlock (reader : Reader) (paragraph lines : List Line) : Parse Built := do
  let cut := cutIndented lines
  reader.moveOver cut.block
  match dropTrailingBlank (dropLeadingBlank cut.block) with
  | [] => quotedLiteral paragraph lines
  | first :: others =>
      let warning ← unindentWarning cut.settled "Literal block" (reportedAfter lines cut.rest)
      let node ← literalNode first.place (first :: others)
      pure { nodes := node :: warning, rest := cut.rest }

def paragraphWithLiteral (reader : Reader) (block rest : List Line) : Parse Built := do
  let (nodes, literalNext) ← paragraph block
  if literalNext then
    let literal ← literalBlock reader block rest
    pure { literal with nodes := nodes ++ literal.nodes }
  else pure { nodes := nodes, rest := rest }

def textParagraph (reader : Reader) (lines : List Line) : Parse Built := do
  let block := lines.takeWhile fun line => !line.isBlank && !line.startsIndented
  let rest := lines.drop block.length
  reader.moveOver block
  let unexpected := rest.head?.filter isIndentedText
  let mark ← match unexpected with
    | some line => do
        Parse.report .error line.place "Unexpected indentation."
        pure [Node.message]
    | none => pure []
  let (nodes, literalNext) ← paragraph block
  if literalNext then
    let literal ← literalBlock reader block rest
    pure { literal with nodes := nodes ++ mark ++ literal.nodes }
  else pure { nodes := nodes ++ mark, rest := rest }

end MarkupLint.Markup
