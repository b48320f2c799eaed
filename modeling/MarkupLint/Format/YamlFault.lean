import MarkupLint.Failure
import MarkupLint.Text.Quoted

set_option autoImplicit false

namespace MarkupLint.Yaml

-- A place in a text: characters before it, lines before it, characters before it on its line.
structure Mark where
  index : Nat := 0
  line : Nat := 0
  column : Nat := 0
deriving DecidableEq, Repr

def isBreak (c : Char) : Bool := "\r\n\x85\u2028\u2029".toList.contains c

namespace Mark

def reach : Nat := 36

def excerptAfter (line : List Char) : List Char :=
  if line.length ≤ reach then line else line.take (reach + 1 - 5) ++ " ... ".toList

def excerptBefore (line : List Char) : List Char :=
  if line.length ≤ reach then line else " ... ".toList ++ line.drop (line.length - (reach + 1 - 5))

def excerpt (mark : Mark) (text : List Char) : String :=
  let before := ((text.take mark.index).reverse.takeWhile (!isBreak ·)).reverse
  let head := excerptBefore before
  let tail := excerptAfter ((text.drop mark.index).takeWhile (!isBreak ·))
  String.ofList ("    ".toList ++ head ++ tail ++ '\n' :: List.replicate (4 + head.length) ' ' ++ ['^'])

def message (mark : Mark) (text : List Char) : String :=
  "  in \"<unicode string>\", line " ++ toString (mark.line + 1) ++ ", column "
    ++ toString (mark.column + 1) ++ ":\n" ++ mark.excerpt text

end Mark

inductive Activity where
  | nextToken
  | simpleKey
  | directive
  | directiveTarget
  | anchor
  | reference
  | tag
  | tagName
  | blockScalar
  | quotedScalar
  | escape
  | node
  | blockNode
  | flowNode
  | blockSequence
  | blockMapping
  | flowSequence
  | flowMapping
  | anchorTwice (name : String)
  | oneDocument
  | mapping
  | orderedMap
  | pairs
deriving DecidableEq, Repr

def Activity.message : Activity → String
  | .nextToken => "while scanning for the next token"
  | .simpleKey => "while scanning a simple key"
  | .directive => "while scanning a directive"
  | .directiveTarget => "while parsing a directive"
  | .anchor => "while scanning an anchor"
  | .reference => "while scanning an alias"
  | .tag => "while scanning a tag"
  | .tagName => "while parsing a tag"
  | .blockScalar => "while scanning a block scalar"
  | .quotedScalar => "while scanning a quoted scalar"
  | .escape => "while scanning a double-quoted scalar"
  | .node => "while parsing a node"
  | .blockNode => "while parsing a block node"
  | .flowNode => "while parsing a flow node"
  | .blockSequence => "while parsing a block collection"
  | .blockMapping => "while parsing a block mapping"
  | .flowSequence => "while parsing a flow sequence"
  | .flowMapping => "while parsing a flow mapping"
  | .anchorTwice name => "found duplicate anchor " ++ Text.quote name ++ "; first occurrence"
  | .oneDocument => "expected a single document in the stream"
  | .mapping => "while constructing a mapping"
  | .orderedMap => "while constructing an ordered map"
  | .pairs => "while constructing pairs"

inductive Cause where
  | cannotStart (found : Char)
  | colonMissing
  | notAllowedHere (what : String)
  | expected (what found : String)
  | expectedInFlow (what found : String)
  | zeroIndentation
  | unknownEscape (found : Char)
  | escapeDigits (count : Nat) (found : Char)
  | uriDigits (found : Char)
  | uriBytes (cause : Text.Utf8Error)
  | endOfText
  | documentSeparator
  | versionTwice
  | foreignVersion
  | handleTwice (handle : String)
  | undefinedHandle (handle : String)
  | undefinedReference (name : String)
  | secondAnchor
  | anotherDocument
  | unknownTag (tag : String)
  | expectedNode (wanted found : String)
  | unhashableKey
  | mergeValue (found : String)
  | mergeItem (found : String)
  | pairSequence (found : String)
  | pairMapping (found : String)
  | pairCount (found : Nat)
  | base64NotAscii (cause : String)
  | base64 (cause : String)
deriving Repr

def Cause.message : Cause → String
  | .cannotStart found => "found character " ++ Text.quote found.toString ++ " that cannot start any token"
  | .colonMissing => "could not find expected ':'"
  | .notAllowedHere what => what ++ " are not allowed here"
  | .expected what found => "expected " ++ what ++ ", but found " ++ Text.quote found
  | .expectedInFlow what found => "expected " ++ what ++ ", but got " ++ Text.quote found
  | .zeroIndentation => "expected indentation indicator in the range 1-9, but found 0"
  | .unknownEscape found => "found unknown escape character " ++ Text.quote found.toString
  | .escapeDigits count found => "expected escape sequence of " ++ toString count
      ++ " hexadecimal numbers, but found " ++ Text.quote found.toString
  | .uriDigits found => "expected URI escape sequence of 2 hexadecimal numbers, but found "
      ++ Text.quote found.toString
  | .uriBytes cause => cause.message
  | .endOfText => "found unexpected end of stream"
  | .documentSeparator => "found unexpected document separator"
  | .versionTwice => "found duplicate YAML directive"
  | .foreignVersion => "found incompatible YAML document (version 1.* is required)"
  | .handleTwice handle => "duplicate tag handle " ++ Text.quote handle
  | .undefinedHandle handle => "found undefined tag handle " ++ Text.quote handle
  | .undefinedReference name => "found undefined alias " ++ Text.quote name
  | .secondAnchor => "second occurrence"
  | .anotherDocument => "but found another document"
  | .unknownTag tag => "could not determine a constructor for the tag " ++ Text.quote tag
  | .expectedNode wanted found => "expected a " ++ wanted ++ " node, but found " ++ found
  | .unhashableKey => "found unhashable key"
  | .mergeValue found => "expected a mapping or list of mappings for merging, but found " ++ found
  | .mergeItem found => "expected a mapping for merging, but found " ++ found
  | .pairSequence found => "expected a sequence, but found " ++ found
  | .pairMapping found => "expected a mapping of length 1, but found " ++ found
  | .pairCount found => "expected a single mapping item, but found " ++ toString found ++ " items"
  | .base64NotAscii cause => "failed to convert base64 data into ascii: " ++ cause
  | .base64 cause => "failed to decode base64 data: " ++ cause

inductive Fault where
  | character (found : Char) (index : Nat)
  | marked (activity : Option Activity) (start : Option Mark) (cause : Cause) (mark : Mark)
  | failed (cause : Failure)
deriving Repr

-- The message names the place where the activity began unless the fault is at the same place.
def Fault.message (text : List Char) : Fault → String
  | .character found index => "unacceptable character #x" ++ String.ofList (Text.hexDigits 4 found.toNat)
      ++ ": special characters are not allowed\n  in \"<unicode string>\", position " ++ toString index
  | .marked activity start cause mark =>
      let begun := (activity.map Activity.message).toList
      let place := match start with
        | some start =>
            if start.line = mark.line && start.column = mark.column then [] else [start.message text]
        | none => []
      String.intercalate "\n" (begun ++ place ++ [cause.message, mark.message text])
  | .failed cause => cause.message

end MarkupLint.Yaml
