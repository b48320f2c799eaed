import MarkupLint.Code.Language
import MarkupLint.Code.Position
import MarkupLint.Ignores
import MarkupLint.Markup.Node

set_option autoImplicit false

namespace MarkupLint.Code

open Markup (Node Element Attributes Place)

-- A block to check. `byClass` tells that its language was found among its classes.
structure Block where
  language : Language
  raw : String
  line : Option Int
  attributes : Nat
  byClass : Bool
deriving DecidableEq, Repr

inductive Notice where
  | block (block : Block)
  | noDirective (line : Option Int)
  | foreignLink (place : Place)
deriving DecidableEq, Repr

structure Surroundings where
  project : Bool
  source : String
  ignoredLanguages : List String
  skippingLines : List Nat

def languageName? (attributes : Attributes) : Option (String × Bool) :=
  match attributes.language? with
  | some language => some (language, false)
  | none =>
      let classes := attributes.classes
      if classes.contains "code" then classes.getLast?.map fun language => (language, true) else none

def isSession (language raw : String) : Bool :=
  language = "doctest" ||
    (language = "python" && Text.startsWith ">>> ".toList (Text.trimLeft raw.toList))

def doctestNotices (around : Surroundings) (raw : String) (line : Option Int) (attributes : Attributes) :
    List Notice :=
  if around.ignoredLanguages.contains Language.doctest.name then []
  else [.block ⟨.doctest, raw, line, attributes.setCount, false⟩]

def literalNotices (around : Surroundings) (raw : String) (line : Option Int) (attributes : Attributes) :
    Except Failure (List Notice × Bool) := do
  match languageName? attributes with
  | none => pure ([], true)
  | some (language, byClass) =>
      match ← directiveLine around.project around.source line with
      | none => pure ([.noDirective line], true)
      | some directive =>
          if around.skippingLines.any (fun skipping => (skipping : Int) = directive - 1) then
            pure ([], true)
          else if around.ignoredLanguages.contains language then pure ([], true)
          else if isSession language raw then
            pure (doctestNotices around raw line attributes, false)
          else
            match Language.ofName? language with
            | some language => pure ([.block ⟨language, raw, line, attributes.setCount, byClass⟩], false)
            | none => pure ([], false)

def hasForeignLink : List Char → Bool
  | [] => false
  | c :: rest =>
      (c = '[' &&
        (let text := rest.takeWhile (· ≠ ']')
         !text.isEmpty &&
          match rest.drop text.length with
          | ']' :: '(' :: after =>
              let address := after.takeWhile (· ≠ ')')
              !address.isEmpty && (after.drop address.length).head? = some ')'
          | _ => false))
        || hasForeignLink rest

def elementNotices (around : Surroundings) (place : Place) (line : Option Int) :
    Element → Except Failure (List Notice × Bool)
  | .literalBlock raw attributes => literalNotices around raw line attributes
  | .doctestBlock raw attributes => pure (doctestNotices around raw line attributes, true)
  | .paragraph raw => pure (if hasForeignLink raw.toList then [.foreignLink place] else [], true)
  | _ => pure ([], true)

mutual

def noticesIn (around : Surroundings) (outer : Place) : Node → Except Failure (List Notice)
  | .text _ => pure []
  | .element _ kind own children => do
      let nearest := outer.within own
      let (notices, deeper) ← elementNotices around nearest own.line kind
      if deeper then pure (notices ++ (← noticesAmong around nearest children)) else pure notices

def noticesAmong (around : Surroundings) (outer : Place) :
    List Node → Except Failure (List Notice)
  | [] => pure []
  | node :: rest => do
      let first ← noticesIn around outer node
      pure (first ++ (← noticesAmong around outer rest))

end

end MarkupLint.Code
