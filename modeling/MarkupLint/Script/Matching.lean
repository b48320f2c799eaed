import MarkupLint.Script.Constant

set_option autoImplicit false

namespace MarkupLint.Script

def boundReserved : String := "cannot assign to " ++ Constant.checkedName

namespace Matching

def quoted (before name after : String) : String := before ++ Text.quote name ++ after

def bind (line : Nat) (names : List String) (name : String) : Except Fault (List String) :=
  if name = Constant.checkedName then .error ⟨line, boundReserved⟩
  else if names.contains name then
    .error ⟨line, quoted "multiple assignments to name " name " in pattern"⟩
  else .ok (names ++ [name])

def bindAll (line : Nat) (names more : List String) : Except Fault (List String) :=
  more.foldlM (bind line) names

def checkKeys (line : Nat) : List Constant → List Tree → Except Fault PUnit
  | _, [] => .ok ()
  | seen, key :: rest =>
      match Constant.ofTree? key with
      | some value =>
          if seen.any value.isEqual then
            .error ⟨line, "mapping pattern checks duplicate key (" ++ value.render ++ ")"⟩
          else checkKeys line (seen ++ [value]) rest
      | none =>
          if key.kind? = some .attribute then checkKeys line seen rest
          else .error ⟨line, "mapping pattern keys may only match literals and attribute lookups"⟩

def keyOf? (tree : Tree) : Option Tree :=
  if tree.kind? = some .mappingItem then tree.parts.head? else none

def attributeOf? (tree : Tree) : Option (String × Nat) :=
  if tree.kind? = some .keywordPattern then (tree.parts.head?.bind Tree.name?).map (·, tree.line)
  else none

def checkAttributes : List (String × Nat) → Except Fault PUnit
  | [] => .ok ()
  | (name, line) :: rest =>
      if name = Constant.checkedName then .error ⟨line, boundReserved⟩
      else
        match rest.find? (·.1 = name) with
        | some (_, again) => .error ⟨again, "attribute name repeated in class pattern: " ++ name⟩
        | none => checkAttributes rest

def isStar (tree : Tree) : Bool := tree.kind? = some .starPattern

def checkSequence (line : Nat) (patterns : List Tree) : Except Fault PUnit :=
  if 1 < patterns.countP isStar then
    .error ⟨line, "multiple starred expressions in sequence pattern"⟩
  else if 256 ≤ (patterns.takeWhile (!isStar ·)).length
      && patterns.any fun tree => isStar tree && !tree.parts.isEmpty then
    .error ⟨line, "too many expressions in star-unpacking sequence pattern"⟩
  else .ok ()

mutual

def names (last : Bool) (before : List String) : Tree → Except Fault (List String)
  | .leaf _ => .ok before
  | .node kind line parts =>
      match kind, parts with
      | .capturePattern, .leaf token :: _ =>
          if last then bind line before token.text
          else
            .error ⟨line, quoted "name capture " token.text " makes remaining patterns unreachable"⟩
      | .wildcardPattern, _ =>
          if last then .ok before
          else .error ⟨line, "wildcard makes remaining patterns unreachable"⟩
      | .starPattern, .leaf token :: _ => bind line before token.text
      | .mappingRest, .leaf token :: _ => bind line before token.text
      | .valuePattern, [value] =>
          if value.kind? = some .formatted then
            .error ⟨line, "patterns may only match literals and attribute lookups"⟩
          else .ok before
      | .orPattern, [.node _ _ [pattern]] => names last before pattern
      | .orPattern, [.node _ _ (pattern :: rest)] => do
          let first ← names false [] pattern
          alternatives last first rest
          bindAll line before first
      | .asPattern, [pattern, .leaf token] => do
          let inner ← names last before pattern
          bind line inner token.text
      | .mappingPattern, parts => do
          checkKeys line [] ((Tree.membersOf parts).filterMap keyOf?)
          namesOfAll before parts
      | .mappingItem, [_, pattern] => names true before pattern
      | .keywordPattern, [_, pattern] => names true before pattern
      | .sequencePattern, parts => do
          checkSequence line (Tree.membersOf parts)
          namesOfAll before parts
      | .classPattern, _ :: patterns => do
          checkAttributes ((Tree.membersOf patterns).filterMap attributeOf?)
          namesOfAll before patterns
      | _, parts => namesOfAll before parts

def namesOfAll (before : List String) : List Tree → Except Fault (List String)
  | [] => .ok before
  | tree :: rest => do
      let more ← names true before tree
      namesOfAll more rest

def alternatives (last : Bool) (first : List String) : List Tree → Except Fault PUnit
  | [] => .ok ()
  | tree :: rest => do
      let more ← names (last && rest.isEmpty) [] tree
      if more.length = first.length && first.all more.contains then alternatives last first rest
      else throw ⟨tree.line, "alternative patterns bind different names"⟩

end

end Matching

end MarkupLint.Script
