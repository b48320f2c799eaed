import MarkupLint.Finding
import MarkupLint.Log

set_option autoImplicit false

namespace MarkupLint

inductive IgnoreKind where
  | directives
  | roles
  | substitutions
  | languages
deriving DecidableEq, Repr

namespace IgnoreKind

def all : List IgnoreKind := [.directives, .roles, .substitutions, .languages]

def key : IgnoreKind → String
  | .directives => "ignore-directives"
  | .roles => "ignore-roles"
  | .substitutions => "ignore-substitutions"
  | .languages => "ignore-languages"

def ofKey? (key : String) : Option IgnoreKind := all.find? (·.key = key)

end IgnoreKind

namespace Inline

structure Setting where
  kind : IgnoreKind
  value : String
deriving DecidableEq, Repr

inductive Flow where
  | skipNextCodeBlock
deriving DecidableEq, Repr

def Flow.word : Flow → String
  | .skipNextCodeBlock => "ignore-next-code-block"

def Flow.ofWord? (word : String) : Option Flow :=
  if word = Flow.skipNextCodeBlock.word then some .skipNextCodeBlock else none

structure FlowComment where
  flow : Flow
  line : Nat
deriving DecidableEq, Repr

def marker : List Char := ".. rstcheck: ".toList

-- The key and the value of a setting: what stands between the first marker and the last equals sign, and
-- what stands after that sign.
def settingText? (line : List Char) : Option (List Char × List Char) := do
  let (_, after) ← Text.cut? marker line
  let (key, value) ← Text.cutLast? '=' after
  pure (Text.trim key, Text.trim value)

def isFlowChar (c : Char) : Bool := ('a' ≤ c && c ≤ 'z') || c = '-'

def flowWord? : List Char → Option (List Char)
  | [] => none
  | c :: rest =>
      match Text.dropStart? marker (c :: rest) with
      | some word => if word.all isFlowChar then some word else flowWord? rest
      | none => flowWord? rest

def numberedLines (source : String) : List (List Char × Nat) :=
  (Text.splitLines source.toList).zipIdx 1

def unknownSetting (origin : Origin) (key : String) (line : Nat) : LogLine :=
  ⟨.warning, "Unknown inline config '" ++ key ++ "' found. Source: '" ++ origin.name
    ++ "' at line " ++ toString line⟩

def unknownFlow (origin : Origin) (word : String) (line : Nat) : LogLine :=
  ⟨.warning, "Unknown inline flow control '" ++ word ++ "' found. Source: '" ++ origin.name
    ++ "' at line " ++ toString line⟩

def settings (source : String) : List Setting :=
  (numberedLines source).filterMap fun (line, _) => do
    let (key, value) ← settingText? line
    let kind ← IgnoreKind.ofKey? (String.ofList key)
    pure ⟨kind, String.ofList value⟩

def settingWarnings (origin : Origin) (source : String) : List LogLine :=
  (numberedLines source).filterMap fun (line, number) => do
    let (key, _) ← settingText? line
    match IgnoreKind.ofKey? (String.ofList key) with
    | some _ => none
    | none => some (unknownSetting origin (String.ofList key) number)

-- The names that the settings of one kind list, in order. An empty piece is a name too.
def names (kind : IgnoreKind) (source : String) : List String :=
  ((settings source).filter (·.kind = kind)).flatMap fun setting =>
    (Text.splitOnChar ',' setting.value.toList).map fun piece => String.ofList (Text.trim piece)

def flowComments (source : String) : List FlowComment :=
  (numberedLines source).filterMap fun (line, number) => do
    let word ← flowWord? line
    let flow ← Flow.ofWord? (String.ofList word)
    pure ⟨flow, number⟩

def flowWarnings (origin : Origin) (source : String) : List LogLine :=
  (numberedLines source).filterMap fun (line, number) => do
    let word ← flowWord? line
    match Flow.ofWord? (String.ofList word) with
    | some _ => none
    | none => some (unknownFlow origin (String.ofList word) number)

def skippingLines (source : String) : List Nat :=
  ((flowComments source).filter (·.flow = .skipNextCodeBlock)).map (·.line)

end Inline

end MarkupLint
