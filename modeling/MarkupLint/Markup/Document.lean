import MarkupLint.Markup.Block
import MarkupLint.Markup.Contents
import MarkupLint.Markup.Heading
import MarkupLint.Markup.Propagation
import MarkupLint.Markup.Substitution
import MarkupLint.Markup.Transition

set_option autoImplicit false

namespace MarkupLint.Markup

structure Document where
  nodes : Except Crash (List Node)
  messages : List Message
  registry : Registry
  finish : Place

def frontMatter : Parse (List Node) := do
  let state ← get
  let header ← margin "header" state.headers
  let footer ← margin "footer" state.footers
  match header ++ footer with
  | [] => pure state.metas
  | margins => do pure (state.metas ++ [← Parse.group "decoration" .unknown margins])
where
  margin (name : String) (nodes : List Node) : Parse (List Node) := do
    if nodes.isEmpty then pure [] else pure [← Parse.group name .unknown nodes]

def readTree (lines : List Line) : Parse Unit := do
  match lines.findIdx? fun line => lineLimit < line.text.length with
  -- A line that is too long puts an end to the reading.
  | some index =>
      Parse.report .error .unknown ("Line " ++ toString (index + 1) ++ " exceeds the line-length-limit.")
  | none =>
      let nodes ← documentNodes lines
      let front ← frontMatter
      modify fun state => { state with tree := front ++ nodes }
  modify fun state => { state with registry := state.registry.clearDefaultRole }

def completeTree : Parse Unit := do
  setAllClasses
  expandSubstitutions
  modify propagateTargets
  modify fun state => { state with tree := promoteTitles state.current state.tree }
  summarize
  resolveAnonymous
  resolveAllIndirect
  noteAllTargets
  resolveNotes
  modify resolveTargets
  numberAllSections
  listAllContents
  modify checkTransitions
  modify checkReferences

def withFacts (state : Reading) (tree : List Node) : List Node :=
  Node.mapKinds (fun key kind => match kind with
    | .literalBlock raw attributes => .literalBlock raw (shown (state.factsOf key) attributes)
    | .doctestBlock raw attributes => .doctestBlock raw (shown (state.factsOf key) attributes)
    | kind => kind) tree
where
  shown (facts : Facts) (attributes : Attributes) : Attributes :=
    attributes.addTo "classes" facts.classes |>.addTo "names" facts.names
      |>.addTo "dupnames" facts.lost |>.addTo "ids" facts.ids

def Document.ofSource (files : FileSystem) (registry : Registry) (reportRank : Nat)
    (origin source : String) : Document :=
  let (result, state) := (do readTree (documentLines origin source.toList); completeTree : Parse Unit).run
    { origin := origin, files := files, registry := registry, reportRank := reportRank }
  ⟨result.map fun _ => withFacts state state.tree, state.messages.reverse, state.registry, state.main⟩

end MarkupLint.Markup
