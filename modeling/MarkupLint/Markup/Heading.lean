import MarkupLint.Markup.Paragraph

set_option autoImplicit false

namespace MarkupLint.Markup

def loneSection? (nodes : List Node) : Option (List Node × Node) :=
  let before := nodes.takeWhile (·.isPreliminary)
  match nodes.drop before.length with
  | [.element key .section place children] => some (before, .element key .section place children)
  | _ => none

-- The title and the subtitle of a document, taken from lone sections. The subtitle is put at the given
-- place.
def promoteTitles (place : Place) (nodes : List Node) : List Node :=
  match loneSection? nodes with
  | none => nodes
  | some (before, section') =>
      let titled := section'.children.take 1 ++ before ++ section'.children.drop 1
      match loneSection? titled with
      | some (outer, .element key _ _ inner) =>
          let heading := (inner.head?.map (·.children)).getD []
          outer.take 1 ++ .element key .subtitle place heading :: outer.drop 1 ++ inner.drop 1
      | _ => titled

inductive Subject where
  | line
  | authors
  | topic
deriving DecidableEq, Repr

def subjects : List (String × Subject) :=
  [ ("author", .line), ("authors", .authors), ("organization", .line), ("address", .line),
    ("contact", .line), ("version", .line), ("revision", .line), ("status", .line), ("date", .line),
    ("copyright", .line), ("dedication", .topic), ("abstract", .topic) ]

structure Field where
  node : Node
  name : String
  body : List Node

def Field.ofNode (node : Node) : Field :=
  match node.children with
  | [name, body] => ⟨node, (name.children.head?.map (·.content)).getD "", body.children⟩
  | _ => ⟨node, "", []⟩

def isOneLine (line : Option Int) (nodes : List Node) : Bool :=
  (Node.visits nodes).all fun visit => match visit.kind with
    | .paragraph raw => !raw.toList.contains '\n' && visit.nearest.line = line
    | .message => false
    | _ => true

def isSingleText (field : Field) : Bool :=
  match field.body with
  | [only] => only.isParagraph || isInitial only
  | first :: others => isInitial first && others.all (·.isMessage)
  | [] => false
where
  -- A name that starts with an initial looks like an item of a list.
  isInitial (node : Node) : Bool :=
    node.isGroup "enumerated_list" && isOneLine field.node.place.line [node]

def namesAuthors (field : Field) : Bool :=
  let isComment (node : Node) : Bool := match node.kind? with
    | some (.comment _) => true
    | _ => false
  match field.body with
  | [only] =>
      if only.isParagraph then
        only.content.toList.any fun c => !(Text.isBlank c || c = ';' || c = ',')
      else only.isGroup "bullet_list" && !only.children.isEmpty
        && (only.children.all fun item => match item.children with
          | [text] => text.isParagraph
          | _ => false)
        && only.children.any fun item => item.children.any fun text => !text.children.isEmpty
  | nodes => (nodes.all fun node => node.isParagraph || isComment node)
      && nodes.any fun node => node.isParagraph && !node.children.isEmpty

structure Summary where
  entries : List Node := []
  topics : List (String × Node) := []

def keepField (summary : Summary) (field : Field) (warning : Option String) : Parse Summary := do
  let node := field.node
  match warning with
  | none => pure { summary with entries := summary.entries ++ [node] }
  | some text => do
      Parse.reportNear .warning node.place text
      pure { summary with entries := summary.entries ++ [node] }

def shownTags (nodes : List Node) : String :=
  let tags := nodes.map fun node => "<" ++ ((node.kind?.map (·.name)).getD "#text") ++ ">"
  match tags with
  | [only] => "a " ++ only
  | _ => "[" ++ String.intercalate ", " tags ++ "]"

def takeField (summary : Summary) (field : Field) : Parse Summary := do
  let canonical := normalName field.name
  match subjects.lookup canonical with
  | none => keepField summary field none
  | some subject =>
      if field.body.isEmpty then
        keepField summary field
          (some ("Cannot extract empty bibliographic field \"" ++ field.name ++ "\"."))
      else
        match subject with
        | .line =>
            if isSingleText field then do
              -- The text of a single line loses its place with its paragraph.
              let text := (field.body.take 1).flatMap fun node =>
                if node.isParagraph then node.children else []
              let entry ← Parse.element (.textBlock canonical) .unknown text
              pure { summary with entries := summary.entries ++ [entry] }
            else
              keepField summary field (some ("Bibliographic field \"" ++ field.name ++ "\"\nmust contain "
                ++ "a single <paragraph>, not " ++ shownTags field.body ++ "."))
        | .authors =>
            if namesAuthors field then do
              let entry ← Parse.element (.group "authors") .unknown (authorNodes field.body)
              pure { summary with entries := summary.entries ++ [entry] }
            else
              keepField summary field (some ("Cannot extract \"" ++ field.name
                ++ "\" from bibliographic field:"))
        | .topic =>
            if (summary.topics.lookup canonical).isSome then
              keepField summary field (some ("There can only be one \"" ++ field.name ++ "\" field."))
            else do
              let title ← Parse.element .title .unknown [.text field.name]
              let topic ← Parse.element (.group "topic") .unknown (title :: field.body)
              pure { summary with topics := summary.topics ++ [(canonical, topic)] }
where
  authorNodes (body : List Node) : List Node :=
    match body with
    | [only] =>
        if only.isParagraph then [.text only.content]
        else only.children.flatMap fun item => item.children.flatMap (·.children)
    | nodes => nodes.flatMap fun node => if node.isParagraph then node.children else []

def staysFirst (node : Node) : Bool :=
  match node.kind? with
  | some .title => true
  | some .subtitle => true
  | some (.textBlock name) => name = "rubric"
  | some (.group name) => name = "decoration" || name = "meta"
  | _ => false

def summarize : Parse Unit := do
  let state ← get
  let before := state.tree.takeWhile (·.isPreliminary)
  match state.tree.drop before.length with
  | .element _ (.group "field_list") _ fields :: rest =>
      let summary ← fields.foldlM (fun summary node => takeField summary (.ofNode node)) {}
      let entries ← if summary.entries.isEmpty then pure []
        else do pure [← Parse.group "docinfo" (← get).current summary.entries]
      let topics := ["dedication", "abstract"].filterMap fun name =>
        (summary.topics.lookup name).map (·.placedAt state.current)
      let first := before.takeWhile staysFirst
      modify fun state =>
        { state with tree := first ++ entries ++ topics ++ before.drop first.length ++ rest }
  | _ => pure ()

end MarkupLint.Markup
