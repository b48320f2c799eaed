import MarkupLint.Markup.Message

set_option autoImplicit false

namespace MarkupLint.Markup

inductive AttributeValue where
  | text (value : String)
  | list (values : List String)
  | other
deriving DecidableEq, Repr

abbrev Attributes := List (String × AttributeValue)

namespace Attributes

def listNames : List String := ["ids", "classes", "names", "dupnames"]

def isSet : String × AttributeValue → Bool
  | (name, .list []) => !listNames.contains name
  | _ => true

def setCount (attributes : Attributes) : Nat := (attributes.filter isSet).length

def language? (attributes : Attributes) : Option String :=
  match attributes.lookup "language" with
  | some (.text language) => if language.isEmpty then none else some language
  | _ => none

def classes (attributes : Attributes) : List String :=
  match attributes.lookup "classes" with
  | some (.list classes) => classes
  | _ => []

def addTo (name : String) (values : List String) (attributes : Attributes) : Attributes :=
  if values.isEmpty then attributes
  else
    match attributes with
    | [] => [(name, .list values)]
    | (other, value) :: rest =>
        if other = name then
          match value with
          | .list old => (name, .list (old ++ values)) :: rest
          | _ => (name, .list values) :: rest
        else (other, value) :: addTo name values rest

end Attributes

inductive Element where
  | literalBlock (raw : String) (attributes : Attributes)
  | doctestBlock (raw : String) (attributes : Attributes)
  | paragraph (raw : String)
  | section
  | title
  | subtitle
  | transition
  | target
  | footnote
  | citation
  | reference (raw : String)
  | footnoteReference (raw : String)
  | citationReference (raw : String)
  | substitution (name raw : String)
  | substitutionDefinition (name raw : String)
  | problematic
  | comment (empty : Bool)
  | pending
  | message
  | span (name : String)
  | textBlock (name : String)
  | group (name : String)
deriving DecidableEq, Repr

namespace Element

def name : Element → String
  | .literalBlock _ _ => "literal_block"
  | .doctestBlock _ _ => "doctest_block"
  | .paragraph _ => "paragraph"
  | .section => "section"
  | .title => "title"
  | .subtitle => "subtitle"
  | .transition => "transition"
  | .target => "target"
  | .footnote => "footnote"
  | .citation => "citation"
  | .reference _ => "reference"
  | .footnoteReference _ => "footnote_reference"
  | .citationReference _ => "citation_reference"
  | .substitution _ _ => "substitution_reference"
  | .substitutionDefinition _ _ => "substitution_definition"
  | .problematic => "problematic"
  | .comment _ => "comment"
  | .pending => "pending"
  | .message => "system_message"
  | .span name => name
  | .textBlock name => name
  | .group name => name

def isInline : Element → Bool
  | .target => true
  | .reference _ => true
  | .footnoteReference _ => true
  | .citationReference _ => true
  | .substitution _ _ => true
  | .problematic => true
  | .span _ => true
  | _ => false

def isInvisible : Element → Bool
  | .comment _ => true
  | .substitutionDefinition _ _ => true
  | .target => true
  | .pending => true
  | _ => false

def isPreliminary : Element → Bool
  | .title => true
  | .subtitle => true
  | .message => true
  | .span name => name = "raw"
  | .group name => name = "meta" || name = "decoration"
  | element => element.isInvisible

def holdsText : Element → Bool
  | .literalBlock _ _ => true
  | .doctestBlock _ _ => true
  | .paragraph _ => true
  | .title => true
  | .subtitle => true
  | .comment _ => true
  | .substitutionDefinition _ _ => true
  | .textBlock _ => true
  | element => element.isInline

end Element

inductive Node where
  | text (content : String)
  | element (key : Nat) (kind : Element) (place : Place) (children : List Node)
deriving Repr

namespace Node

def key? : Node → Option Nat
  | .text _ => none
  | .element key _ _ _ => some key

def kind? : Node → Option Element
  | .text _ => none
  | .element _ kind _ _ => some kind

def place : Node → Place
  | .text _ => .unknown
  | .element _ _ place _ => place

def children : Node → List Node
  | .text _ => []
  | .element _ _ _ children => children

def message : Node := .element 0 .message .unknown []

def isMessage (node : Node) : Bool := node.kind? = some .message

def isParagraph (node : Node) : Bool :=
  match node with
  | .element _ (.paragraph _) _ _ => true
  | _ => false

def isGroup (name : String) (node : Node) : Bool := node.kind? = some (.group name)

def isInvisible (node : Node) : Bool := (node.kind?.map (·.isInvisible)).getD false

def isPreliminary (node : Node) : Bool := (node.kind?.map (·.isPreliminary)).getD false

def isInline (node : Node) : Bool := (node.kind?.map (·.isInline)).getD true

def withPlace (place : Place) : Node → Node
  | .text content => .text content
  | .element key kind _ children => .element key kind place children

def withChildren (children : List Node) : Node → Node
  | .text content => .text content
  | .element key kind place _ => .element key kind place children

def placedAt (place : Place) (node : Node) : Node := node.withPlace (node.place.fill place)

mutual

def content : Node → String
  | .text content => content
  | .element _ _ _ children => contentOfAll children

def contentOfAll : List Node → String
  | [] => ""
  | node :: rest => content node ++ contentOfAll rest

end

mutual

def find? (key : Nat) (around : Place) : Node → Option (Node × Place)
  | .text _ => none
  | .element own kind place children =>
      let nearest := around.within place
      if own = key then some (.element own kind place children, nearest)
      else findAmong? key nearest children

def findAmong? (key : Nat) (around : Place) : List Node → Option (Node × Place)
  | [] => none
  | node :: rest => (find? key around node).orElse fun _ => findAmong? key around rest

end

mutual

def parentIn? (key : Nat) : Node → Option Node
  | .text _ => none
  | .element own kind place children =>
      if children.any fun child => child.key? = some key then some (.element own kind place children)
      else parentAmong? key children

def parentAmong? (key : Nat) : List Node → Option Node
  | [] => none
  | node :: rest => (parentIn? key node).orElse fun _ => parentAmong? key rest

end

mutual

def rework (change : Node → Option (List Node)) : Node → List Node
  | .text content => (change (.text content)).getD [.text content]
  | .element key kind place children =>
      match change (.element key kind place children) with
      | some nodes => nodes
      | none => [.element key kind place (reworkAll change children)]

def reworkAll (change : Node → Option (List Node)) : List Node → List Node
  | [] => []
  | node :: rest => rework change node ++ reworkAll change rest

end

mutual

def mapKind (change : Nat → Element → Element) : Node → Node
  | .text content => .text content
  | .element key kind place children =>
      .element key (change key kind) place (mapKinds change children)

def mapKinds (change : Nat → Element → Element) : List Node → List Node
  | [] => []
  | node :: rest => mapKind change node :: mapKinds change rest

end

def replace (key : Nat) (nodes : List Node) (tree : List Node) : List Node :=
  reworkAll (fun node => if node.key? = some key then some nodes else none) tree

mutual

-- What comes after the node with a key: the nodes beside it, then those beside its parent, and so on.
-- `outer` is what comes after the nodes given.
def followersIn? (key : Nat) (outer : List Node) : Node → Option (List Node)
  | .text _ => none
  | .element _ _ _ children => followers? key outer children

def followers? (key : Nat) (outer : List Node) : List Node → Option (List Node)
  | [] => none
  | node :: rest =>
      if node.key? = some key then some (rest ++ outer)
      else (followersIn? key (rest ++ outer) node).orElse fun _ => followers? key outer rest

end

structure Visit where
  key : Nat
  kind : Element
  nearest : Place
  parent : Option Element
deriving Repr

mutual

def visitsIn (around : Place) (parent : Option Element) : Node → List Visit
  | .text _ => []
  | .element key kind place children =>
      let nearest := around.within place
      ⟨key, kind, nearest, parent⟩ :: visitsAmong nearest (some kind) children

def visitsAmong (around : Place) (parent : Option Element) : List Node → List Visit
  | [] => []
  | node :: rest => visitsIn around parent node ++ visitsAmong around parent rest

end

def visits (nodes : List Node) : List Visit := visitsAmong .unknown none nodes

end Node

end MarkupLint.Markup
