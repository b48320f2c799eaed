import MarkupLint.Markup.Marker

set_option autoImplicit false

namespace MarkupLint.Markup

inductive Lead where
  | name (text : String)
  | address (text : String)
deriving DecidableEq, Repr

def wholeReference? (text : List Char) : Option String :=
  match squeeze text with
  | '\x60' :: inner =>
      match inner.reverse with
      | '_' :: '\x60' :: c :: body =>
          if inner.head? = some ' ' || Text.isBlank c || c = escapeMark then none
          else some (String.ofList (dropEscapes (c :: body).reverse))
      | _ => none
  | squeezed =>
      let name := squeezed.dropLast
      if squeezed.getLast? = some '_' && !name.isEmpty && simpleNameOf name = name then
        some (String.ofList name)
      else none

def plainAddress (text : List Char) : String :=
  let parts := (splitEscapedBlank [] text).map fun part =>
    (dropEscapes part).filter fun c => !Text.isBlank c
  String.ofList (parts.intersperse [' '] |>.flatten)

def leadOf (block : List (List Char)) : Lead :=
  let name? := match block.getLast? with
    | some last =>
        if (Text.trim last).getLast? = some '_' then
          wholeReference? ((block.map Text.trim).intersperse [' '] |>.flatten)
        else none
    | none => none
  match name? with
  | some name => .name name
  | none => .address (plainAddress (block.intersperse [' '] |>.flatten))

end MarkupLint.Markup
