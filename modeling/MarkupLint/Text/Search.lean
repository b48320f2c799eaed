set_option autoImplicit false

namespace MarkupLint.Text

def dropStart? : List Char → List Char → Option (List Char)
  | [], text => some text
  | _ :: _, [] => none
  | s :: start, c :: text => if s = c then dropStart? start text else none

def startsWith (start text : List Char) : Bool := (dropStart? start text).isSome

def endsWith (ending text : List Char) : Bool := startsWith ending.reverse text.reverse

def cut? (piece : List Char) : List Char → Option (List Char × List Char)
  | [] => if piece = [] then some ([], []) else none
  | c :: rest =>
      match dropStart? piece (c :: rest) with
      | some after => some ([], after)
      | none => (cut? piece rest).map fun (before, after) => (c :: before, after)

def contains (piece text : List Char) : Bool := (cut? piece text).isSome

def hasPiece (text piece : String) : Bool := contains piece.toList text.toList

def cutLast? (mark : Char) : List Char → Option (List Char × List Char)
  | [] => none
  | c :: rest =>
      match cutLast? mark rest with
      | some (before, after) => some (c :: before, after)
      | none => if c = mark then some ([], rest) else none

-- Replaces the occurrences of a non-empty piece from left to right; those found do not overlap. The first
-- argument counts the characters of an occurrence that are still to be passed over.
def replaceFrom (piece substitute : List Char) : Nat → List Char → List Char
  | _, [] => []
  | skip + 1, _ :: rest => replaceFrom piece substitute skip rest
  | 0, c :: rest =>
      if startsWith piece (c :: rest) then
        substitute ++ replaceFrom piece substitute (piece.length - 1) rest
      else c :: replaceFrom piece substitute 0 rest

def replaceAll (piece substitute text : List Char) : List Char := replaceFrom piece substitute 0 text

def splitAtMost (separator : Char) : Nat → List Char → List (List Char)
  | 0, text => [text]
  | count + 1, text =>
      match cut? [separator] text with
      | some (before, after) => before :: splitAtMost separator count after
      | none => [text]

end MarkupLint.Text
