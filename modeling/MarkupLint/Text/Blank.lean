set_option autoImplicit false

namespace MarkupLint.Text

-- White space: tab to carriage return, the four separators before the space, the space, and the spaces and
-- separators beyond ASCII. A zero-width space is none.
def isBlank (c : Char) : Bool :=
  let code := c.toNat
  (0x09 ≤ code && code ≤ 0x0d) || (0x1c ≤ code && code ≤ 0x20) || code = 0x85 || code = 0xa0
    || code = 0x1680 || (0x2000 ≤ code && code ≤ 0x200a) || code = 0x2028 || code = 0x2029
    || code = 0x202f || code = 0x205f || code = 0x3000

def trimLeft (text : List Char) : List Char := text.dropWhile isBlank

def trimRight (text : List Char) : List Char := (text.reverse.dropWhile isBlank).reverse

def trim (text : List Char) : List Char := trimRight (trimLeft text)

def allBlank (text : List Char) : Bool := text.all isBlank

def strip (text : String) : String := String.ofList (trim text.toList)

end MarkupLint.Text
