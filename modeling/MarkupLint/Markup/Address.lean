import MarkupLint.Markup.Span

set_option autoImplicit false

namespace MarkupLint.Markup.Address

def isPlain (c : Char) : Bool := Text.isAsciiLetter c || Text.isAsciiDigit c

def isInner (c : Char) : Bool :=
  isPlain c || c = escapeMark || "-_.!~*'()[];/:@&=+$,%".toList.contains c

def isLast (c : Char) : Bool := isPlain c || "_~*/=+".toList.contains c

def isMailChar (c : Char) : Bool :=
  isPlain c || c = escapeMark || "-_!~*'\x7b|\x7d/#?^\x60&=+$%".toList.contains c

def mayEnd (c : Char) (rest : List Char) : Bool := isLast c || (isInner c && rest.head? = some '>')

def rests (inner : Char → Bool) : List Char → List (List Char)
  | [] => []
  | c :: rest =>
      (if mayEnd c rest then [rest] else []) ++ (if inner c then rests inner rest else [])

def optionalRests (mark : Char) (text : List Char) : List (List Char) :=
  text :: match text with
    | c :: rest => if c = mark then rests isInner rest else []
    | [] => []

def schemeRests (text : List Char) : List (List Char) :=
  let scheme := text.takeWhile fun c => isPlain c || c = '.' || c = '+' || c = '-'
  if (scheme.head?.map Text.isAsciiLetter).getD false then
    match text.drop scheme.length with
    | ':' :: after =>
        ((rests isInner after).flatMap (optionalRests '?')).flatMap (optionalRests '#')
    | _ => []
  else []

def isDotted (text : List Char) : Bool :=
  (Text.splitOnChar '.' text).all fun piece => !piece.isEmpty && piece.all isMailChar

def mailRests (text : List Char) : List (List Char) :=
  let mailbox := text.takeWhile fun c => isMailChar c || c = '.'
  match text.drop mailbox.length with
  | '@' :: c :: host =>
      if isDotted mailbox && mailbox.getLast? ≠ some escapeMark && isMailChar c then
        rests (fun c => isMailChar c || c = '.') host
      else []
  | _ => []

def starts (text : List Char) : Bool :=
  (schemeRests text ++ mailRests text).any fun rest => endsBefore rest.head?

def isMail (text : List Char) : Bool := (mailRests text).any fun rest => rest.isEmpty || rest = ['\n']

def full (text : List Char) : String :=
  String.ofList (if isMail text then "mailto:".toList ++ text else text)

end MarkupLint.Markup.Address
