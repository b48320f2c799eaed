import MarkupLint.Markup.Directive.Call
import MarkupLint.SourceFile

set_option autoImplicit false

namespace MarkupLint

namespace FileSystem

-- A path as it looks from the working directory; one that shares no directory with it stays absolute.
def fromHere (files : FileSystem) (path : Path) : String :=
  let here := files.directory.names
  let there := (Path.resolve files.directory path).names
  if here.head? ≠ there.head? then "/" ++ String.intercalate "/" there
  else
    let shared := ((here.zip there).takeWhile fun (a, b) => a = b).length
    String.intercalate "/" (List.replicate (here.length - shared) ".." ++ there.drop shared)

end FileSystem

namespace Markup.Directive

inductive FileFault where
  | unreachable
  | undecodable
deriving DecidableEq, Repr

def withFeeds (text : List Char) : List Char := (Text.splitLines text).flatMap (· ++ ['\n'])

-- The text of bytes in a given encoding, else in the one that they name, or in one that every byte fits.
def decodeFile (encoding : Option String) (bytes : List UInt8) : Except FileFault (List Char) :=
  match encoding with
  | some name => ((Encoding.readAs name bytes).map Text.unifyLineEnds).mapError fun _ => .undecodable
  | none =>
      match Encoding.readText bytes with
      | .ok text => .ok (withFeeds (Text.dropByteOrderMark text))
      | .error _ => .ok (withFeeds (bytes.map fun byte => Char.ofNat byte.toNat))

def joinedPath (text : String) : String :=
  String.ofList ((Text.splitLines text.toList).flatMap Text.trim)

def readBeside (call : Call) (target : String) : Parse (String × Except FileFault (List Char)) := do
  let state ← get
  let source := Path.ofString (state.current.source.getD state.origin)
  let path := source.parent.join (.ofString target)
  let text := match state.files.read? (Path.resolve state.files.directory path) with
    | some bytes => decodeFile (call.text? "encoding") bytes
    | none => .error .unreachable
  pure (state.files.fromHere path, text)

end Markup.Directive

end MarkupLint
