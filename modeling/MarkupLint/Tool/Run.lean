import MarkupLint.Report
import MarkupLint.Text.Utf8
import MarkupLint.Tool.Words

set_option autoImplicit false

namespace MarkupLint.Tool

structure Call where
  arguments : List String
  directory : Path
  code : String
deriving DecidableEq, Repr

-- The tools at hand. `run` gives what a tool wrote to its error stream if it failed.
structure Toolbox where
  lookup : String → Option String
  file : String → Path
  run : Call → Option (List UInt8)

def readShellLine (origin : Origin) (file : Path) (line : String) :
    Except Failure (Option Finding) :=
  match Text.dropStart? (toString file ++ ": line ").toList line.toList with
  | none => .ok none
  | some rest =>
      let parts := Text.splitAtMost ':' 1 rest
      match Text.readInteger (String.ofList (parts.headD [])) with
      | .error cause => .error (.number cause)
      | .ok number =>
          match parts[1]? with
          -- The finding is put one line above the one that the shell names.
          | some message => .ok (some ⟨origin.name, number - 1, String.ofList (Text.trim message)⟩)
          | none => .error .missingPart

def readCompilerLine (origin : Origin) (file : Path) (line : String) :
    Except Failure (Option Finding) :=
  match Finding.ofLine origin (some file) true line with
  | .ok finding => .ok (some finding)
  | .error .missingPart => .error .missingPart
  | .error _ => .ok none

def readComplaints (read : String → Except Failure (Option Finding)) (stderr : List UInt8) : Report :=
  match Text.decodeUtf8 stderr with
  | .error cause => .failed (.notUtf8 cause)
  | .ok text => Report.collect read (Text.lines (String.ofList text))

def directoryOf : Origin → Path
  | .text name => (Path.ofString name).parent
  | .file path => path.parent

structure Plan where
  call : Call
  read : String → Except Failure (Option Finding)

def bashPlan (box : Toolbox) (origin : Origin) (code : String) : Plan :=
  let file := box.file ".bash"
  ⟨⟨["bash", "-n", toString file], directoryOf origin, code⟩, readShellLine origin file⟩

def flags (box : Toolbox) (name : String) : Except Failure (List String) :=
  match splitWords ((box.lookup name).getD "") with
  | .ok words => .ok words
  | .error cause => .error (.words cause)

structure Compiler where
  name : String
  command : String
  flags : String
  extension : String

def cCompiler : Compiler := ⟨"CC", "gcc", "CFLAGS", ".c"⟩

def cppCompiler : Compiler := ⟨"CXX", "g++", "CXXFLAGS", ".cpp"⟩

def compilerPlan (compiler : Compiler) (box : Toolbox) (origin : Origin) (code : String) :
    Except Failure Plan := do
  let command := (box.lookup compiler.name).getD compiler.command
  let own ← flags box compiler.flags
  let shared ← flags box "CPPFLAGS"
  let file := box.file compiler.extension
  pure ⟨⟨[command] ++ own ++ shared ++ ["-I.", "-I..", "-pedantic", "-fsyntax-only", toString file],
    directoryOf origin, code⟩, readCompilerLine origin file⟩

end MarkupLint.Tool
