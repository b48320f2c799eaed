import MarkupLint.Release.Preparation

set_option autoImplicit false

namespace MarkupLint.Release

def usage : String := "usage: release [-h] [--first-release] [RELEASE TYPE]"

def helpText : String :=
  usage ++ "\n\npositional arguments:\n"
    ++ "  RELEASE TYPE     Release type: patch/bugfix | minor/feature | major/breaking; gets\n"
    ++ "                   ignored on \x60--first-release\x60; defaults to patch\n\n"
    ++ "options:\n"
    ++ "  -h, --help       show this help message and exit\n"
    ++ "  --first-release  Flag for first release to prevent version bumping."

def changelogFile : String := "CHANGELOG.md"

def splitFirstLine (text : String) : String × String :=
  match Text.cut? ['\n'] text.toList with
  | some (first, rest) => (String.ofList first, String.ofList rest)
  | none => (text, "")

def reportError : ReleaseError → IO UInt32
  | .ended .help => do
      IO.println helpText
      return 0
  | .ended .misuse => do
      IO.eprintln usage
      return 2
  | error => do
      IO.eprintln error.message
      return 1

def finish (arguments : List String) (repository : Repository) : IO UInt32 := do
  let outcome := prepare arguments repository
  match outcome.error with
  | some error => reportError error
  | none => do
      IO.FS.writeFile changelogFile outcome.changelog
      for command in outcome.commands.drop 1 do
        IO.println (shellLine command)
      return 0

end MarkupLint.Release

open MarkupLint.Release in
def main (arguments : List String) : IO UInt32 := do
  match Arguments.read arguments with
  | .error cause => reportError (.ended cause)
  | .ok _ =>
      let (today, listing) := splitFirstLine (← (← IO.getStdin).readToEnd)
      let changelog ← IO.FS.readFile changelogFile
      finish arguments ⟨listing, listing, changelog, today⟩
