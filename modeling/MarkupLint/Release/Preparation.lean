import MarkupLint.Release.Arguments
import MarkupLint.Release.Changelog
import MarkupLint.Release.Version

set_option autoImplicit false

namespace MarkupLint.Release

structure Repository where
  tags : String
  firstCommit : String
  changelog : String
  today : String
deriving DecidableEq, Repr

inductive ReleaseError where
  | ended (cause : EarlyEnd)
  | noTag
  | version (cause : VersionError)
deriving DecidableEq, Repr

namespace ReleaseError

def message : ReleaseError → String
  | .ended cause => toString cause.status
  | .noTag => "list index out of range"
  | .version cause => cause.message

end ReleaseError

abbrev Command := List String

def listTags : Command := ["git", "tag", "--list"]

def listFirstCommit : Command := ["git", "rev-list", "--max-parents=0", "HEAD"]

def commit (version : String) : Command :=
  ["git", "commit", "--no-verify", "--message=\"release " ++ version ++ " [skip ci]\"", "--include",
    "pyproject.toml", "CHANGELOG.md"]

def tag (version : String) : Command := ["git", "tag", "-am", "'" ++ version ++ "'", version]

def shellWord (word : String) : String :=
  "'" ++ String.ofList (Text.replaceAll ['\''] "'\\''".toList word.toList) ++ "'"

def shellLine (command : Command) : String := String.intercalate " " (command.map shellWord)

structure Outcome where
  commands : List Command
  changelog : String
  error : Option ReleaseError := none
deriving DecidableEq, Repr

def versionTags (listing : String) : List String :=
  ((Text.splitOnChar '\n' listing.toList).map String.ofList).filter fun tag =>
    Text.startsWith ['v'] tag.toList

def lastTag? : List String → Option String
  | [] => none
  | tag :: rest =>
      match lastTag? rest with
      | none => some tag
      | some other => some (if other < tag then tag else other)

def versions (arguments : Arguments) (repository : Repository) :
    Except ReleaseError (String × String) :=
  if arguments.isFirst then .ok (String.ofList (repository.firstCommit.toList.take 7), "v1.0.0")
  else
    match lastTag? (versionTags repository.tags) with
    | none => .error .noTag
    | some current =>
        match Version.bumpText current arguments.kind with
        | .ok next => .ok (current, next)
        | .error cause => .error (.version cause)

def prepare (arguments : List String) (repository : Repository) : Outcome :=
  match Arguments.read arguments with
  | .error cause => ⟨[], repository.changelog, some (.ended cause)⟩
  | .ok arguments =>
      let query := if arguments.isFirst then listFirstCommit else listTags
      match versions arguments repository with
      | .error cause => ⟨[query], repository.changelog, some cause⟩
      | .ok (last, version) =>
          ⟨[query, commit version, tag version],
            Changelog.update ⟨version, last, repository.today⟩ repository.changelog, none⟩

end MarkupLint.Release
