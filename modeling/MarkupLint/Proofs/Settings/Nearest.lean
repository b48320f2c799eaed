import MarkupLint.Proofs.FileTree
import MarkupLint.Proofs.Settings.SectionFile

set_option autoImplicit false

namespace MarkupLint.Settings

open Loading

section Search

variable [ForeignPatterns]

def sectionAt (files : FileSystem) (path : Path) : Except LoadError (Option FileSettings) :=
  match files.fault? path with
  | some fault => .error (.badPath fault)
  | none =>
      if files.isFile (files.resolve path) then outcome (loadFile files ⟨false, false⟩ (files.resolve path)) []
      else .ok none

-- The search stops at the file with a name in a directory: nothing is found nearer or under the names
-- before it, and the file decides.
structure Stop (files : FileSystem) (directory : Path) (near : List Path) (here : Path) (passed : List String)
    (name : String) : Prop where
  directories : ∃ far, ancestors (files.resolve directory) = near ++ here :: far
  names : ∃ others, candidates = passed ++ name :: others
  entered : isNone here = false
  nearEmpty : ∀ around ∈ near, isNone around = false →
    ∀ other ∈ candidates, sectionAt files (around.child other) = .ok none
  passedEmpty : ∀ other ∈ passed, sectionAt files (here.child other) = .ok none
  decides : sectionAt files (here.child name) ≠ .ok none

section Frame

variable {files other : FileSystem} {directory here : Path} {near : List Path} {passed : List String} {name : String}

end Frame

end Search

section Layered

attribute [local instance] ForeignPatterns.none

end Layered

end MarkupLint.Settings
