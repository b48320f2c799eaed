import MarkupLint.FileTree
import MarkupLint.Log

set_option autoImplicit false

namespace MarkupLint

namespace FileSystem

def isPresent (files : FileSystem) (recursive : Bool) (path : Path) : Bool :=
  files.isFile path || recursive && files.isDirectory path

def isDocument (files : FileSystem) (path : Path) : Bool :=
  let resolved := files.resolve path
  files.isFile path && !isHidden resolved.name && resolved.hasExtension ".rst"

def documentsBelow (files : FileSystem) (directory : Path) : List Path :=
  (files.walk directory).filter files.isDocument

def faultBelow? (files : FileSystem) (directory : Path) : Option PathError :=
  (files.walk directory).findSome? files.fault?

theorem not_directory_of_document (files : FileSystem) (path : Path) (document : files.isDocument path = true) :
    files.isDirectory path = false := by
  simp only [isDocument, Bool.and_eq_true] at document
  have file := document.1.1
  rw [isFile] at file
  rw [isDirectory]
  split at file
  · next found => rw [found]
  · cases file

theorem directories_below (files : FileSystem) (directory : Path) :
    (files.documentsBelow directory).countP files.isDirectory = 0 := by
  rw [List.countP_eq_zero]
  intro path member
  have document := (List.mem_filter.1 member).2
  simp [files.not_directory_of_document path document]

structure Discovered where
  documents : List Path := []
  fault : Option PathError := none

def Discovered.add (path : Path) (found : Discovered) : Discovered :=
  { found with documents := path :: found.documents }

-- Takes paths from a queue: documents are kept, and the documents below a directory go to the end of the
-- queue.
def discover (files : FileSystem) (recursive : Bool) : List Path → Discovered
  | [] => {}
  | path :: queue =>
      match files.fault? path with
      | some fault => { fault := some fault }
      | none =>
          if recursive && files.isDirectory path then
            match files.faultBelow? path with
            | some fault => { fault := some fault }
            | none => discover files recursive (queue ++ files.documentsBelow path)
          else if files.isDocument path then (discover files recursive queue).add path
          else discover files recursive queue
termination_by queue => (queue.countP files.isDirectory, queue.length)
decreasing_by
  · rename_i directory
    have isDirectory : files.isDirectory path = true := by simp_all
    apply Prod.Lex.left
    simp [List.countP_append, directories_below, isDirectory]
  all_goals
    by_cases isDirectory : files.isDirectory path = true
    · apply Prod.Lex.left
      simp [isDirectory]
    · have same : (path :: queue).countP files.isDirectory = queue.countP files.isDirectory := by
        simp [isDirectory]
      rw [same]
      apply Prod.Lex.right
      simp

end FileSystem

namespace Batch

structure Sifted where
  stay : List Path
  missing : List Path := []
  fault : Option PathError := none

def sift (fault? : Path → Option PathError) (isPresent : Path → Bool) :
    List Path → List Path → Sifted
  | kept, [] => { stay := kept }
  | kept, [path] =>
      match fault? path with
      | some fault => { stay := kept, fault := some fault }
      | none =>
          if isPresent path then { stay := kept ++ [path] }
          else { stay := without path kept, missing := [path] }
  | kept, path :: next :: rest =>
      match fault? path with
      | some fault => { stay := kept, fault := some fault }
      | none =>
          if isPresent path then sift fault? isPresent (kept ++ [path]) (next :: rest)
          else
            -- The next path is not looked at, and the missing one is taken out where it stands
            -- first.
            let sifted := sift fault? isPresent (without path kept ++ [next]) rest
            { sifted with missing := path :: sifted.missing }
where
  -- The paths passed when one more has been taken out: one that was passed before goes to the end.
  without (path : Path) (kept : List Path) : List Path :=
    if kept.contains path then kept.erase path ++ [path] else kept

def missingWarning (recursive : Bool) (path : Path) : LogLine :=
  ⟨.warning, (if recursive then "Path does not exist or is neither a file nor a directory: '"
    else "Path does not exist or is not a file: '") ++ toString path ++ "'."⟩

end Batch

end MarkupLint
