import MarkupLint.Path

set_option autoImplicit false

namespace MarkupLint

structure Access where
  lists : Bool := true
  enters : Bool := true
deriving DecidableEq, Repr

mutual

inductive FileTree where
  | file (bytes : List UInt8) (readable : Bool := true)
  | directory (entries : FileEntries) (access : Access := {})
  | link (target : Path)

inductive FileEntries where
  | nil
  | cons (name : String) (tree : FileTree) (rest : FileEntries)

end

namespace FileEntries

def names : FileEntries → List String
  | .nil => []
  | .cons name _ rest => name :: rest.names

def lookup (wanted : String) : FileEntries → Option FileTree
  | .nil => none
  | .cons name tree rest => if name = wanted then some tree else rest.lookup wanted

-- Sets what is under a name; a new name goes before the first that is greater.
def put (wanted : String) (value : FileTree) : FileEntries → FileEntries
  | .nil => .cons wanted value .nil
  | .cons name tree rest =>
      if name = wanted then .cons wanted value rest
      else if wanted < name ∧ wanted ∉ rest.names then .cons wanted value (.cons name tree rest)
      else .cons name tree (rest.put wanted value)

def erase (wanted : String) : FileEntries → FileEntries
  | .nil => .nil
  | .cons name tree rest => if name = wanted then rest else .cons name tree (rest.erase wanted)

end FileEntries

-- Whether something is listed as no directory. A link is listed as what it leads to.
def FileTree.isLeaf (leads : Bool) : FileTree → Bool
  | .file .. => true
  | .directory .. => false
  | .link _ => !leads

def FileEntries.fileNames (leads : String → Bool) : FileEntries → List String
  | .nil => []
  | .cons name tree rest =>
      if tree.isLeaf (leads name) then name :: rest.fileNames leads else rest.fileNames leads

mutual

def FileTree.distinct : FileTree → Bool
  | .directory entries _ => entries.distinct
  | .file .. | .link _ => true

def FileEntries.distinct : FileEntries → Bool
  | .nil => true
  | .cons name tree rest => decide (name ∉ rest.names) && (tree.distinct && rest.distinct)

end

mutual

def FileTree.linkCount : FileTree → Nat
  | .file .. => 0
  | .directory entries _ => entries.linkCount
  | .link _ => 1

def FileEntries.linkCount : FileEntries → Nat
  | .nil => 0
  | .cons _ tree rest => tree.linkCount + rest.linkCount

end

namespace FileEntries

theorem mem_names_put (wanted other : String) (value : FileTree) (entries : FileEntries)
    (member : other ∈ (entries.put wanted value).names) : other = wanted ∨ other ∈ entries.names := by
  fun_induction put wanted value entries with
  | case1 => simpa [names] using member
  | case2 => simpa [names] using member
  | case3 => simpa [names] using member
  | case4 name tree rest _ _ ih =>
      rcases List.mem_cons.mp member with rfl | later
      · exact .inr List.mem_cons_self
      · exact (ih later).imp id (List.mem_cons_of_mem name)

theorem distinct_put (wanted : String) (value : FileTree) (entries : FileEntries) (valueDistinct : value.distinct = true)
    (distinct : entries.distinct = true) : (entries.put wanted value).distinct = true := by
  fun_induction put wanted value entries with
  | case1 => simp [FileEntries.distinct, names, valueDistinct]
  | case2 => simp_all [FileEntries.distinct]
  | case3 name tree rest different before =>
      have absent : ¬ wanted = name := fun same => different same.symm
      simp_all [FileEntries.distinct, names]
  | case4 name tree rest different _ ih =>
      simp only [FileEntries.distinct, Bool.and_eq_true, decide_eq_true_eq] at distinct ⊢
      refine ⟨fun member => ?_, distinct.2.1, ih distinct.2.2⟩
      exact (mem_names_put wanted name value rest member).elim different distinct.1

theorem distinct_erase (wanted : String) (entries : FileEntries) (distinct : entries.distinct = true) :
    (entries.erase wanted).distinct = true ∧ ∀ name ∈ (entries.erase wanted).names, name ∈ entries.names := by
  fun_induction erase wanted entries with
  | case1 => exact ⟨rfl, fun _ member => member⟩
  | case2 => simp_all [FileEntries.distinct, names]
  | case3 name tree rest different ih =>
      simp only [FileEntries.distinct, Bool.and_eq_true, decide_eq_true_eq] at distinct ⊢
      obtain ⟨kept, fewer⟩ := ih distinct.2.2
      refine ⟨⟨fun member => distinct.1 (fewer name member), distinct.2.1, kept⟩, ?_⟩
      simpa [names] using fun name member => Or.inr (fewer name member)

theorem distinct_lookup (wanted : String) (entries : FileEntries) (found : FileTree) (distinct : entries.distinct = true)
    (holds : entries.lookup wanted = some found) : found.distinct = true := by
  fun_induction lookup wanted entries with
  | case1 => cases holds
  | case2 => simp_all [FileEntries.distinct]
  | case3 name tree rest different ih =>
      simp only [FileEntries.distinct, Bool.and_eq_true] at distinct
      exact ih distinct.2.2 holds

end FileEntries

def isHidden (name : String) : Bool := name.toList.head? = some '.'

namespace Path

def maxNameSize : Nat := 255

def maxSize : Nat := 4095

def hasNull (path : Path) : Bool := path.names.any fun name => name.toList.contains (Char.ofNat 0)

def walkText (start : Path) (below : List String) : String :=
  if start.names.isEmpty && !start.isAbsolute then String.intercalate "/" ("." :: below)
  else toString { start with names := start.names ++ below }

def opens (start : Path) (below : List String) : Bool :=
  (start.walkText below).utf8ByteSize ≤ maxSize
    && (start.names ++ below).all (·.utf8ByteSize ≤ maxNameSize)

end Path

inductive LookFault where
  | missing
  | notDirectory
  | denied
  | tooLong
  | loop
deriving DecidableEq, Repr

namespace FileTree

def empty : FileTree := .directory .nil

def entries : FileTree → FileEntries
  | .directory entries _ => entries
  | .file .. | .link _ => .nil

def access : FileTree → Access
  | .directory _ access => access
  | .file .. | .link _ => {}

def find? : FileTree → List String → Option FileTree
  | tree, [] => some tree
  | .directory entries _, name :: rest =>
      match entries.lookup name with
      | some tree => tree.find? rest
      | none => none
  | .file .., _ :: _ | .link _, _ :: _ => none

-- Looks up names one by one. Links are not followed.
def seek : FileTree → List String → Except LookFault FileTree
  | tree, [] => .ok tree
  | .directory entries access, name :: rest =>
      if !access.enters then .error .denied
      else if Path.maxNameSize < name.utf8ByteSize then .error .tooLong
      else
        match entries.lookup name with
        | some tree => tree.seek rest
        | none => .error .missing
  | .file .., _ :: _ | .link _, _ :: _ => .error .notDirectory

def insert (value : FileTree) : List String → FileTree → FileTree
  | [], _ => value
  | name :: rest, tree =>
      .directory (tree.entries.put name
        (insert value rest ((tree.entries.lookup name).getD empty))) tree.access

def erase : List String → FileTree → FileTree
  | [], tree => tree
  | [name], tree => .directory (tree.entries.erase name) tree.access
  | name :: rest, tree =>
      match tree.entries.lookup name with
      | some child => .directory (tree.entries.put name (erase rest child)) tree.access
      | none => tree

theorem distinct_entries (tree : FileTree) (distinct : tree.distinct = true) : tree.entries.distinct = true := by
  cases tree with
  | directory entries access => exact distinct
  | file | link => rfl

theorem distinct_insert (value : FileTree) (names : List String) (tree : FileTree) (valueDistinct : value.distinct = true)
    (distinct : tree.distinct = true) : (insert value names tree).distinct = true := by
  induction names generalizing tree with
  | nil => exact valueDistinct
  | cons name rest ih =>
      have entries := distinct_entries tree distinct
      refine FileEntries.distinct_put name _ _ (ih _ ?_) entries
      cases found : tree.entries.lookup name with
      | none => rfl
      | some child => exact FileEntries.distinct_lookup name _ child entries found

theorem distinct_erase (names : List String) (tree : FileTree) (distinct : tree.distinct = true) :
    (erase names tree).distinct = true := by
  have entries := distinct_entries tree distinct
  fun_induction erase names tree with
  | case1 => exact distinct
  | case2 name tree => exact (FileEntries.distinct_erase name _ entries).1
  | case3 name rest tree _ child found ih =>
      have held := FileEntries.distinct_lookup name _ child entries found
      exact FileEntries.distinct_put name _ _ (ih held (distinct_entries child held)) entries
  | case4 => exact distinct

mutual

-- What is no directory in a directory and below: first what stands in the directory itself, then what stands in
-- the directories there. Those that are hidden, linked or cannot be listed are not entered. `here` holds the names
-- that have led to the directory.
def walk (opens leads : List String → Bool) (here : List String) : FileTree → List (List String)
  | .directory entries access =>
      if opens here && access.lists then
        (entries.fileNames fun name => leads (here ++ [name])).map (fun name => here ++ [name])
          ++ if access.enters then walkBelow opens leads here entries else []
      else []
  | .file .. | .link _ => []

def walkBelow (opens leads : List String → Bool) (here : List String) : FileEntries → List (List String)
  | .nil => []
  | .cons name tree rest =>
      (if isHidden name then [] else walk opens leads (here ++ [name]) tree) ++ walkBelow opens leads here rest

end

end FileTree

inductive PathError where
  | nullCharacter
  | loop (path : Path)
  | nameTooLong (path : Path)
  | denied (path : Path)
deriving DecidableEq, Repr

namespace PathError

def message : PathError → String
  | .nullCharacter => "embedded null byte"
  | .loop path => "Symlink loop from " ++ Text.quote (toString path)
  | .nameTooLong path => "[Errno 36] File name too long: " ++ Text.quote (toString path)
  | .denied path => "[Errno 13] Permission denied: " ++ Text.quote (toString path)

end PathError

structure FileSystem where
  tree : FileTree
  directory : Path
  distinct : tree.distinct = true := by decide

instance : Inhabited FileSystem where
  default := { tree := .empty, directory := ⟨"/", []⟩ }

namespace FileSystem

def write (files : FileSystem) (names : List String) (bytes : List UInt8) : FileSystem where
  tree := .insert (.file bytes) names files.tree
  directory := files.directory
  distinct := FileTree.distinct_insert _ names _ rfl files.distinct

def makeDirectory (files : FileSystem) (names : List String) : FileSystem :=
  if (files.tree.find? names).isSome then files
  else
    { tree := .insert .empty names files.tree
      directory := files.directory
      distinct := FileTree.distinct_insert _ names _ rfl files.distinct }

def erase (files : FileSystem) (names : List String) : FileSystem where
  tree := files.tree.erase names
  directory := files.directory
  distinct := FileTree.distinct_erase names _ files.distinct

def trail (files : FileSystem) (path : Path) : List String :=
  if path.isAbsolute then path.names else files.directory.names ++ path.names

-- The names that others stand for when links are followed; what cannot be looked up is taken as it is spelled.
-- `jump` says where a link in a directory leads to.
def settleWith (tree : FileTree) (jump : List String → Path → Option (List String)) :
    List String → List String → Option (List String)
  | here, [] => some here
  | here, name :: rest =>
      if name = ".." then settleWith tree jump here.dropLast rest
      else
        match tree.seek (here ++ [name]) with
        | .ok (.link target) =>
            match jump here target with
            | some place => settleWith tree jump place rest
            | none => none
        | _ => settleWith tree jump (here ++ [name]) rest

def settle (tree : FileTree) : Nat → List String → List String → Option (List String)
  | 0 => settleWith tree fun _ _ => none
  | depth + 1 => settleWith tree fun here target =>
      settle tree depth (if target.isAbsolute then [] else here) target.names

-- A link that is met while as many others are being followed as there are leads back to one of them.
def realNames? (files : FileSystem) (path : Path) : Option (List String) :=
  settle files.tree files.tree.linkCount [] (files.trail path)

def resolve (files : FileSystem) (path : Path) : Path :=
  match files.realNames? path with
  | some names => ⟨"/", names⟩
  | none => Path.resolve files.directory path

def resolveFault? (files : FileSystem) (path : Path) : Option PathError :=
  if path.hasNull then some .nullCharacter
  else if (files.realNames? path).isNone then some (.loop (files.resolve path))
  else none

def lookFault? (files : FileSystem) (path : Path) : Option PathError :=
  let resolved := files.resolve path
  if Path.maxSize < (toString resolved).utf8ByteSize then some (.nameTooLong resolved)
  else
    match files.tree.seek resolved.names with
    | .error .tooLong => some (.nameTooLong resolved)
    | .error .denied => some (.denied resolved)
    | _ => none

def fault? (files : FileSystem) (path : Path) : Option PathError :=
  files.resolveFault? path <|> files.lookFault? path

def isFile (files : FileSystem) (path : Path) : Bool :=
  match files.tree.seek (files.resolve path).names with
  | .ok (.file ..) => true
  | _ => false

def isDirectory (files : FileSystem) (path : Path) : Bool :=
  match files.tree.seek (files.resolve path).names with
  | .ok (.directory ..) => true
  | _ => false

def read? (files : FileSystem) (path : Path) : Option (List UInt8) :=
  match files.tree.seek (files.resolve path).names with
  | .ok (.file bytes true) => some bytes
  | _ => none

-- What names lead to when each is followed through a directory that exists; a double dot leads back up. `jump`
-- goes on behind a link.
def followWith (tree : FileTree) (jump : List String → List String → Except LookFault FileTree) :
    List String → List String → Except LookFault FileTree
  | here, [] => tree.seek here
  | here, name :: rest =>
      if name = ".." then
        match tree.seek here with
        | .ok (.directory _ access) =>
            if access.enters then followWith tree jump here.dropLast rest else .error .denied
        | .ok _ => .error .notDirectory
        | .error fault => .error fault
      else
        match tree.seek (here ++ [name]) with
        | .ok (.link target) => jump (if target.isAbsolute then [] else here) (target.names ++ rest)
        | .ok _ => followWith tree jump (here ++ [name]) rest
        | .error fault => .error fault

def follow (tree : FileTree) : Nat → List String → List String → Except LookFault FileTree
  | 0 => followWith tree fun _ _ => .error .loop
  | budget + 1 => followWith tree (follow tree budget)

def maxLinks : Nat := 40

def reach (files : FileSystem) (path : Path) : Except LookFault FileTree :=
  if Path.maxSize < (toString path).utf8ByteSize then .error .tooLong
  else follow files.tree maxLinks [] (files.trail path)

def leadsBelow (files : FileSystem) (start : Path) (below : List String) : Bool :=
  match files.reach { start with names := start.names ++ below } with
  | .ok (.directory ..) => true
  | _ => false

def walk (files : FileSystem) (start : Path) : List Path :=
  match files.reach start with
  | .ok tree => (tree.walk start.opens (files.leadsBelow start) []).map fun names =>
      { start with names := start.names ++ names }
  | .error _ => []

end FileSystem

end MarkupLint
