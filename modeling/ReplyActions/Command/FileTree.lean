import ReplyActions.Command.Path
import ReplyActions.SortedMap

/-!
# Trees of files

Files and directories by their place, which is given by the names from the root. A path is walked
name by name. What is left behind with a name has to be a directory, even where the next name leads
back out of it.
-/

namespace ReplyActions.Command

inductive Entry where
  | file (text : String)
  | directory
  /-- A device that is always empty and keeps nothing. -/
  | void
deriving DecidableEq

structure FileTree where
  entries : SortedMap (List String) Entry
  working : List String

namespace FileTree

/-- The directories that a machine has of its own. -/
def ownDirectories : List String := ["dev", "etc", "home", "root", "tmp", "usr", "var"]

def fresh : FileTree :=
  ⟨.ofList (ownDirectories.map (fun name => ([name], .directory)) ++
    [(["dev", "null"], .void), (["tmp", "session"], .directory)]), ["tmp", "session"]⟩

/-- What stands at a place; the root is always there. -/
def entry? (tree : FileTree) (place : List String) : Option Entry :=
  if place = [] then some .directory else tree.entries.get? place

def put (tree : FileTree) (place : List String) (entry : Entry) : FileTree :=
  { tree with entries := tree.entries.insert place entry }

/-! ### Walking -/

/-- One name further. Nothing needs to stand at the place that is reached. -/
def enter (tree : FileTree) (place : List String) (name : String) :
    Except PathFault (List String) :=
  match tree.entry? place with
  | none => .error .missing
  | some .directory =>
    if name = "." then .ok place
    else if name = ".." then .ok place.dropLast
    else if maxNameSize < name.utf8ByteSize then .error .tooLong
    else .ok (place ++ [name])
  | some _ => .error .notDirectory

def start (tree : FileTree) (path : String) : Except PathFault (List String) :=
  if path = "" then .error .missing
  else if maxPathSize < path.utf8ByteSize then .error .tooLong
  else .ok (if isAbsolute path then [] else tree.working)

def walk (tree : FileTree) (path : String) : Except PathFault (List String) := do
  (pathNames path).foldlM tree.enter (← tree.start path)

def find (tree : FileTree) (path : String) : Except PathFault Entry := do
  let place ← tree.walk path
  -- a slash at the end asks for a directory, as a dot behind it would
  let place ← if endsInSlash path then tree.enter place "." else .ok place
  match tree.entry? place with
  | some entry => .ok entry
  | none => .error .missing

def exists? (tree : FileTree) (path : String) : Bool := (tree.find path).isOk

def isDirectory (tree : FileTree) (path : String) : Bool :=
  match tree.find path with
  | .ok .directory => true
  | _ => false

def read? (tree : FileTree) (path : String) : Option String :=
  match tree.find path with
  | .ok (.file text) => some text
  | .ok .void => some ""
  | _ => none

/-! ### Writing -/

/-- The place of a file that is to be written, whether or not it is there. -/
def filePlace (tree : FileTree) (path : String) : Except PathFault (List String) := do
  if endsInSlash path then
    -- no file can be meant, so the last name is not looked at
    let outer ← (pathNames path).dropLast.foldlM tree.enter (← tree.start path)
    let _ ← tree.enter outer "."
    .error .isDirectory
  else
    let place ← tree.walk path
    if tree.entry? place = some .directory then .error .isDirectory else .ok place

/-- Rewrites a file, which is empty at first if it is not there. -/
def change (tree : FileTree) (path : String) (rewrite : String → String) :
    Except PathFault FileTree := do
  let place ← tree.filePlace path
  match tree.entry? place with
  | some (.file text) => .ok (tree.put place (.file (rewrite text)))
  | some _ => .ok tree
  | none => .ok (tree.put place (.file (rewrite "")))

def write (tree : FileTree) (path text : String) : Except PathFault FileTree :=
  tree.change path fun _ => text

def append (tree : FileTree) (path text : String) : Except PathFault FileTree :=
  tree.change path (· ++ text)

/-! ### Making directories -/

def makeDirectory (tree : FileTree) (path : String) : Except PathFault FileTree := do
  let place ← tree.walk path
  if (tree.entry? place).isSome then .error .taken else .ok (tree.put place .directory)

def ensureDirectory (tree : FileTree) (path : String) : Except PathFault Unit × FileTree :=
  match tree.makeDirectory path with
  | .ok tree => (.ok (), tree)
  | .error fault => (if tree.isDirectory path then .ok () else .error fault, tree)

/-- Makes a directory and those on the way to it, whose names are given last first. What has been
made by the time of a failure stays. -/
def makeAll (tree : FileTree) (absolute : Bool) :
    List String → Except PathFault Unit × FileTree
  | [] => (.ok (), tree)
  | last :: outer =>
    let path := pathText absolute (last :: outer).reverse
    match tree.ensureDirectory path with
    | (.error .missing, tree) =>
      match makeAll tree absolute outer with
      | (.ok (), tree) => tree.ensureDirectory path
      | failed => failed
    | done => done

def makeParents (tree : FileTree) (path : String) : Except PathFault Unit × FileTree :=
  tree.makeAll (isAbsolute path) (parentNames path).reverse

/-- The files with given texts in the working directory. Those that cannot be written are left
out. -/
def ofTexts (texts : List (String × String)) : FileTree :=
  texts.foldl (fun tree (path, text) =>
    let (_, tree) := tree.makeParents path
    (tree.write path text).toOption.getD tree) fresh

end FileTree

end ReplyActions.Command
