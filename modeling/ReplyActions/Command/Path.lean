/-!
# Paths

A path is a row of names with slashes between them. It starts at the root if it begins with a slash,
and at the working directory otherwise. Slashes in a row count as one.
-/

namespace ReplyActions.Command

def isAbsolute (path : String) : Bool := path.toList.head? == some '/'

/-- With a slash at its end, a path can only mean a directory. -/
def endsInSlash (path : String) : Bool := path.toList.getLast? == some '/'

/-- The pieces of a path between its slashes, at least one. -/
def pathPieces : List Char → List (List Char)
  | [] => [[]]
  | c :: rest =>
    match pathPieces rest with
    | [] => [[c]]
    | first :: others => if c = '/' then [] :: first :: others else (c :: first) :: others

def pathNames (path : String) : List String :=
  ((pathPieces path.toList).filter (· ≠ [])).map String.ofList

def pathText (absolute : Bool) (names : List String) : String :=
  (if absolute then "/" else "") ++ "/".intercalate names

/-- The names that lead to the directory of a path's last name. A dot does not count as a name. -/
def parentNames (path : String) : List String := ((pathNames path).filter (· ≠ ".")).dropLast

/-- The greatest number of bytes in a name. -/
def maxNameSize : Nat := 255

/-- The greatest number of bytes in a path. -/
def maxPathSize : Nat := 4095

inductive PathFault where
  | missing
  | taken
  | notDirectory
  | isDirectory
  | tooLong
deriving DecidableEq

def PathFault.message : PathFault → String
  | missing => "No such file or directory (os error 2)"
  | taken => "File exists (os error 17)"
  | notDirectory => "Not a directory (os error 20)"
  | isDirectory => "Is a directory (os error 21)"
  | tooLong => "File name too long (os error 36)"

end ReplyActions.Command
