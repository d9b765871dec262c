import TransactSql.Text.Split

/-!
# Files

The files that a process sees, and the directory that its relative paths start from. A directory
is there when something in it is, and so are the directories on the way to the working directory.
-/

namespace TransactSql

/-- What a path leads to. -/
inductive FileTree.Entry where
  | file (content : ByteArray)
  | directory

/-- Files and directories, each by the names on the way to it from the root. -/
structure FileTree where
  workingDirectory : List String
  entries : List (List String × FileTree.Entry)

namespace FileTree

/-- Whether a place is a directory only because of what it leads to. -/
def isOnTheWay (tree : FileTree) (place : List String) : Bool :=
  place.isPrefixOf tree.workingDirectory || tree.entries.any fun e => place.isPrefixOf e.1

/-- What stands at a place. -/
def at? (tree : FileTree) (place : List String) : Option Entry :=
  match tree.entries.lookup place with
  | some entry => some entry
  | none => if tree.isOnTheWay place then some .directory else none

/-- Goes one step of a path, which only a directory admits. Nothing and a dot stay where they
are, and two dots go up. -/
def step (tree : FileTree) (place : List String) (name : String) : Option (List String) :=
  match tree.at? place with
  | some .directory =>
    if name = "" || name = "." then some place
    else if name = ".." then some place.dropLast
    else some (place ++ [name])
  | _ => none

/-- Whether a path starts from the root. -/
def isAbsolute (path : String) : Bool :=
  path.toList.head? == some '/'

/-- What a path leads to. The empty path leads nowhere. -/
def entry? (tree : FileTree) (path : String) : Option Entry :=
  if path = "" then none
  else
    let start := if isAbsolute path then [] else tree.workingDirectory
    ((Text.split '/' path).foldlM tree.step start).bind tree.at?

/-- Whether a path leads to anything. -/
def hasPath (tree : FileTree) (path : String) : Bool :=
  (tree.entry? path).isSome

/-- Whether a path leads to a file. -/
def isFile (tree : FileTree) (path : String) : Bool :=
  match tree.entry? path with
  | some (.file _) => true
  | _ => false

/-- A path below a directory. The empty path stands for the working directory. -/
def join (directory name : String) : String :=
  if directory = "" || directory.toList.getLast? == some '/' then directory ++ name
  else directory ++ "/" ++ name

end FileTree

end TransactSql
