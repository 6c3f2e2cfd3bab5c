namespace MailPrefs

inductive ReadFailure where
  | notFound
  | notDirectory
  | isDirectory
  | nameTooLong
  | zeroInName
  | notText
  | other (reason : String)
deriving DecidableEq, Repr

def ReadFailure.message : ReadFailure → String
  | .notFound => "No such file or directory (os error 2)"
  | .notDirectory => "Not a directory (os error 20)"
  | .isDirectory => "Is a directory (os error 21)"
  | .nameTooLong => "File name too long (os error 36)"
  | .zeroInName => "file name contained an unexpected NUL byte"
  | .notText => "stream did not contain valid UTF-8"
  | .other reason => reason

abbrev ReadText := String → Except ReadFailure String

inductive FileNode where
  | file (content : List UInt8)
  | directory

/-- Nodes by the names on the way to them; a name on the way to another one is a directory. -/
structure FileTree where
  nodes : List (List String × FileNode)

namespace FileTree

/-- The names of a path; none for repeated and trailing slashes. -/
def names (path : String) : List String :=
  (path.splitOn "/").filter (!·.isEmpty)

def ofPaths (files : List (String × FileNode)) : FileTree :=
  ⟨files.map fun (path, node) => (names path, node)⟩

def node? (t : FileTree) (place : List String) : Option FileNode :=
  if place.isEmpty then some .directory
  else
    match t.nodes.lookup place with
    | some node => some node
    | none => if t.nodes.any fun (p, _) => place.isPrefixOf p then some .directory else none

def walk (t : FileTree) (place : List String) : List String → Except ReadFailure FileNode
  | [] => (t.node? place).elim (.error .notFound) .ok
  | name :: rest =>
    match t.node? place with
    | none => .error .notFound
    | some (.file _) => .error .notDirectory
    | some .directory =>
      if name = "." then t.walk place rest
      else if name = ".." then
        if place.isEmpty then .error .notFound else t.walk place.dropLast rest
      else if 255 < name.utf8ByteSize then .error .nameTooLong
      else t.walk (place ++ [name]) rest

/-- The node at a path from the root of the tree. A slash at its end asks for a directory. -/
def find (t : FileTree) (path : String) : Except ReadFailure FileNode :=
  if path.isEmpty then .error .notFound
  else if path.contains '\x00' then .error .zeroInName
  else if path.startsWith "/" then .error .notFound
  else t.walk [] (names path ++ if path.endsWith "/" then ["."] else [])

def readText (t : FileTree) : ReadText := fun path =>
  match t.find path with
  | .error e => .error e
  | .ok .directory => .error .isDirectory
  | .ok (.file content) =>
    match String.fromUTF8? ⟨content.toArray⟩ with
    | some s => .ok s
    | none => .error .notText

end FileTree

end MailPrefs
