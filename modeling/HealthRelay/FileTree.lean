/-!
The files that a monitor can see: its settings, and the sockets of plugins.

Paths are looked up component by component. Nothing is known to be there but what has been put
there, and the directories that lead to it.
-/

namespace HealthRelay

/-- Why a path or its contents cannot be had. -/
inductive FileError where
  | notFound
  | noDevice
  | notDirectory
  | isDirectory
  | nameTooLong
  | nulByte
  | notText
  deriving DecidableEq

def FileError.message : FileError → String
  | .notFound => "No such file or directory (os error 2)"
  | .noDevice => "No such device or address (os error 6)"
  | .notDirectory => "Not a directory (os error 20)"
  | .isDirectory => "Is a directory (os error 21)"
  | .nameTooLong => "File name too long (os error 36)"
  | .nulByte => "file name contained an unexpected NUL byte"
  | .notText => "stream did not contain valid UTF-8"

/-- What a path leads to. -/
inductive FileEntry where
  | file (bytes : ByteArray)
  | directory
  /-- A socket, and whether a plugin listens on it. -/
  | socket (listening : Bool)

/-- Entries by their path. A path is a list of components: it begins with `"/"` at the root, else at
the working directory, and goes up from there by `".."` before it goes down. -/
structure FileTree where
  entries : List (List String × FileEntry)

namespace FileTree

def empty : FileTree := ⟨[]⟩

/-- Where a path begins. -/
def origin (path : String) : List String := if path.startsWith "/" then ["/"] else []

/-- The components of a path. -/
def components (path : String) : List String :=
  origin path ++ (path.splitOn "/").filter fun c => c ≠ "" ∧ c ≠ "."

/-- The path is a directory whatever the entries are: a place to begin, or one above it. -/
def isGiven (path : List String) : Bool := path = ["/"] || path.all (· = "..")

/-- The entry at a path. What holds entries is a directory. -/
def entryAt? (t : FileTree) (path : List String) : Option FileEntry :=
  if isGiven path then some .directory
  else match t.entries.find? fun e => e.1 = path with
    | some e => some e.2
    | none => if t.entries.any fun e => path.isPrefixOf e.1 then some .directory else none

/-- Puts an entry, replacing the one there. -/
def put (t : FileTree) (path : String) (entry : FileEntry) : FileTree :=
  let path := components path
  ⟨(path, entry) :: t.entries.filter fun e => e.1 ≠ path⟩

def remove (t : FileTree) (path : String) : FileTree :=
  let path := components path
  ⟨t.entries.filter fun e => e.1 ≠ path⟩

/-- Nothing listens on any socket any more. -/
def hangUp (t : FileTree) : FileTree :=
  ⟨t.entries.map fun
    | (path, .socket _) => (path, .socket false)
    | e => e⟩

/-- The directory above. The root is above itself. -/
def parent (path : List String) : List String :=
  if path = ["/"] then path
  else if path.all (· = "..") then path ++ [".."]
  else path.dropLast

/-- One component further along a path. -/
def descend (t : FileTree) (path : List String) (component : String) :
    Except FileError (List String) :=
  match t.entryAt? path with
  | some .directory =>
    if component = "" ∨ component = "." then .ok path
    else if component = ".." then .ok (parent path)
    else if 255 < component.utf8ByteSize then .error .nameTooLong
    else
      match t.entryAt? (path ++ [component]) with
      | some _ => .ok (path ++ [component])
      | none => .error .notFound
  | some _ => .error .notDirectory
  | none => .error .notFound

/-- The entry that a path leads to. -/
def lookup (t : FileTree) (path : String) : Except FileError FileEntry := do
  if path.toList.contains '\x00' then .error .nulByte
  else if path = "" then .error .notFound
  else if 4096 ≤ path.utf8ByteSize then .error .nameTooLong
  else
    let place ← (path.splitOn "/").foldlM t.descend (origin path)
    (t.entryAt? place).elim (.error .notFound) .ok

/-- The text of a file. -/
def readText (t : FileTree) (path : String) : Except FileError String := do
  match ← t.lookup path with
  | .file bytes => (String.fromUTF8? bytes).elim (.error .notText) .ok
  | .directory => .error .isDirectory
  | .socket _ => .error .noDevice

end FileTree

end HealthRelay
