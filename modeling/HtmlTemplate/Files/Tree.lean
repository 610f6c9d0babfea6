import HtmlTemplate.Charset.Decoder
import HtmlTemplate.Files.Path
import HtmlTemplate.Text.Unwritable
import HtmlTemplate.Value.Basic

/-!
# Trees of files

A file system is such a tree with a working directory. Reading and writing fail if there is no
file, if a directory stands where a file should, or a file where a directory should. A directory stays when its last
file is deleted.
-/

namespace HtmlTemplate

/-- A file or a directory. -/
inductive FileTree where
  | file (content : Bytes)
  | directory (entries : List (Text × FileTree))

/-- Why there is no file at a path. -/
inductive FileError where
  | notFound
  | notDirectory
  | isDirectory
  /-- A path is one that nothing can have. -/
  | unnameable (why : Unnameable)
  deriving DecidableEq, Repr

namespace FileError

/-- The message about an error at a path: the number of the error, its name, and the path. -/
def messageAt (p : Path) : FileError → Text
  | .notFound => "[Errno 2] No such file or directory: ".text ++ Text.quoted p.text
  | .notDirectory => "[Errno 20] Not a directory: ".text ++ Text.quoted p.text
  | .isDirectory => "[Errno 21] Is a directory: ".text ++ Text.quoted p.text
  | .unnameable why => why.message

end FileError

namespace FileTree

/-- The empty directory. -/
def empty : FileTree := .directory []

/-- The tree at the names `parts`, seen from `here`, which stands below the directories `above`. Two dots lead to the
directory above. -/
def find : List FileTree → FileTree → List Text → Except FileError FileTree
  | _, here, [] => .ok here
  | above, .directory entries, name :: rest =>
    if name = "..".text then
      match above with
      | [] => .error .notFound
      | parent :: others => find others parent rest
    else
      match entries.lookup name with
      | none => .error .notFound
      | some t => find (.directory entries :: above) t rest
  | _, .file _, _ :: _ => .error .notDirectory

/-- The tree with a file at the names `parts`; directories on the way that do not exist are made. -/
def put (content : Bytes) : List Text → FileTree → FileTree
  | [], _ => .file content
  | name :: rest, .directory entries =>
    .directory (Entries.insert name (put content rest ((entries.lookup name).getD empty)) entries)
  | name :: rest, .file _ => .directory [(name, put content rest empty)]

/-- The tree with a directory at the names `parts`. -/
def makeDirectory : List Text → FileTree → FileTree
  | [], .directory entries => .directory entries
  | [], .file content => .file content
  | name :: rest, .directory entries =>
    .directory (Entries.insert name (makeDirectory rest ((entries.lookup name).getD empty)) entries)
  | name :: rest, .file _ => .directory [(name, makeDirectory rest empty)]

/-- The tree without the file at the names `parts`. -/
def delete : List Text → FileTree → FileTree
  | [], t => t
  | [name], .directory entries => .directory (entries.filter fun e => e.1 ≠ name)
  | name :: rest, .directory entries =>
    match entries.lookup name with
    | none => .directory entries
    | some t => .directory (Entries.insert name (delete rest t) entries)
  | _ :: _, .file content => .file content

end FileTree

/-- A file that was found: its path, its name, and its content. -/
structure FoundFile where
  path : Path
  name : Text
  content : Bytes
  deriving Repr

namespace FileTree

/-- The files among the entries of a directory whose names are wanted. -/
def filesIn (wanted : Text → Bool) (dir : Path) : List (Text × FileTree) → List FoundFile
  | [] => []
  | (name, .file content) :: rest =>
    if wanted name then ⟨dir.entry name, name, content⟩ :: filesIn wanted dir rest else filesIn wanted dir rest
  | (_, .directory _) :: rest => filesIn wanted dir rest

mutual

/-- The files of a directory and of those below it whose names are wanted: first the files of the directory, then
those of each directory in it, both in the order of the names. -/
def walk (wanted : Text → Bool) (dir : Path) : FileTree → List FoundFile
  | .file _ => []
  | .directory entries =>
    (filesIn wanted dir entries).mergeSort (fun f g => Text.atMost f.name g.name) ++
      ((walks wanted dir entries).mergeSort fun a b => Text.atMost a.1 b.1).flatMap Prod.snd

/-- What is found in each entry of a directory, with the name of the entry. -/
def walks (wanted : Text → Bool) (dir : Path) : List (Text × FileTree) → List (Text × List FoundFile)
  | [] => []
  | (name, t) :: rest => (name, walk wanted (dir.entry name) t) :: walks wanted dir rest

end

end FileTree

/-- A tree of files, the directory in it from which relative paths are seen, and the home directories. The names of a
path lead into the tree if the path has the root of that directory. -/
structure FileSystem where
  directory : Path
  tree : FileTree
  homes : Homes

namespace FileSystem

/-- The names that lead to a path, if the tree holds paths of its root. -/
def below? (fs : FileSystem) (p : Path) : Option (List Text) :=
  let p := fs.directory.join p
  if p.root = fs.directory.root then some p.parts else none

/-- What is at a path. -/
def find (fs : FileSystem) (p : Path) : Except FileError FileTree :=
  match p.text.unnameable?, fs.below? p with
  | some why, _ => .error (.unnameable why)
  | none, none => .error .notFound
  | none, some parts => FileTree.find [] fs.tree parts

/-- The content of the file at a path. -/
def read (fs : FileSystem) (p : Path) : Except FileError Bytes :=
  match fs.find p with
  | .ok (.file content) => .ok content
  | .ok (.directory _) => .error .isDirectory
  | .error e => .error e

/-- Whether there is something at a path. -/
def contains (fs : FileSystem) (p : Path) : Bool :=
  match fs.find p with
  | .ok _ => true
  | .error _ => false

/-- Whether a directory is at a path. -/
def isDirectory (fs : FileSystem) (p : Path) : Bool :=
  match fs.find p with
  | .ok (.directory _) => true
  | _ => false

/-- The file system with a file at a path, whose directory must exist. -/
def write (fs : FileSystem) (p : Path) (content : Bytes) : Except FileError FileSystem :=
  match fs.find p with
  | .ok (.directory _) => .error .isDirectory
  | .error .notDirectory => .error .notDirectory
  | .error (.unnameable why) => .error (.unnameable why)
  | _ =>
    match fs.find p.parent with
    | .error e => .error e
    | .ok (.file _) => .error .notDirectory
    | .ok (.directory _) =>
      match fs.below? p with
      | none => .error .notFound
      | some parts => .ok { fs with tree := fs.tree.put content (Path.withoutDots parts) }

/-- The files below the directory `root` whose names are wanted; nothing if there is no such directory. -/
def walk? (fs : FileSystem) (wanted : Text → Bool) (root : Path) : Option (List FoundFile) :=
  match fs.find root with
  | .ok (.directory entries) => some (FileTree.walk wanted root (.directory entries))
  | _ => none

end FileSystem

end HtmlTemplate
