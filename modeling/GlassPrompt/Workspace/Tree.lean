import GlassPrompt.Text.Quoted
import GlassPrompt.Workspace.Path

/-!
# File trees

A file tree holds files and folders, seen from a working folder.  A place is a route, the names from the
working folder inwards.  Routes also lead out of the working folder, by way of the folders around it or
from the outermost folder.  A path leads to a place by way of folders only, and `..` leads one folder
out.

* `Node`, `FileTree` — what there is, and where.
* `FileFault`, `FileError` — why a file operation fails, and at which path.
* `Route.outwards`, `FileTree.locate` — the place around a place, and the place that a path leads to.
* `FileTree.read`, `write`, `makeFolders`, `remove` — the file operations.
* `FileTree.filePaths`, `FileTree.named` — the files of a tree, and what below a folder has a given
  ending in its name.
-/

namespace GlassPrompt

/-! ## Files, folders and faults -/

/-- A file with its content, or a folder. -/
inductive Node where
  | file (content : ByteArray)
  | folder

instance : BEq Node where
  beq
    | .file first, .file second => first.data == second.data
    | .folder, .folder => true
    | _, _ => false

/-- There can be something below the node. -/
def Node.isFolder : Node → Bool
  | .file _ => false
  | .folder => true

/-- The names that lead to a place from the working folder.  The name `..` leads to the folder around,
and only stands at the start; the name `/` is the outermost folder, and only stands first. -/
abbrev Route := List Text

namespace Route

/-- The route to the outermost folder. -/
def outermost : Route :=
  [['/']]

/-- The route leads to the working folder, to a folder around it, or to the outermost folder. -/
def isAround (route : Route) : Bool :=
  route.all (· == ['.', '.']) || route == outermost

/-- The route leads to a place below the working folder. -/
def isInside (route : Route) : Bool :=
  match route with
  | [] => false
  | name :: _ => name != ['.', '.'] && name != ['/']

/-- The route to the folder around a place; around the outermost folder there is nothing else. -/
def outwards (route : Route) : Route :=
  if route = outermost then outermost
  else if route.isAround then route ++ [['.', '.']]
  else route.dropLast

/-- The path that leads to a place. -/
def path (route : Route) : Path :=
  match route with
  | ['/'] :: names => ⟨['/'], names⟩
  | names => ⟨[], names⟩

end Route

/-- The files and folders at their places; the working folder and those around it are always there. -/
structure FileTree where
  entries : List (Route × Node)

/-- Why a file operation fails. -/
inductive FileFault where
  | notFound
  | notAFolder
  | isAFolder
  | alreadyThere
  /-- A name or a whole path has too many bytes. -/
  | nameTooLong
  /-- A folder cannot be taken away by a path that does not end in its name. -/
  | notByName
  /-- A path holds a null character, so it is none. -/
  | notAPath
  deriving DecidableEq, Repr

/-- A file operation that failed at a path. -/
structure FileError where
  fault : FileFault
  path : Path
  deriving DecidableEq, Repr

/-- The number and the message of a fault. -/
def FileFault.message : FileFault → Text
  | .notFound => "[Errno 2] No such file or directory".toList
  | .notAFolder => "[Errno 20] Not a directory".toList
  | .isAFolder => "[Errno 21] Is a directory".toList
  | .alreadyThere => "[Errno 17] File exists".toList
  | .nameTooLong => "[Errno 36] File name too long".toList
  | .notByName => "[Errno 22] Invalid argument".toList
  | .notAPath => "embedded null byte".toList

/-- The text of an error. -/
def FileError.text (error : FileError) : Text :=
  error.fault.message ++ ": ".toList ++ Text.inQuotes error.path.text

namespace FileTree

/-- The tree of an empty working folder. -/
def empty : FileTree :=
  ⟨[]⟩

/-- What is at a place. -/
def node? (tree : FileTree) (route : Route) : Option Node :=
  if route.isAround then some .folder else tree.entries.lookup route

/-- Puts something at a place, instead of what is there. -/
def put (tree : FileTree) (route : Route) (node : Node) : FileTree :=
  ⟨(tree.entries.filter (·.1 != route)) ++ [(route, node)]⟩

/-- Takes away what is below a place. -/
def eraseBelow (tree : FileTree) (route : Route) : FileTree :=
  ⟨tree.entries.filter fun entry => entry.1 == route || !route.isPrefixOf entry.1⟩

/-- Takes away what is at a place and below it. -/
def erase (tree : FileTree) (route : Route) : FileTree :=
  ⟨tree.entries.filter fun entry => !route.isPrefixOf entry.1⟩

/-- The greatest number of bytes of a name. -/
def maxNameBytes : Nat :=
  255

/-- The greatest number of bytes of a path. -/
def maxPathBytes : Nat :=
  4095

/-- The place that parts lead to from the place `here`. -/
def locateFrom (tree : FileTree) (here : Route) : List Text → Except FileFault Route
  | [] => .ok here
  | part :: rest =>
    match tree.node? here with
    | none => .error .notFound
    | some (.file _) => .error .notAFolder
    | some .folder =>
      if part = ['.', '.'] then locateFrom tree here.outwards rest
      else if maxNameBytes < Text.byteCount part then .error .nameTooLong
      else locateFrom tree (here ++ [part]) rest

/-- The place that a path leads to, if it leads anywhere. -/
def locate (tree : FileTree) (path : Path) : Except FileFault Route :=
  if path.text.contains '\x00' then .error .notAPath
  else if maxPathBytes < Text.byteCount path.text then .error .nameTooLong
  else tree.locateFrom (if path.root.isEmpty then [] else Route.outermost) path.parts

/-! ## Looking and reading -/

/-- What a path leads to. -/
def at? (tree : FileTree) (path : Path) : Option Node :=
  match tree.locate path with
  | .ok route => tree.node? route
  | .error _ => none

/-- A path leads to a folder. -/
def isFolder (tree : FileTree) (path : Path) : Bool :=
  (tree.at? path).any Node.isFolder

/-- Whether a path leads to a folder; of a path that is too long this cannot be said. -/
def checkFolder (tree : FileTree) (path : Path) : Except FileError Bool :=
  match tree.locate path with
  | .error .nameTooLong => .error ⟨.nameTooLong, path⟩
  | _ => .ok (tree.isFolder path)

/-- The content of the file that a path leads to. -/
def read (tree : FileTree) (path : Path) : Except FileError ByteArray :=
  match tree.locate path with
  | .error fault => .error ⟨fault, path⟩
  | .ok route =>
    match tree.node? route with
    | none => .error ⟨.notFound, path⟩
    | some .folder => .error ⟨.isAFolder, path⟩
    | some (.file content) => .ok content

/-! ## Changing the tree -/

/-- Writes a file; its folder has to be there. -/
def write (tree : FileTree) (path : Path) (content : ByteArray) : Except FileError FileTree :=
  match tree.locate path with
  | .error fault => .error ⟨fault, path⟩
  | .ok route =>
    if (tree.node? route).any Node.isFolder then .error ⟨.isAFolder, path⟩
    else .ok (tree.put route (.file content))

/-- Makes a folder; the folder around it has to be there, and nothing at its own place. -/
def makeFolder (tree : FileTree) (path : Path) : Except FileFault FileTree :=
  match tree.locate path with
  | .error fault => .error fault
  | .ok route =>
    if (tree.node? route).isSome then .error .alreadyThere else .ok (tree.put route .folder)

/-- Makes a folder that may be there already. -/
def ensureFolder (tree : FileTree) (path : Path) : Except FileFault FileTree :=
  match tree.makeFolder path with
  | .ok tree => .ok tree
  | .error .notFound => .error .notFound
  | .error fault => if tree.isFolder path then .ok tree else .error fault

/-- Makes a folder and the folders around it, as far as they are missing, given the parts of its path
from the inside outwards.  Folders that are made before a failure stay. -/
def makeFoldersFrom (tree : FileTree) (root : Text) : List Text → FileTree × Option FileError
  | [] =>
    match tree.ensureFolder ⟨root, []⟩ with
    | .ok tree => (tree, none)
    | .error fault => (tree, some ⟨fault, ⟨root, []⟩⟩)
  | part :: outer =>
    let path : Path := ⟨root, (part :: outer).reverse⟩
    match tree.ensureFolder path with
    | .ok tree => (tree, none)
    | .error .notFound =>
      match makeFoldersFrom tree root outer with
      | (tree, some error) => (tree, some error)
      | (tree, none) =>
        match tree.ensureFolder path with
        | .ok tree => (tree, none)
        | .error fault => (tree, some ⟨fault, path⟩)
    | .error fault => (tree, some ⟨fault, path⟩)

/-- Makes a folder and the folders around it, as far as they are missing. -/
def makeFolders (tree : FileTree) (path : Path) : FileTree × Option FileError :=
  makeFoldersFrom tree path.root path.parts.reverse

/-- Takes away a file, or a folder with all that is in it.  A path that does not end in the name of its
folder only empties it. -/
def remove (tree : FileTree) (path : Path) : FileTree × Option FileError :=
  match tree.locate path with
  | .error fault => (tree, some ⟨fault, path⟩)
  | .ok route =>
    match tree.node? route with
    | none => (tree, some ⟨.notFound, path⟩)
    | some (.file _) => (tree.erase route, none)
    | some .folder =>
      if path.endsInName then (tree.erase route, none)
      else
        let emptied := tree.eraseBelow route
        match emptied.locate path with
        | .error fault => (emptied, some ⟨fault, path⟩)
        | .ok _ => (emptied, some ⟨.notByName, path⟩)

/-! ## Listing -/

/-- The written paths of all files below the working folder, sorted. -/
def filePaths (tree : FileTree) : List Text :=
  (tree.entries.filterMap fun (route, node) =>
    match node with
    | .file _ => if Route.isInside route then some (Route.path route).text else none
    | .folder => none).mergeSort fun a b => !Text.before b a

/-- The routes from the place `base` to everything below it. -/
def below (tree : FileTree) (base : Route) : List Route :=
  tree.entries.filterMap fun (route, _) =>
    match base.isPrefixOf? route with
    | some (name :: rest) => if Route.isInside (name :: rest) then some (name :: rest) else none
    | _ => none

/-- The paths of everything below a folder whose name ends in `extension`, sorted part by part; there
are none below anything but a folder. -/
def named (tree : FileTree) (extension : Text) (folder : Path) : Except FileError (List Path) :=
  match tree.checkFolder folder, tree.locate folder with
  | .error error, _ => .error error
  | .ok true, .ok base =>
    .ok ((((tree.below base).filter fun route =>
      extension.isSuffixOf (route.getLast?.getD [])).mergeSort fun a b =>
        !List.lex b a Text.before).map folder.append)
  | _, _ => .ok []

end FileTree

end GlassPrompt
