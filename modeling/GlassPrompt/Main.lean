import GlassPrompt.Command.Run

/-!
# The program

The program loads the working folder and the places around it that its arguments name, runs the command
that the arguments stand for, prints what the command prints and writes what the command has written.

* `outerRoutes` — the places to load outside of the working folder.
* `loadAt` — what is at a place, and below it.
* `runProgram` — one run.
-/

namespace GlassPrompt

/-- The place that a path leads to if all of its folders are there. -/
def routeOf (path : Path) : Route :=
  path.parts.foldl (fun here part => if part = ['.', '.'] then Route.outwards here else here ++ [part])
    (if path.root.isEmpty then [] else Route.outermost)

/-- The places outside of the working folder that paths lead to and lead through, each once, without
those that lie below a place that a path leads to. -/
def outerRoutes (paths : List Path) : List Route :=
  let ends := paths.map routeOf
  let steps := ends.flatMap fun route => (List.range (route.length + 1)).map route.take
  steps.eraseDups.filter fun route =>
    !Route.isAround route && !Route.isInside route &&
      !ends.any fun stop => stop != route && !Route.isAround stop && stop.isPrefixOf route

/-- The content of a file matters if it is a prompt or named by a path. -/
def isOfInterest (paths : List Path) (route : Route) : Bool :=
  promptExtension.isSuffixOf (route.getLast?.getD []) || paths.any (routeOf · == route)

/-- What is at a place, and below it if `isDeep`; links to folders are not followed below a place. -/
partial def loadAt (paths : List Path) (isDeep : Bool) (route : Route) : IO (List (Route × Node)) := do
  let place := (← IO.currentDir) / String.ofList route.path.text
  if !(← place.pathExists) then return []
  if ← place.isDir then
    let mut below := []
    if isDeep then
      for entry in ← place.readDir do
        if (← entry.path.symlinkMetadata).type == .dir || !(← entry.path.isDir) then
          below := below ++ (← loadAt paths true (route ++ [entry.fileName.toList]))
    return (route, .folder) :: below
  let content ← if isOfInterest paths route then IO.FS.readBinFile place else pure .empty
  return [(route, .file content)]

/-- Prints a text to its channel. -/
def emit (printed : Printed) : IO Unit :=
  match printed.channel with
  | .output => IO.print (String.ofList printed.text)
  | .error => IO.eprint (String.ofList printed.text)

/-- Writes what is at a place. -/
def save (route : Route) (node : Node) : IO Unit := do
  let place := (← IO.currentDir) / String.ofList route.path.text
  match node with
  | .folder => IO.FS.createDir place
  | .file content => IO.FS.writeBinFile place content

/-- Runs the command of the given arguments in the working folder. -/
def runProgram (arguments : List Text) : IO UInt32 := do
  let language ← IO.getEnv "GLASS_LANGUAGE"
  let output ← IO.getEnv "GLASS_OUTPUT_DIR"
  let environment : Environment := ⟨language.map String.toList, output.map String.toList⟩
  let named := match Invocation.read environment.defaultLanguage arguments with
    | .ok invocation => Path.parse environment.defaultOutput :: invocation.paths
    | .error _ => []
  let inner ← loadAt named true []
  let outer ← (outerRoutes named).mapM fun route => loadAt named (named.any (routeOf · == route)) route
  let tree : FileTree := ⟨(inner ++ outer.flatten).filter fun entry => entry.1 != []⟩
  let outcome := Workspace.runArguments ⟨tree, environment⟩ environment.defaultLanguage arguments
  outcome.printed.forM emit
  for (route, node) in outcome.tree.entries.filter fun entry => !tree.entries.contains entry do
    save route node
  return outcome.exitCode.toUInt32

end GlassPrompt

/-- Runs the program. -/
def main (arguments : List String) : IO UInt32 :=
  GlassPrompt.runProgram (arguments.map String.toList)
