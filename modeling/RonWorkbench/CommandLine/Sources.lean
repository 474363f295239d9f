import RonWorkbench.CommandLine.Basic

/-!
# The files that a line is about

What has to be known of the files before a line can be run: the written paths that the run looks at
(`Invocation.sources`), and every place on the way along them (`Files.stages`). Afterwards the files
whose content differs (`Files.changes`) are those to be written.
-/

namespace RonWorkbench

namespace Settings

/-- The written paths under which a layer is looked for. -/
def Layer.sources (layer : Layer) : List String :=
  [layer.file, tidyPath layer.file ++ ".toml"]

end Settings

namespace CommandLine

/-- The written paths that a run looks at. -/
def Invocation.sources : Invocation → List String
  | .help _ | .version => []
  | .tokens path none => path :: (Settings.commandLayers none).flatMap Settings.Layer.sources
  | .tokens path (some _) => [path]
  | .format request =>
    request.path :: (Settings.commandLayers request.config).flatMap Settings.Layer.sources

end CommandLine

namespace Files

/-- The places that following a written path comes by, if every name on the way is a directory. -/
def stages (here : Path) (written : String) : List Path :=
  walk (if written.toList.head? = some '/' then [] else here) (names written)
where
  /-- The places from one on. -/
  walk (place : Path) : List String → List Path
    | [] => [place]
    | n :: more => place :: walk (step place n) more

/-- The files whose content is not what it was. -/
def changes (before after : Files) : List (Path × List UInt8) :=
  after.entries.filterMap fun (path, entry) ↦
    match entry with
    | .file content => if before.get? path = some entry then none else some (path, content)
    | .directory => none

end Files

end RonWorkbench
