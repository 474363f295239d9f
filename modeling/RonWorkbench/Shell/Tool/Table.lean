import RonWorkbench.Shell.Tool.Replace
import RonWorkbench.Shell.Tool.Tree

/-!
# The tools by name

Which tools there are, and the directories that they are found in.
-/

namespace RonWorkbench.Shell.Tool

/-- The tools with their names. -/
def table : List (String × Tool) :=
  [("cat", cat), ("head", head), ("tail", tail), ("tr", tr), ("wc", wc), ("sort", sort),
    ("uniq", uniq), ("rev", rev), ("yes", yes), ("seq", seq), ("sleep", sleep),
    ("basename", basename), ("dirname", dirname), ("rm", rm), ("mkdir", mkdir),
    ("rmdir", rmdir), ("touch", touch), ("cp", cp), ("mv", mv), ("ls", ls), ("tee", tee),
    ("true", fun w _ ↦ w.idle), ("false", fun w _ ↦ { w.idle with status := 1 })]

/-- The directories in which programs are looked for. -/
def directories : List String :=
  ["/usr/bin", "/bin"]

/-- The tool of a name, which may be written with its directory. -/
def find? (name : String) : Option Tool :=
  let written := directories.findSome? fun d ↦
    if (d ++ "/").toList.isPrefixOf name.toList then
      some (String.ofList (name.toList.drop (d.length + 1)))
    else
      none
  table.lookup (written.getD name)

end RonWorkbench.Shell.Tool
