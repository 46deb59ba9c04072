import WorkflowForge.Files.Disk
import WorkflowForge.Log.Event

/-!
The files of snippets: where they are looked for, and which of them are templates.
-/

namespace WorkflowForge

namespace Snippet

/-- The suffixes of templates where no others are given. -/
def defaultExtensions : List String := [".j2", ".jinja", ".jinja2"]

/-- The suffixes by which templates are told, in lower case. -/
def suffixes (extensions : List String) : List String := extensions.map Text.lower

def isTemplate (suffixes : List String) (p : Path) : Bool := p.hasSuffixIn suffixes

/-- The file of a snippet: the first of that name on the template paths. -/
def findFile (paths : List Path) (disk : Disk) (templateFile : String) : Option Path :=
  let relative := Path.ofText (Text.replaceChar '\\' '/' templateFile)
  (paths.map (·.join relative)).find? disk.isFile

def logFound (templateFile : String) (found : Path) (j : Journal) : Journal :=
  j.emit .debug "flowsmith.snippets.repository" "snippet_file_found"
    [("template_file", .string templateFile), ("path", .string found.toText)]

end Snippet

end WorkflowForge
