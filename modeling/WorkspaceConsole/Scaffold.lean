import WorkspaceConsole.Manifest
import WorkspaceConsole.Tree.Template

/-!
# The application scaffold

What a new application starts with: a folder with five files, and next to it an empty folder for the
packages that will be installed.
-/

namespace WorkspaceConsole.Scaffold

/-- The folder for installed packages. -/
def packageFolder : String := "node_modules"

/-- The files of a new application, with their texts. -/
def files (app : String) : List (String × String) :=
  [ ("index.js", "// Entry point for React app"),
    ("App.js", "// Main App component"),
    ("index.html", "<!DOCTYPE html>"),
    ("styles.css", "/* Styles for the app */"),
    ("package.json", (Manifest.initial app).toJson) ]

/-- The folders of a new application. -/
def templates (app : String) : List FolderTemplate :=
  [⟨app, files app⟩, .empty packageFolder]

end WorkspaceConsole.Scaffold
