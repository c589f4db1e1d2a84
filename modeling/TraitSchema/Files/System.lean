import TraitSchema.Event
import TraitSchema.Files.Tree

namespace TraitSchema

class FileAccess (m : Type → Type) where
  readText : (path : String) → m (Except FileError String)
  writeText : (path text : String) → m (Except FileError Unit)
  makeDirectories : (path : String) → m (Except FileError Unit)
  /-- The names in a directory and whether each is that of a file. -/
  list : (path : String) → m (Except FileError (Table Bool))

class Reporting (m : Type → Type) where
  report : Event → m Unit

/-- A tree of files and the events reported so far, the first one first. -/
structure World where
  files : FileTree
  events : List Event

abbrev InWorld := StateM World

def InWorld.changeFiles {α : Type} (change : FileTree → FileTree × α) : InWorld α :=
  modifyGet fun w =>
    let (files, x) := change w.files
    (x, { w with files })

instance : FileAccess InWorld where
  readText path := do return (← get).files.readText path
  writeText path text := InWorld.changeFiles fun t =>
    match t.write path text.toUTF8 with
    | .ok t => (t, .ok ())
    | .error e => (t, .error e)
  makeDirectories path := InWorld.changeFiles fun t => t.makeDirectories (Path.steps path).reverse
  list path := do return (← get).files.list path

instance : Reporting InWorld where
  report event := modify fun w => { w with events := w.events ++ [event] }

end TraitSchema
