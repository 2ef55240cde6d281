import FrameRouter.Fault
import FrameRouter.Text.Split

/-!
# Directories

A path leads from directory to directory and names the last thing it comes to.
Reading it gives the text of a file, or tells what stands in the way.  With a
directory given as a value, a run of the program is settled by values alone.
-/

namespace FrameRouter.CommandLine

/-- Something that a path can name. -/
inductive Entry where
  | file (content : Except FileFailure String)
  | directory (entries : List (String × Entry))

/-- A directory by the names in it. -/
abbrev Entries := List (String × Entry)

/-- A directory together with those around it, the innermost one first. -/
structure Directory where
  entries : Entries
  around : List Entries

namespace Directory

/-- The directory around; the outermost one stands for its own. -/
def parent (directory : Directory) : Directory :=
  match directory.around with
  | [] => directory
  | entries :: around => ⟨entries, around⟩

def root (directory : Directory) : Directory :=
  match directory.around.getLast? with
  | none => directory
  | some entries => ⟨entries, []⟩

/-- A directory in this one. -/
def child (directory : Directory) (entries : Entries) : Directory :=
  ⟨entries, directory.entries :: directory.around⟩

def greatestName : Nat := 255

def greatestPath : Nat := 4095

/-- Follow the names of a path; nothing lies behind a file, not even an empty name. -/
def follow : Directory → List String → Except FileFailure String
  | _, [] => .error .isDirectory
  | directory, name :: rest =>
      if name = "" ∨ name = "." then
        directory.follow rest
      else if name = ".." then
        directory.parent.follow rest
      else if name.utf8ByteSize > greatestName then
        .error .nameTooLong
      else
        match directory.entries.lookup name with
        | none => .error .missing
        | some (.directory entries) => (directory.child entries).follow rest
        | some (.file content) => if rest.isEmpty then content else .error .notDirectory

/-- The text that a path names; it starts at the root if a slash opens it. -/
def read (directory : Directory) (path : String) : Except FileFailure String :=
  if path.isEmpty then
    .error .missing
  else if path.utf8ByteSize > greatestPath then
    .error .nameTooLong
  else
    let start := if path.toList.head? = some '/' then directory.root else directory
    start.follow ((Split.parts '/' path.toList).map String.ofList)

end Directory

end FrameRouter.CommandLine
