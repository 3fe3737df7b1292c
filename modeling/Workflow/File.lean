import Workflow.Table
import Workflow.Text.Quoted
import Workflow.Text.Split
import Workflow.Text.Utf8

/-! Files under their paths, and the rules by which they are read and written. -/

namespace Workflow

namespace Files

/-- Why a file cannot be read or written. -/
inductive Problem where
  | notFound (path : String)
  | isDirectory (path : String)
  | notDirectory (path : String)
  | alreadyExists (path : String)
  | nameTooLong (path : String)
  | nullCharacter
  deriving DecidableEq

def systemMessage (number : Nat) (text path : String) : String :=
  "[Errno " ++ toString number ++ "] " ++ text ++ ": " ++ Text.quoted path

def Problem.message : Problem → String
  | .notFound path => systemMessage 2 "No such file or directory" path
  | .isDirectory path => systemMessage 21 "Is a directory" path
  | .notDirectory path => systemMessage 20 "Not a directory" path
  | .alreadyExists path => systemMessage 17 "File exists" path
  | .nameTooLong path => systemMessage 36 "File name too long" path
  | .nullCharacter => "embedded null byte"

/-- The name of the kind of a problem. -/
def Problem.name : Problem → String
  | .notFound _ => "FileNotFoundError"
  | .isDirectory _ => "IsADirectoryError"
  | .notDirectory _ => "NotADirectoryError"
  | .alreadyExists _ => "FileExistsError"
  | .nameTooLong _ => "OSError"
  | .nullCharacter => "ValueError"

/-- A path: the slashes in front, none, one or two of them, and the names on the way. -/
structure Path where
  root : String
  names : List String
  deriving DecidableEq

namespace Path

/-- A path from its text. Empty names and single points lead nowhere. -/
def ofText (text : String) : Path :=
  let cs := text.toList
  let root := match (cs.takeWhile (· = '/')).length with
    | 0 => ""
    | 2 => "//"
    | _ => "/"
  let names := (Text.splitAtEach '/' cs).filter fun part => !part.isEmpty && part != ['.']
  ⟨root, names.map String.ofList⟩

/-- The text of a path; a point, if it leads nowhere. -/
def text (p : Path) : String :=
  if p.root.isEmpty && p.names.isEmpty then "."
  else p.root ++ String.intercalate "/" p.names

/-- The directory that a path stands in. -/
def parent (p : Path) : Path := { p with names := p.names.dropLast }

/-- One name further: down, or up where the name is that of the directory above. Nothing is above
the root. -/
def enter (p : Path) (name : String) : Path :=
  if name = ".." then
    match p.names.getLast? with
    | none => if p.root.isEmpty then { p with names := [name] } else p
    | some last => { p with names := if last = ".." then p.names ++ [name] else p.names.dropLast }
  else { p with names := p.names ++ [name] }

/-- The place that a path leads to, when there are no links on the way: it goes up first, if it
goes up at all. -/
def place (p : Path) : Path := p.names.foldl enter { p with names := [] }

/-- A path that leads nowhere or up. -/
def isAbove (p : Path) : Bool := p.names.all fun name => name == ".."

/-- The paths of the directories on the way. -/
def directories (p : Path) : List Path :=
  (List.range p.names.length).map fun n => { p with names := p.names.take n }

end Path

end Files

/-- The texts of files under the texts of their places, and the places of directories that are
there whether or not they hold files. -/
structure Files where
  texts : Table String
  directories : List Files.Path

namespace Files

def ofTexts (texts : Table String) : Files :=
  ⟨Table.ofList (texts.map fun (path, text) => ((Path.ofText path).place.text, text)), []⟩

/-- The most bytes of a name, and of a path. -/
def longestName : Nat := 255
def longestPath : Nat := 4095

def isTooLong (name : String) : Bool := longestName < (Text.utf8 name).length

/-- Whether a place is that of a directory: one above, a known one, or one on the way to a
file. -/
def hasDirectory (files : Files) (place : Path) : Bool :=
  place.isAbove || files.directories.contains place ||
    files.texts.keys.any fun key => (Path.ofText key).directories.contains place

/-- Goes from a directory into one after the other. The path that is told of a problem is
`shown`. -/
def walk (files : Files) (shown : String) : Path → List String → Except Problem Path
  | place, [] => .ok place
  | place, name :: rest =>
    let next := place.enter name
    if isTooLong name then .error (.nameTooLong shown)
    else if hasDirectory files next then walk files shown next rest
    else if files.texts.contains next.text then .error (.notDirectory shown)
    else .error (.notFound shown)

/-- The place of a path. All but its last name have to be those of directories. -/
def locate (files : Files) (p : Path) : Except Problem Path :=
  if p.text.toList.contains '\x00' then .error .nullCharacter
  else if longestPath < (Text.utf8 p.text).length then .error (.nameTooLong p.text)
  else do
    let directory ← walk files p.text { p with names := [] } p.names.dropLast
    match p.names.getLast? with
    | none => return directory
    | some name =>
      if isTooLong name then .error (.nameTooLong p.text) else return directory.enter name

/-- A text with a line feed for every line end: a carriage return and the line feed after it are
one line end. -/
def unifyLineEnds : List Char → List Char
  | [] => []
  | '\r' :: '\n' :: rest => '\n' :: unifyLineEnds rest
  | '\r' :: rest => '\n' :: unifyLineEnds rest
  | c :: rest => c :: unifyLineEnds rest

/-- The text of a file. -/
def read (files : Files) (path : String) : Except Problem String := do
  let p := Path.ofText path
  let place ← locate files p
  if hasDirectory files place then .error (.isDirectory p.text)
  else
    match files.texts.get? place.text with
    | some text => return String.ofList (unifyLineEnds text.toList)
    | none => .error (.notFound p.text)

/-- Writes a file into a directory that is there. -/
def write (files : Files) (path text : String) : Except Problem Files := do
  let p := Path.ofText path
  let place ← locate files p
  if hasDirectory files place then .error (.isDirectory p.text)
  else return { files with texts := files.texts.put place.text text }

/-- Makes a directory where there is nothing yet. -/
def makeDirectory (files : Files) (p : Path) : Except Problem Files := do
  let place ← locate files p
  if hasDirectory files place || files.texts.contains place.text then
    .error (.alreadyExists p.text)
  else return { files with directories := place :: files.directories }

/-- Whether a path leads to a directory. -/
def isDirectory (files : Files) (p : Path) : Bool :=
  match locate files p with
  | .ok place => hasDirectory files place
  | .error _ => false

/-- Makes a directory unless it is there. -/
def needDirectory (files : Files) (p : Path) : Except Problem Files :=
  match makeDirectory files p with
  | .ok files => .ok files
  | .error problem => if isDirectory files p then .ok files else .error problem

/-- Makes a directory and those on the way to it, at most `depth` of them, unless they are
there. -/
def needDirectories (files : Files) : Nat → Path → Except Problem Files
  | 0, p => needDirectory files p
  | depth + 1, p =>
    match needDirectory files p with
    | .error (.notFound _) => do
      let files ← needDirectories files depth p.parent
      needDirectory files p
    | made => made

/-- Makes the directories on the way to a file. -/
def makeWay (files : Files) (path : String) : Except Problem Files :=
  let directory := (Path.ofText path).parent
  needDirectories files directory.names.length directory

end Files

end Workflow
