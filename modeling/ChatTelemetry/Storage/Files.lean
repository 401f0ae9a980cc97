import ChatTelemetry.Storage.Failure
import ChatTelemetry.Text.Segments
import ChatTelemetry.Text.Utf8
/-!
A file system without links: directories and files, and what making and writing them does.

Names are bytes, which need not be the bytes of a text.
-/

namespace ChatTelemetry.Storage

abbrev Name := List UInt8

abbrev Location := List Name

inductive Entry
  | file (content : String)
  | directory
deriving DecidableEq, Repr, Inhabited

/-- Everything below the root, and the directory where relative paths begin. -/
structure Files where
  entries : List (Location × Entry)
  workingDirectory : Location
deriving DecidableEq, Repr, Inhabited

/-- A path: where it begins and the names it goes through. -/
structure Path where
  isAbsolute : Bool
  names : List Name
deriving DecidableEq, Repr, Inhabited

namespace Path

/-- The byte between the names of a path. -/
abbrev slash : UInt8 := 0x2f

/-- The name that stays where it is. -/
abbrev dot : Name := [0x2e]

/-- The name that goes up. -/
abbrev dots : Name := [0x2e, 0x2e]

/-- The path that bytes are; a dot stands for nothing, unless a relative path begins with it. -/
def ofBytes (bs : List UInt8) : Path :=
  let isAbsolute := [slash].isPrefixOf bs
  let names := (Text.segments slash bs).filter fun s => !s.isEmpty
  match isAbsolute, names with
  | false, [0x2e] :: rest => ⟨false, dot :: rest.filter (· != dot)⟩
  | isAbsolute, names => ⟨isAbsolute, names.filter (· != dot)⟩

def bytes (p : Path) : List UInt8 :=
  (if p.isAbsolute then [slash] else []) ++ Text.join [slash] p.names

def parent (p : Path) : Path :=
  { p with names := p.names.dropLast }

end Path

/-- The most bytes of a name. -/
def nameLimit : Nat := 255

/-- The least number of bytes that a path may not have. -/
def pathLimit : Nat := 4096

/-- What no path may be, wherever it leads. -/
def pathFault? (bs : List UInt8) : Option PathFault :=
  if bs.contains 0 then some .nulInPath
  else if pathLimit ≤ bs.length then some .nameTooLong
  else none

/-- A path as it is shown; what is not the bytes of a text is replaced. -/
def shownPath (bs : List UInt8) : String :=
  .ofList (Text.ofUtf8Lossy bs)

namespace Files

/-- What stands at a location; the root is a directory. -/
def find? (fs : Files) (l : Location) : Option Entry :=
  if l = [] then some .directory else fs.entries.lookup l

/-- Puts an entry at a location, in the stead of what stands there. -/
def put (fs : Files) (l : Location) (e : Entry) : Files :=
  { fs with entries := (l, e) :: fs.entries.filter (·.1 ≠ l) }

/-- The location that a name leads to from a location, which has to be a directory. -/
def step (fs : Files) (l : Location) (name : Name) : Except PathFault Location :=
  match fs.find? l with
  | none => .error .notFound
  | some (.file _) => .error .notADirectory
  | some .directory =>
    if nameLimit < name.length then .error .nameTooLong
    else if name = Path.dot then .ok l
    else if name = Path.dots then .ok l.dropLast
    else .ok (l ++ [name])

/-- The location that a path leads to; all before it has to exist. -/
def locate (fs : Files) (p : Path) : Except PathFault Location :=
  p.names.foldlM fs.step (if p.isAbsolute then [] else fs.workingDirectory)

def makeDirectory (fs : Files) (p : Path) : Except PathFault Files :=
  match pathFault? p.bytes with
  | some fault => .error fault
  | none => do
    let l ← fs.locate p
    match fs.find? l with
    | some _ => .error .alreadyExists
    | none => .ok (fs.put l .directory)

def isDirectory (fs : Files) (p : Path) : Bool :=
  match fs.locate p with
  | .ok l => fs.find? l == some .directory
  | .error _ => false

/-- What making a directory comes to where one may stand already. -/
def accepted (fs : Files) (p : Path) : Except PathFault Files → Files × Except PathFault Unit
  | .ok fs => (fs, .ok ())
  | .error fault =>
    if fault = .alreadyExists && fs.isDirectory p then (fs, .ok ()) else (fs, .error fault)

/--
Makes a directory and all that are missing on the way to it. Where that fails, those made up to then
stay.
-/
def makeDirectories (fs : Files) (isAbsolute : Bool) (names : List Name) :
    Files × Except PathFault Unit :=
  go names.reverse
where
  /-- The names in reverse, so that the rest of the list is the directory above. -/
  go : List Name → Files × Except PathFault Unit
    | [] => (fs, .ok ())
    | name :: above =>
      let p : Path := ⟨isAbsolute, (name :: above).reverse⟩
      match fs.makeDirectory p with
      | .error .notFound =>
        match go above with
        | (fs, .ok ()) => fs.accepted p (fs.makeDirectory p)
        | failed => failed
      | result => fs.accepted p result

/-- Writes a file, in the stead of one that stands there. -/
def write (fs : Files) (path : List UInt8) (content : String) : Except PathFault Files :=
  match pathFault? path with
  | some fault => .error fault
  | none => do
    let l ← fs.locate (.ofBytes path)
    match fs.find? l with
    | some .directory => .error .isADirectory
    | _ => .ok (fs.put l (.file content))

/-- Writes a file, making the directories that are missing on the way to it. -/
def store (fs : Files) (path : List UInt8) (content : String) : Files × Except PathFault Unit :=
  let directory := (Path.ofBytes path).parent
  match fs.makeDirectories directory.isAbsolute directory.names with
  | (fs, .error fault) => (fs, .error fault)
  | (fs, .ok ()) =>
    match fs.write path content with
    | .ok fs => (fs, .ok ())
    | .error fault => (fs, .error fault)

end Files
end ChatTelemetry.Storage
