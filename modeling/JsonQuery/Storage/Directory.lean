import JsonQuery.Export.Basic

/-!
The files of a working directory: what a path leads to, and what comes of writing to it.
The directory holds files only. Of what lies outside of it the directories above are known,
a few others that are always there, and the file that keeps nothing. Files that are written
outside are kept by their whole path.
-/

namespace JsonQuery

/-- The files of a directory by name. -/
structure Directory where
  files : List (String × Payload)

/-- What a path leads to. -/
inductive PathTarget where
  | missing
  | file (content : Payload)
  | directory

/-- Where a path leads from the working directory. -/
inductive PathRoute where
  /-- To the directory itself. -/
  | here
  /-- To a file of the directory. -/
  | entry (name : String)
  /-- To something below a file of the directory, where there is nothing. -/
  | below (name : String)
  /-- To a directory that lies outside. -/
  | outside
  /-- To the file that keeps nothing. -/
  | sink
  /-- Somewhere else. -/
  | elsewhere
  deriving DecidableEq, Repr

/-- The most bytes a file name can have. -/
def fileNameLimit : Nat := 255

/-- The names along a path; empty ones and single points lead nowhere. -/
def pathNames (path : String) : List String :=
  ((Text.splitOn '/' path.toList).map String.ofList).filter fun name => name != "" && name != "."

/-- The names along a path after each pair of points took back the name before it. -/
def takeBack (names : List String) : List String :=
  names.foldl (fun kept name =>
    if name == ".." then
      match kept.getLast? with
      | none | some ".." => kept ++ [name]
      | some _ => kept.dropLast
    else kept ++ [name]) []

/-- Whether a path begins at the root of all directories. -/
def isAbsolute (path : String) : Bool := path.toList.head? == some '/'

/-- What stands for the root at the beginning of a path. Exactly two slashes are a root of
their own, and more of them are one. -/
def rootText (path : String) : String :=
  match path.toList with
  | '/' :: '/' :: '/' :: _ => "/"
  | '/' :: '/' :: _ => "//"
  | '/' :: _ => "/"
  | _ => ""

/-- A path without the names that lead nowhere. -/
def plainPath (path : String) : String :=
  let names := "/".intercalate (pathNames path)
  if isAbsolute path then rootText path ++ names
  else if names.isEmpty then "." else names

/-- The directories below the root that are always there. -/
def rootDirectories : List String :=
  ["bin", "dev", "etc", "home", "lib", "proc", "root", "sys", "tmp", "usr", "var"]

/-- Where the names along a path from the root lead. -/
def routeFromRoot : List String → PathRoute
  | ["dev", "null"] => .sink
  | ["tmp", name] => .entry ("/tmp/" ++ name)
  | [name] => if rootDirectories.contains name then .outside else .elsewhere
  | _ => .elsewhere

/-- Where the names along a path lead. -/
def routeOf (absolute : Bool) (names : List String) : PathRoute :=
  if names.all (· == "..") then if absolute || !names.isEmpty then .outside else .here
  else if absolute then routeFromRoot names
  else match names with
    | [name] => .entry name
    | ["..", name] => .entry ("../" ++ name)
    | ".." :: _ => .elsewhere
    | name :: _ => .below name
    | [] => .here

/-- Refuses a text that is no path: it must not hold the character that ends a text, and it
has to be written. -/
def checkPathText (path : String) : Except Fault Unit :=
  if path.toList.contains (Char.ofNat 0) then .error .nullInPath
  else match Text.Charset.utf8.unwritable? path with
    | some place => .error (.unwritable place)
    | none => .ok ()

namespace Directory

/-- A directory without files. -/
def empty : Directory := ⟨[]⟩

/-- The content of a file. -/
def get? (d : Directory) (name : String) : Option Payload := d.files.lookup name

/-- The directory with a file written, in its place if it was there. -/
def put (d : Directory) (name : String) (content : Payload) : Directory :=
  if (d.get? name).isSome then
    ⟨d.files.map fun f => if f.1 == name then (name, content) else f⟩
  else ⟨d.files ++ [(name, content)]⟩

/-- Whether a path ends where only a directory can be. -/
def endsInDirectory (path : String) : Bool :=
  match (Text.splitOn '/' path.toList).getLast? with
  | some [] | some ['.'] => true
  | _ => false

/-- What a path leads to. -/
def find (d : Directory) (path : String) : Except Fault PathTarget := do
  checkPathText path
  match routeOf (isAbsolute path) (pathNames path) with
  | .here => return if path.isEmpty then .missing else .directory
  | .outside => return .directory
  | .sink => return if endsInDirectory path then .missing else .file (.text "")
  | .entry name =>
      if endsInDirectory path then return .missing
      else match d.get? name with
        | some content => return .file content
        | none => return .missing
  | .below _ | .elsewhere => return .missing

/-- The name of the file that can be written at the end of a route, none if what is written
there is not kept. -/
def writable (d : Directory) : PathRoute → Except FileProblem (Option String)
  | .here | .outside => .error .isDirectory
  | .sink => .ok none
  | .elsewhere => .error .noDirectory
  | .entry name =>
      if fileNameLimit < (String.ofList (Text.cutAtLast '/' name.toList).2).utf8ByteSize then
        .error .nameTooLong
      else .ok (some name)
  | .below name =>
      if fileNameLimit < name.utf8ByteSize then .error .nameTooLong
      else if (d.get? name).isSome then .error .notDirectory
      else .error .noDirectory

/-- Writes a file at a path in its plain form. -/
def write (d : Directory) (path : String) (content : Payload) : Except Fault Directory := do
  checkPathText path
  match ← (d.writable (routeOf (isAbsolute path) (pathNames path))).mapError .file with
  | some name => return d.put name content
  | none => return d

/-- Adds text to the file at a path, which is made if it is not there. Names that a path
takes back need not be there. -/
def append (d : Directory) (path text : String) : Except Fault Directory := do
  checkPathText path
  match ← (d.writable (routeOf (isAbsolute path) (takeBack (pathNames path)))).mapError .file with
  | none => return d
  | some name =>
      match d.get? name with
      | some (.text content) => return d.put name (.text (content ++ text))
      | some (.sheet _) => return d
      | none => return d.put name (.text text)

/-- The files that lie in the directory itself. -/
def inside (d : Directory) : List (String × Payload) :=
  d.files.filter fun f => !f.1.toList.contains '/'

end Directory

end JsonQuery
