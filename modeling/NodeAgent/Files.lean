import NodeAgent.Failure
import NodeAgent.Text.Blank
/-!
A tree of files, and what the system answers when a path is opened.

Correspondence: `Files.read` is `open` with `read` behind it, `isFile` is `isfile`, and `decodeText`
is the decoding with universal newlines.
-/

namespace NodeAgent

/-- What stands at a path of a tree: a file, a file that may not be opened, or a directory. -/
inductive FileEntry
  | file (content : ByteArray)
  | sealed
  | directory

/-- Files and directories by their paths, from the working directory and from the root of the
system. The directories on the way to an entry are there without being named. -/
structure FileTree where
  entries : List (String × FileEntry) := []
  rooted : List (String × FileEntry) := []

/-- Why the system does not open a path. -/
inductive SystemFault
  | missing
  | denied
  | notDirectory
  | isDirectory
  | nameTooLong
  deriving DecidableEq

namespace SystemFault

/-- The number of a fault. -/
def errno : SystemFault → Int
  | missing => 2
  | denied => 13
  | notDirectory => 20
  | isDirectory => 21
  | nameTooLong => 36

/-- What the system says of a fault. -/
def description : SystemFault → String
  | missing => "No such file or directory"
  | denied => "Permission denied"
  | notDirectory => "Not a directory"
  | isDirectory => "Is a directory"
  | nameTooLong => "File name too long"

def kind (fault : SystemFault) : FailureKind := .ofErrno fault.errno

def text (fault : SystemFault) (path : String) : String :=
  "[Errno " ++ toString fault.errno ++ "] " ++ fault.description ++ ": " ++ Text.quoted path

end SystemFault

namespace FileTree

def parts (path : String) : List String :=
  (Text.splitWhere (· == '/') path.toList).map String.ofList

/-- What opening the file of a path given by its parts leads to, if a file stands there. -/
def fileAt (entries : List (String × FileEntry)) (place : List String) :
    Option (Except SystemFault ByteArray) :=
  entries.findSome? fun entry =>
    if parts entry.1 == place then
      match entry.2 with
      | .file content => some (.ok content)
      | .sealed => some (.error .denied)
      | .directory => none
    else none

/-- Whether a directory stands at a path given by its parts: one that is named, or one on the way
to an entry. -/
def isDirectoryAt (entries : List (String × FileEntry)) (place : List String) : Bool :=
  place.isEmpty ||
    entries.any fun entry =>
      let there := parts entry.1
      (place.length < there.length && there.take place.length == place) ||
        (match entry.2 with
         | .directory => there == place
         | _ => false)

/-- The longest name that a part of a path may have, in bytes. -/
def nameLimit : Nat := 255

/-- Whether a part of a path leads nowhere else. -/
def isStill (part : String) : Bool := part.isEmpty || part == "."

/-- What parts of a path lead to above the working directory: there is nothing but directories
further up. -/
def above (rest : List String) : SystemFault :=
  if rest.all fun part => isStill part || part == ".." then .isDirectory else .missing

/-- Follows parts of a path from a directory. -/
def follow (entries : List (String × FileEntry)) (place : List String) :
    List String → Except SystemFault ByteArray
  | [] => .error .isDirectory
  | part :: rest =>
    if isStill part then follow entries place rest
    else if part == ".." then
      if place.isEmpty then .error (above rest) else follow entries place.dropLast rest
    else if nameLimit < part.utf8ByteSize then .error .nameTooLong
    else
      let there := place ++ [part]
      match fileAt entries there with
      | some opened => if rest.isEmpty then opened else .error .notDirectory
      | none =>
        if isDirectoryAt entries there then follow entries there rest else .error .missing

/-- The longest path, in bytes. -/
def pathLimit : Nat := 4096

/-- The content of the file at a path. -/
def read (tree : FileTree) (path : String) : Except SystemFault ByteArray :=
  if path.isEmpty then .error .missing
  else if pathLimit ≤ path.utf8ByteSize then .error .nameTooLong
  else if path.toList.head? == some '/' then follow tree.rooted [] (parts path)
  else follow tree.entries [] (parts path)

def isFile (tree : FileTree) (path : String) : Bool :=
  match tree.read path with
  | .ok _ => true
  | .error fault => fault = .denied

end FileTree

/-- Line ends of all systems made into line feeds. -/
def normalBreaks : List Char → List Char
  | '\r' :: '\n' :: rest => '\n' :: normalBreaks rest
  | '\r' :: rest => '\n' :: normalBreaks rest
  | c :: rest => c :: normalBreaks rest
  | [] => []

/-- The text that bytes encode in UTF-8, with line feeds for line ends. -/
def decodeText (bytes : ByteArray) : Option String :=
  (String.fromUTF8? bytes).map fun s => String.ofList (normalBreaks s.toList)

/-- Whether a path can be handed to the system at all: it must not hold a NUL. -/
def isSystemPath (path : String) : Bool := !path.toList.contains (Char.ofNat 0)

end NodeAgent
