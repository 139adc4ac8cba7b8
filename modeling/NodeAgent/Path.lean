import NodeAgent.Text.Blank
/-!
Paths of files by their texts: the home directory at the front, redundant parts, and the last
part.

Correspondence: `expandHome` is `expanduser`, `lastPart` is `basename`, and `normal` is `normpath`.
-/

namespace NodeAgent.Path

/-- The home directories of the accounts of a system: that of the process, and those of users by
their names. -/
structure Accounts where
  own : Option String := none
  named : String → Option String := fun _ => none

/-- Where home directories are looked up: the variable `HOME`, and the accounts. -/
structure Homes extends Accounts where
  environment : Option String := none

/-- The name of the user in whose home a path with a leading `~` begins, empty for one's own. -/
def homeOwner (path : String) : List Char :=
  match path.toList with
  | '~' :: rest => rest.takeWhile (· != '/')
  | _ => []

/-- The home directory of a user. One's own is the one that the variable names, if it is set. -/
def Homes.of (homes : Homes) (owner : List Char) : Option String :=
  if owner.isEmpty then homes.environment <|> homes.own else homes.named (String.ofList owner)

/-- A path whose leading `~`, with the name behind it, stands for a home directory. It stays as it
is where there is no such home. -/
def expandHome (homes : Homes) (path : String) : String :=
  match path.toList with
  | '~' :: rest =>
    match homes.of (rest.takeWhile (· != '/')) with
    | some home =>
      let whole := Text.dropTrailing (· == '/') home.toList ++ rest.dropWhile (· != '/')
      if whole.isEmpty then "/" else String.ofList whole
    | none => path
  | _ => path

def lastPart (path : String) : String :=
  String.ofList ((Text.splitWhere (· == '/') path.toList).getLastD [])

/-- Takes up one part; `kept` holds the parts so far backwards. -/
def takePart (rooted : Bool) (kept : List (List Char)) (part : List Char) : List (List Char) :=
  if part.isEmpty || part == ['.'] then kept
  else if part == ['.', '.'] then
    -- Two points drop the part before, where there is one to drop; above the root is none.
    match kept with
    | [] => if rooted then [] else [part]
    | last :: rest => if last == ['.', '.'] then part :: kept else rest
  else part :: kept

/-- How many slashes a normal path starts with: two if there are exactly two, else at most one. -/
def rootSlashes : List Char → Nat
  | '/' :: '/' :: '/' :: _ => 1
  | '/' :: '/' :: _ => 2
  | '/' :: _ => 1
  | _ => 0

/-- A path without redundant parts; a path without any part is a point. -/
def normal (path : String) : String :=
  let slashes := rootSlashes path.toList
  let parts := (Text.splitWhere (· == '/') path.toList).foldl (takePart (0 < slashes)) []
  let whole := List.replicate slashes '/' ++ (['/'].intercalate parts.reverse)
  if whole.isEmpty then "." else String.ofList whole

end NodeAgent.Path
