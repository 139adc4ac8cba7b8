import NodeAgent.CommandLine.Options
import NodeAgent.Text.Digit
import NodeAgent.Text.Quoted
/-!
The words of a command line, and what each is with respect to a table of options. Options may be
cut short as long as one option only begins so.

Correspondence: `readWords` is how `parse_known_args` tells options from values, and `candidates`
its search for options that begin so.
-/

namespace NodeAgent.CommandLine

/-- Why a command line is refused. -/
inductive Refusal
  | ambiguous (word : String) (names : List String)
  | valueMissing (choice : Choice)
  | notWhole (choice : Choice) (value : String)
  | valueIgnored (choice : Choice) (value : String)
  | unknownCommand (word : String)
  | unrecognized (words : List String)
  deriving DecidableEq

def Refusal.message : Refusal → String
  | ambiguous word names =>
    "ambiguous option: " ++ word ++ " could match " ++ String.intercalate ", " names
  | valueMissing choice => "argument " ++ choice.title ++ ": expected one argument"
  | notWhole choice value =>
    "argument " ++ choice.title ++ ": invalid int value: " ++ Text.quoted value
  | valueIgnored choice value =>
    "argument " ++ choice.title ++ ": ignored explicit argument " ++ Text.quoted value
  | unknownCommand word =>
    "argument command: invalid choice: " ++ Text.quoted word ++ " (choose from " ++
      Text.quoted runName ++ ")"
  | unrecognized words => "unrecognized arguments: " ++ String.intercalate " " words

/-- What a word is: an argument, the two dashes that end the options, an option that is not in the
table, or one that is, by one of its names and maybe with a value of its own. -/
inductive Reading
  | argument
  | dashes
  | stranger
  | option (choice : Choice) (name : String) (value : Option String)
  deriving DecidableEq

def namesOf (choices : List Choice) : List (String × Choice) :=
  choices.flatMap fun choice => choice.names.map fun name => (name, choice)

/-- The option of a name. -/
def find? (choices : List Choice) (name : String) : Option Choice :=
  ((namesOf choices).find? fun entry => entry.1 == name).map Prod.snd

/-- A word parted at its first equals sign, if it has one. -/
def partAtEquals (word : List Char) : String × Option String :=
  let name := String.ofList (word.takeWhile (· != '='))
  match word.dropWhile (· != '=') with
  | [] => (name, none)
  | _ :: value => (name, some (String.ofList value))

/-- The options that a word may stand for. Behind two dashes it may be the beginning of a name;
behind one, it is a letter with its value. -/
def candidates (choices : List Choice) (word : List Char) :
    List (Choice × String × Option String) :=
  if ("--".toList).isPrefixOf word then
    let (beginning, value) := partAtEquals word
    (namesOf choices).filterMap fun (name, choice) =>
      if beginning.toList.isPrefixOf name.toList then some (choice, name, value) else none
  else
    let letter := String.ofList (word.take 2)
    (namesOf choices).filterMap fun (name, choice) =>
      if name = letter then some (choice, name, some (String.ofList (word.drop 2)))
      else if word.isPrefixOf name.toList then some (choice, name, none)
      else none

/-- Whether characters are digits, or digits around a point with some behind it. -/
def isNumeral (cs : List Char) : Bool :=
  let whole := cs.takeWhile Text.isDecimal
  match cs.dropWhile Text.isDecimal with
  | [] => !whole.isEmpty
  | point :: fraction => point == '.' && !fraction.isEmpty && fraction.all Text.isDecimal

/-- Whether a word is a negative number. A line break behind it does not count. -/
def isNegativeNumber (word : List Char) : Bool :=
  match word with
  | '-' :: rest =>
    isNumeral rest || (rest.getLast? == some '\n' && isNumeral rest.dropLast)
  | _ => false

/-- What a word that begins with a dash is if no name is spelt out in it. -/
def readUnnamed (choices : List Choice) (word : List Char) : Except Refusal Reading :=
  match candidates choices word with
  | [] => .ok (if isNegativeNumber word || word.contains ' ' then .argument else .stranger)
  | [(choice, name, value)] => .ok (.option choice name value)
  | several => .error (.ambiguous (String.ofList word) (several.map fun entry => entry.2.1))

def readWord (choices : List Choice) (word : String) : Except Refusal Reading :=
  if word = "--" then .ok .dashes
  else if word = "-" || word.toList.head? != some '-' then .ok .argument
  else
    match find? choices word with
    | some choice => .ok (.option choice word none)
    | none =>
      match partAtEquals word.toList with
      | (name, some value) =>
        match find? choices name with
        | some choice => .ok (.option choice name (some value))
        | none => readUnnamed choices word.toList
      | (_, none) => readUnnamed choices word.toList

/-- What the words of a line are. Behind two dashes all words are arguments. -/
def readWords (choices : List Choice) : List String → Except Refusal (List (String × Reading))
  | [] => .ok []
  | word :: words => do
    match ← readWord choices word with
    | .dashes => return (word, .dashes) :: words.map fun word => (word, .argument)
    | reading => return (word, reading) :: (← readWords choices words)

end NodeAgent.CommandLine
