import NodeAgent.CommandLine.Words
/-!
Reading a command line: the options of the program, then its command with options of its own.
Words that nobody takes are gathered, and refused once everything else is read.

Correspondence: `readLine` is `parse_args` of the parser that `build_parser` makes, with its exits.
-/

namespace NodeAgent.CommandLine

/-- What ends the reading of a command line early. -/
inductive Stop
  | help
  | version
  | refused (refusal : Refusal)
  deriving DecidableEq

/-- Reads the letters behind an option of one letter: each must be an option of its own. -/
def readLetters (choices : List Choice) (choice : Choice) : List Char → Except Stop Unit
  | [] => .ok ()
  | letter :: letters =>
    match find? choices (String.ofList ['-', letter]) with
    | some next => readLetters choices next letters
    | none => .error (.refused (.valueIgnored choice (String.ofList (letter :: letters))))

/-- Checks the value that was given to an option which takes none. -/
def refuseValue (choices : List Choice) (choice : Choice) (name : String) :
    Option String → Except Stop Unit
  | none => .ok ()
  | some value =>
    if value.isEmpty || ("--".toList).isPrefixOf name.toList then
      .error (.refused (.valueIgnored choice value))
    else readLetters choices choice value.toList

/-- The value of an option: its own one, or else the argument behind it. With it come the words
that are left. -/
def takeValue (choice : Choice) (value : Option String) (rest : List (String × Reading)) :
    Except Stop (String × List (String × Reading)) :=
  match value, rest with
  | some value, rest => .ok (value, rest)
  | none, (word, .argument) :: rest => .ok (word, rest)
  | none, _ => .error (.refused (.valueMissing choice))

theorem takeValue_length {choice : Choice} {value : Option String}
    {rest : List (String × Reading)} {taken : String × List (String × Reading)}
    (h : takeValue choice value rest = .ok taken) : taken.2.length ≤ rest.length := by
  unfold takeValue at h
  split at h
  · injection h with h; subst h; exact Nat.le_refl _
  · injection h with h; subst h; simp
  · contradiction

/-- A text as the value of a flag. Two dashes stand for an empty list of values. -/
def valueOf (value : String) : Datum := if value = "--" then .list [] else .text value

def wholeOf (choice : Choice) (value : String) : Except Stop Datum :=
  if value = "--" then .ok (.list [])
  else
    match Number.ofText? value with
    | some n => .ok (.int n)
    | none => .error (.refused (.notWhole choice value))

/-- Reads the words of the command: the flags that they give, and the words that are left over. -/
def readRun (flags : Flags) (words : List (String × Reading)) :
    Except Stop (Flags × List String) :=
  match words with
  | [] => .ok (flags, [])
  | (word, reading) :: rest =>
    match reading with
    | .option choice name value =>
      match choice.effect with
      | .help => refuseValue runChoices choice name value *> .error .help
      | .version => refuseValue runChoices choice name value *> .error .version
      | .switchOn setting =>
        match refuseValue runChoices choice name value with
        | .error stop => .error stop
        | .ok () => readRun (flags.set setting (.bool true)) rest
      | .takeText setting =>
        match h : takeValue choice value rest with
        | .error stop => .error stop
        | .ok taken =>
          have := takeValue_length h
          readRun (flags.set setting (valueOf taken.1)) taken.2
      | .takeWhole setting =>
        match h : takeValue choice value rest with
        | .error stop => .error stop
        | .ok taken =>
          have := takeValue_length h
          match wholeOf choice taken.1 with
          | .error stop => .error stop
          | .ok n => readRun (flags.set setting n) taken.2
    | _ =>
      match readRun flags rest with
      | .error stop => .error stop
      | .ok (flags, left) => .ok (flags, word :: left)
  termination_by words.length
  decreasing_by all_goals (simp_wf <;> omega)

/-- Who refuses a command line, or prints its help: the program or its command. -/
inductive Speaker
  | program
  | command
  deriving DecidableEq

/-- A command line, read: it is empty of a command, or it runs the agent with flags. -/
inductive Line
  | empty
  | run (flags : Flags)

def readCommand (word : String) (words : List String) :
    Except (Speaker × Stop) (Flags × List String) :=
  if word = runName then
    match readWords runChoices words with
    | .error refusal => .error (.command, .refused refusal)
    | .ok read =>
      match readRun {} read with
      | .error stop => .error (.command, stop)
      | .ok found => .ok found
  else .error (.program, .refused (.unknownCommand word))

/-- Reads the words of the program up to its command. -/
def readProgram : List (String × Reading) → Except (Speaker × Stop) (Line × List String)
  | [] => .ok (.empty, [])
  | (word, reading) :: rest =>
    match reading with
    | .argument =>
      match readCommand word (rest.map Prod.fst) with
      | .error stop => .error stop
      | .ok (flags, left) => .ok (.run flags, left)
    | .dashes =>
      if rest.isEmpty then .ok (.empty, [word])
      else .error (.program, .refused (.unknownCommand word))
    | .stranger =>
      match readProgram rest with
      | .error stop => .error stop
      | .ok (line, left) => .ok (line, word :: left)
    | .option choice name value =>
      match refuseValue programChoices choice name value with
      | .error stop => .error (.program, stop)
      | .ok () =>
        .error (.program, if choice.effect = .version then .version else .help)

def readLine (words : List String) : Except (Speaker × Stop) Line :=
  match readWords programChoices words with
  | .error refusal => .error (.program, .refused refusal)
  | .ok read =>
    match readProgram read with
    | .error stop => .error stop
    | .ok (line, []) => .ok line
    | .ok (_, left) => .error (.program, .refused (.unrecognized left))

/-- What a program leaves: texts on its two outputs and its exit status. -/
structure Output where
  stdout : String := ""
  stderr : String := ""
  status : Nat := 0
  deriving DecidableEq

def Speaker.usage : Speaker → String
  | program => programUsage
  | command => runUsage

def Speaker.title : Speaker → String
  | program => programName
  | command => runTitle

def Speaker.help : Speaker → String
  | program => programHelp
  | command => runHelp

/-- What is printed when the reading of a command line ends early. -/
def stopOutput (env : Environment) (speaker : Speaker) : Stop → Output
  | .help => { stdout := speaker.help }
  | .version => { stdout := versionText env ++ "\n" }
  | .refused refusal =>
    { stderr := speaker.usage ++ speaker.title ++ ": error: " ++ refusal.message ++ "\n"
      status := 2 }

end NodeAgent.CommandLine
