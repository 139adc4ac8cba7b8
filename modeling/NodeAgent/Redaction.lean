import NodeAgent.Text.Blank
import NodeAgent.Text.Word
/-!
Redaction: secrets in a text give way to `[REDACTED]`. Three rules say where a secret stands:
behind the word `bearer`, behind the name of a secret with a colon or an equals sign, and as the
value of a parameter in a query. Each rule is one pass over the text from left to right; a pass
goes on behind the secret it has hidden. The names count in any letter case.

Correspondence: `redact` is `redact_sensitive_text`, and `rules` are its `_REDACTION_RULES`, in
their order: `bearerRule`, `namedRule`, `queryRule`. A `pass` is the substitution of one rule.
-/

namespace NodeAgent.Redaction

/-- Whether two letters are the same in any case, for a small ASCII letter `k`. The long s, the
Kelvin sign, the dotless i and the capital i with a dot are letters of ASCII in another case. -/
def isLetter (k c : Char) : Bool :=
  c.toLower = k || (k = 's' && c = 'ſ') || (k = 'k' && c = '\u212a') ||
    (k = 'i' && (c = 'ı' || c = 'İ'))

/-- A word ahead, letters in any case: its text and what follows it. -/
def wordAhead? : List Char → List Char → Option (List Char × List Char)
  | [], cs => some ([], cs)
  | k :: ks, c :: cs =>
    if isLetter k c then (wordAhead? ks cs).map fun (word, rest) => (c :: word, rest) else none
  | _ :: _, [] => none

/-- The first word of a list that is ahead. -/
def someAhead? (words : List String) (cs : List Char) : Option (List Char × List Char) :=
  words.findSome? fun word => wordAhead? word.toList cs

/-- A secret ahead: the text that stays and the text that is hidden behind it. -/
structure Finding where
  kept : List Char
  secret : List Char

def finding? (kept secret : List Char) : Option Finding :=
  if secret.isEmpty then none else some ⟨kept, secret⟩

/-- A rule tells whether a secret is ahead, given the character before. -/
abbrev Rule := Option Char → List Char → Option Finding

/-- The characters of a bearer token. -/
def isTokenChar (c : Char) : Bool :=
  c.isAlphanum || c = '.' || c = '_' || c = '~' || c = '+' || c = '/' || c = '=' || c = '-' ||
    c = 'ſ' || c = '\u212a' || c = 'ı' || c = 'İ'

/-- The word `bearer`, blanks, and a token. -/
def bearerRule : Rule := fun _ cs =>
  match wordAhead? "bearer".toList cs with
  | some (word, rest) =>
    let blanks := rest.takeWhile Text.isBlank
    if blanks.isEmpty then none
    else
      finding? (word ++ blanks) ((rest.dropWhile Text.isBlank).takeWhile isTokenChar)
  | none => none

def secretNames : List String :=
  ["authorization", "token", "password", "passwd", "secret", "api_key", "api-key", "apikey"]

/-- The characters of a secret behind its name. -/
def isValueChar (c : Char) : Bool := !Text.isBlank c && c ≠ ',' && c ≠ ';'

/-- The name of a secret as a word of its own, a colon or an equals sign, and a value; blanks may
stand around the sign. -/
def namedRule : Rule := fun before cs =>
  if Text.endsInWord before then none
  else
    match someAhead? secretNames cs with
    | some (name, rest) =>
      if Text.endsInWord rest.head? then none
      else
        match rest.dropWhile Text.isBlank with
        | sign :: rest' =>
          if sign = ':' ∨ sign = '=' then
            finding?
              (name ++ rest.takeWhile Text.isBlank ++ sign :: rest'.takeWhile Text.isBlank)
              ((rest'.dropWhile Text.isBlank).takeWhile isValueChar)
          else none
        | [] => none
    | none => none

/-- The parameters of a query that hold secrets. -/
def parameterNames : List String := ["token", "access_token", "api_key", "password"]

def isParameterChar (c : Char) : Bool := !Text.isBlank c && c ≠ '&'

/-- A question mark or an ampersand, the name of a parameter, an equals sign, and a value. -/
def queryRule : Rule := fun _ cs =>
  match cs with
  | lead :: rest =>
    if lead = '?' ∨ lead = '&' then
      match someAhead? parameterNames rest with
      | some (name, '=' :: rest) =>
        finding? (lead :: name ++ ['=']) (rest.takeWhile isParameterChar)
      | _ => none
    else none
  | [] => none

/-- What a secret gives way to. -/
def mark : List Char := "[REDACTED]".toList

/-- One pass of a rule. -/
def pass (rule : Rule) (before : Option Char) (skip : Nat) : List Char → List Char
  | [] => []
  | c :: cs =>
    match skip with
    -- The character belongs to a finding that is already written.
    | skip + 1 => pass rule (some c) skip cs
    | 0 =>
      match rule before (c :: cs) with
      | some found =>
        found.kept ++ mark ++
          pass rule (some c) (found.kept.length + found.secret.length - 1) cs
      | none => c :: pass rule (some c) 0 cs

/-- The rules in the order of their passes. -/
def rules : List Rule := [bearerRule, namedRule, queryRule]

/-- A text with its secrets hidden, by characters. -/
def redactChars (cs : List Char) : List Char :=
  rules.foldl (fun cs rule => pass rule none 0 cs) cs

/-- A text with its secrets hidden. -/
def redact (s : String) : String := String.ofList (redactChars s.toList)

end NodeAgent.Redaction
