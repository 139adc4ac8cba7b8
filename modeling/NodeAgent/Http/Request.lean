import NodeAgent.Text.Blank
import NodeAgent.Text.Quoted
/-!
Requests as they come in over a connection. Each byte is read as the character of its number. Only
the first line decides what is asked for; the headers after it are counted and measured, but not
looked at.

Correspondence: `Request.read` is `parse_request` with the reading of the headers, up to the choice
of the method.
-/

namespace NodeAgent.Http

/-- How an answer is sent: with a line of status and with headers, or bare, as clients that name
no version expect it. -/
inductive Style
  | full
  | bare
  deriving DecidableEq

/-- Why a request is turned away. -/
inductive Refusal
  | lineTooLong
  | badVersion (word : String)
  | unknownVersion (number : String)
  | badSyntax (line : String)
  | badBareMethod (method : String)
  | headerTooLong
  | tooManyHeaders
  | unknownMethod (method : String)
  deriving DecidableEq

def Refusal.status : Refusal → Nat
  | lineTooLong => 414
  | badVersion _ => 400
  | unknownVersion _ => 505
  | badSyntax _ => 400
  | badBareMethod _ => 400
  | headerTooLong => 431
  | tooManyHeaders => 431
  | unknownMethod _ => 501

def Refusal.message : Refusal → String
  | lineTooLong => "Request-URI Too Long"
  | badVersion word => "Bad request version (" ++ Text.quoted word ++ ")"
  | unknownVersion number => "Invalid HTTP version (" ++ number ++ ")"
  | badSyntax line => "Bad request syntax (" ++ Text.quoted line ++ ")"
  | badBareMethod method => "Bad HTTP/0.9 request type (" ++ Text.quoted method ++ ")"
  | headerTooLong => "Line too long"
  | tooManyHeaders => "Too many headers"
  | unknownMethod method => "Unsupported method (" ++ Text.quoted method ++ ")"

/-- What a connection brought: nothing to answer, a request to turn away, or a path to serve. A
request that asks for headers only is turned away without a page. -/
inductive Request
  | nothing
  | refused (line : String) (style : Style) (refusal : Refusal) (headersOnly : Bool)
  | get (line path : String) (style : Style)
  deriving DecidableEq

/-- The characters of bytes, one for each byte. -/
def characters (bytes : ByteArray) : List Char := bytes.toList.map fun b => Char.ofNat b.toNat

/-- The greatest length of a line, its break included. -/
def lineLimit : Nat := 65536

/-- The greatest number of headers, the blank line after them included. -/
def headerLimit : Nat := 100

/-- Parts the first line, with its break, from the rest. -/
def takeLine (cs : List Char) : List Char × List Char :=
  let line := cs.takeWhile (· != '\n')
  let rest := cs.dropWhile (· != '\n')
  (line ++ rest.take 1, rest.drop 1)

def withoutBreak (line : List Char) : List Char :=
  Text.dropTrailing (fun c => c == '\r' || c == '\n') line

/-- Whether a line ends the headers: it is blank, or there is none. -/
def endsHeaders (line : List Char) : Bool :=
  line = [] || line = ['\n'] || line = ['\r', '\n']

/-- Reads headers up to a blank line or the end, `count` of them at most. -/
def headerFault? : Nat → List Char → Option Refusal
  | count, cs =>
    let (line, rest) := takeLine cs
    if lineLimit < line.length then some .headerTooLong
    else
      match count with
      | 0 => some .tooManyHeaders
      | count + 1 =>
        if endsHeaders line then none else headerFault? count rest

/-- The number of a version and its part before the point, if a word names one. -/
def version? (word : List Char) : Option (List Char × Nat) :=
  if ("HTTP/".toList).isPrefixOf word then
    let number := word.drop 5
    match Text.splitWhere (· == '.') number with
    | [major, minor] =>
      if [major, minor].all fun part =>
          !part.isEmpty && part.all Char.isDigit && part.length ≤ 10 then
        some (number, Nat.ofDigitChars 10 major 0)
      else none
    | _ => none
  else none

/-- The style of answers to a version that is spelt so. -/
def styleOf (version : List Char) : Style :=
  if version = "HTTP/0.9".toList then .bare else .full

def singleSlash (path : List Char) : List Char :=
  if ("//".toList).isPrefixOf path then '/' :: path.dropWhile (· == '/') else path

/-- The request of a method and a path, once the headers behind it are read. -/
def ofMethod (line : String) (method path : List Char) (style : Style) (rest : List Char) :
    Request :=
  let headersOnly := method = "HEAD".toList
  match headerFault? headerLimit rest with
  | some refusal => .refused line style refusal headersOnly
  | none =>
    if method = "GET".toList then .get line (String.ofList (singleSlash path)) style
    else .refused line style (.unknownMethod (String.ofList method)) headersOnly

/-- The request whose first line has certain words. Three words or more end in a version; two are
a bare request, which can only get. -/
def ofWords (line : String) (words : List (List Char)) (rest : List Char) : Request :=
  match words with
  | [] => .nothing
  | [method, path] =>
    if method = "GET".toList then ofMethod line method path .bare rest
    else .refused line .bare (.badBareMethod (String.ofList method)) false
  | [_] => .refused line .bare (.badSyntax line) false
  | method :: path :: more =>
    let word := more.getLastD []
    match version? word with
    | none => .refused line .bare (.badVersion (String.ofList word)) false
    | some (number, major) =>
      if 2 ≤ major then .refused line .bare (.unknownVersion (String.ofList number)) false
      else if more.length = 1 then ofMethod line method path (styleOf word) rest
      else .refused line (styleOf word) (.badSyntax line) false

def Request.read (cs : List Char) : Request :=
  let (first, rest) := takeLine cs
  if lineLimit < first.length then .refused "" .full .lineTooLong false
  else
    let line := withoutBreak first
    ofWords (String.ofList line) (Text.words line) rest

def Request.ofBytes (bytes : ByteArray) : Request := Request.read (characters bytes)

end NodeAgent.Http
