import NodeAgent.Address
/-!
Addresses of servers: what stands between two slashes and the path, and the brackets around an
internet address of version six in it.

Main definitions: `hasGoodBrackets`, which hosts are refused, and `joinPort`, a host with its port.
-/

namespace NodeAgent.Rehearsal

def isSchemeChar (c : Char) : Bool := c.isAlphanum || c = '+' || c = '-' || c = '.'

def dropScheme (cs : List Char) : List Char :=
  let scheme := cs.takeWhile (· != ':')
  match cs.dropWhile (· != ':') with
  | ':' :: rest =>
    if (scheme.head?.map Char.isAlpha).getD false && scheme.all isSchemeChar then rest else cs
  | _ => cs

/-- The part of an address that names the server, if it has one. -/
def authority? (host : String) : Option (List Char) :=
  -- Control characters in front do not count, and line breaks and tabs do nowhere.
  let cs := (host.toList.dropWhile fun c => c.toNat ≤ 32).filter fun c =>
    c != '\t' && c != '\n' && c != '\r'
  match dropScheme cs with
  | '/' :: '/' :: rest => some (rest.takeWhile fun c => c != '/' && c != '?' && c != '#')
  | _ => none

/-- Whether a name of a future version is well formed: a version, a point, and something. -/
def isFutureName (cs : List Char) : Bool :=
  match cs.dropWhile Text.isHex with
  | '.' :: rest =>
    (cs.head?.map Text.isHex).getD false && !rest.isEmpty &&
      !rest.contains '\n'
  | _ => false

/-- Whether what stands in brackets may stand there. -/
def isBracketName (cs : List Char) : Bool :=
  match cs with
  | 'v' :: rest => isFutureName rest
  | cs =>
    match Address.ofText? (String.ofList cs) with
    | some (.v6 _ _) => true
    | _ => false

/-- Whether brackets in the name of a server come in a pair, with an internet address of version
six or a name of a future version between them. -/
def hasGoodBrackets (host : String) : Bool :=
  match authority? host with
  | none => true
  | some cs =>
    if cs.contains '[' && cs.contains ']' then
      isBracketName (((cs.dropWhile (· != '[')).drop 1).takeWhile (· != ']'))
    else !cs.contains '[' && !cs.contains ']'

/-- A host and a port; a host with a colon or a percent sign stands in brackets. -/
def joinPort (host port : String) : String :=
  if host.toList.contains ':' || host.toList.contains '%' then "[" ++ host ++ "]:" ++ port
  else host ++ ":" ++ port

end NodeAgent.Rehearsal
