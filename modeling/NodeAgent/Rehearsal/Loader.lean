import NodeAgent.Rehearsal.Base64
import NodeAgent.Rehearsal.Host
import NodeAgent.Rehearsal.Section
import NodeAgent.Path
/-!
The access that a kubeconfig grants: its current context names a cluster and, if it has one, a
user; the cluster says where to go and the user proves who asks.

Main definition: `load`, the access that a document gives. It knows tokens, certificates and
passwords, and no other way to prove who one is.
-/

namespace NodeAgent.Rehearsal

/-- A kubeconfig's current user and cluster. -/
structure Selection where
  user : Option Item
  cluster : Item

/-- The text of a file that a kubeconfig refers to. -/
def readText (tree : FileTree) (path : String) : Except LoadFault String :=
  if isSystemPath path then
    match tree.read path with
    | .ok bytes =>
      match decodeText bytes with
      | some content => .ok content
      | none => .error .notText
    | .error fault => .error (.system fault path)
  else .error .badValue

/-- The user of a context, if the context names one and there are users to choose from. -/
def selectUser (root ctx : Section) (context : Section) : Except LoadFault (Option Item) := do
  let name ← valueAt context.value "user"
  if name.isGiven then
    let users ← valueAt root.value "users"
    if users.isGiven then
      let users ← (← root.item "users").asSection
      let context ← (← ctx.item "context").asSection
      let name ← context.item "user"
      match ← users.find? name.value with
      | some user => return some (← user.item "user")
      | none => return none
    else return none
  else return none

/-- The user and the cluster of the current context. -/
def select (root : Section) : Except LoadFault Selection := do
  let name ← root.item "current-context"
  let contexts ← (← root.item "contexts").asSection
  let ctx ← contexts.find name.value
  let context ← (← ctx.item "context").asSection
  let user ← selectUser root ctx context
  let clusters ← (← root.item "clusters").asSection
  let name ← context.item "cluster"
  let found ← clusters.find name.value
  return { user, cluster := ← found.item "cluster" }

/-! ## Who asks -/

/-- The token of a user: the one given, even if it is empty, or else that of a file. -/
def userToken (tree : FileTree) (user : Section) : Except LoadFault (Option String) := do
  if ← user.has "token" then
    let token ← user.item "token"
    if token.value.isGiven then return some (← printed token.value) else return none
  else if ← user.has "tokenFile" then
    let path ← (← user.item "tokenFile").asText
    let token ← readText tree (Path.normal path)
    return if token.isEmpty then none else some token
  else return none

/-- Texts in bytes of one character each; others cannot be encoded. -/
def narrowBytes (s : String) : Except LoadFault (List UInt8) :=
  if s.toList.all fun c => c.toNat < 256 then
    .ok (s.toList.map fun c => UInt8.ofNat c.toNat)
  else .error .notEncodable

/-- Name and password of a user, if it has both. -/
def userPassword (user : Section) : Except LoadFault (Option String) := do
  if ← user.has "username" then
    if ← user.has "password" then
      let name ← (← user.item "username").asText
      let password ← (← user.item "password").asText
      let bytes ← narrowBytes (name ++ ":" ++ password)
      return some ("Basic " ++ String.ofList (Base64.encode bytes))
    else return none
  else return none

/-- What proves who asks: a token, or else name and password. -/
def authorization (tree : FileTree) (user : Option Item) : Except LoadFault (Option String) := do
  match user with
  | none => return none
  | some user =>
    if user.value.isGiven then
      let _ ← holds user.value "auth-provider"
      let user ← user.asSection
      match ← userToken tree user with
      | some token => return some ("Bearer " ++ token)
      | none => userPassword user
    else return none

/-! ## Where to go -/

/-- A certificate or a key: data in base 64 if there is a key for it, or else a file. -/
def material (tree : FileTree) (part : Section) (key : String) :
    Except LoadFault (Option ByteArray) := do
  -- Data that is empty is none, and no file is asked for in its place.
  if ← part.has (key ++ "-data") then
    let data ← part.item (key ++ "-data")
    if data.value.isGiven then
      match Base64.decode? (← data.asText) with
      | some bytes => return some bytes
      | none => throw .badValue
    else return none
  else if ← part.has key then
    let path := Path.normal (← (← part.item key).asText)
    if isSystemPath path then
      match tree.read path with
      | .ok bytes => return some bytes
      -- A file that is there and may not be opened counts as empty.
      | .error .denied => return some .empty
      | .error _ => throw (.refused (.fileMissing path))
    else throw (.refused (.fileMissing path))
  else return none

/-- A certificate or a key of a user, if there is a user that counts as given. -/
def userMaterial (tree : FileTree) (user : Option Item) (key : String) :
    Except LoadFault (Option ByteArray) :=
  match user with
  | some (.part part) => if part.value.isGiven then material tree part key else .ok none
  | _ => .ok none

/-- The value behind a key of a cluster, if there is such a key. -/
def clusterValue (cluster : Item) (key : String) : Except LoadFault (Option Item) := do
  if ← holds cluster.value key then
    match cluster with
    | .part part => return some (← part.item key)
    | .scalar _ => throw .badKind
  else return none

/-- The text of a server's address; a value of another kind has no text to look at. -/
def serverText : Item → Except LoadFault String
  | .scalar (.text value) => .ok value
  | _ => .error .noParts

def isSecured (host : String) : Bool := "https".toList.isPrefixOf host.toList

/-- The server of a cluster, with the certificates and the key that a secured connection
needs. -/
def serverAccess (tree : FileTree) (selection : Selection) : Except LoadFault Access := do
  match ← clusterValue selection.cluster "server" with
  | none => return {}
  | some server =>
    let host := String.ofList (Text.dropTrailing (· == '/') (← serverText server).toList)
    if isSecured host then
      let cluster ← selection.cluster.asSection
      let authority ← material tree cluster "certificate-authority"
      let certificate ← userMaterial tree selection.user "client-certificate"
      let key ← userMaterial tree selection.user "client-key"
      return { host, authority, certificate, key }
    else return { host }

def grant (tree : FileTree) (selection : Selection) : Except LoadFault Access := do
  let token ← authorization tree selection.user
  let access ← serverAccess tree selection
  let skip ← clusterValue selection.cluster "insecure-skip-tls-verify"
  let tlsServerName ← clusterValue selection.cluster "tls-server-name"
  let proxy ← clusterValue selection.cluster "proxy-url"
  if hasGoodBrackets access.host then
    return { access with
      token
      verifyTls := (skip.map fun item => !item.value.isGiven).getD true
      tlsServerName := tlsServerName.map fun item => item.value.toDatum
      proxy := proxy.map fun item => item.value.toDatum }
  else throw .badValue

/-- The access that a kubeconfig grants. -/
def load (tree : FileTree) (entries : List (Yaml × Yaml)) : Except LoadFault Access :=
  match select ⟨"kube-config", .map entries⟩ with
  | .ok selection => grant tree selection
  | .error fault => .error fault

end NodeAgent.Rehearsal
