import NodeAgent.Text.Quoted
/-!
Failures as logs report them: a kind, a text, and the failure that came before, if any.

Main definitions:
* `FailureKind`: what a failure is, with the classes that handlers know it by (`FailureKind.isOf`).
* `Failure`: a failure with its history; `Failure.report` is its text in the log.
* `ForeignFailure`: a failure of another library, none of whose history is a failure of the agent.

Correspondence: `FailureKind` are the classes of exceptions that come up, `Failure` is an exception
with its `__cause__` and `__context__`, and `Failure.report` is what `formatException` makes of it.
-/

namespace NodeAgent

/-- The classes of failures that the agent's handlers ask for and that failures of other libraries
belong to. -/
inductive FailureClass
  | value
  | type
  | markup
  | credentials
  deriving DecidableEq

/-- What a failure is. Those of other libraries that have no name here are `foreign`: they bring
their own name, the module it belongs to, and their classes. -/
inductive FailureKind
  | value
  | runtime
  | key
  | type
  | noAttribute
  | overflow
  | depth
  | unicodeDecode
  | unicodeEncode
  | system
  | fileNotFound
  | permission
  | notDirectory
  | isDirectory
  | connectionRefused
  | connectionReset
  | connectionAborted
  | brokenPipe
  | fileExists
  | interrupted
  | blocking
  | childProcess
  | processLookup
  | timeout
  | interrupt
  | api
  | transport
  | credentials
  | markup
  | config
  | agent
  | nodeResolution
  | nodeNotFound
  | emptyPath
  | kubeConfigRead
  | kubeConfigParse
  | inCluster
  | foreign (owner name : String) (classes : List FailureClass)
  deriving DecidableEq

namespace FailureKind

def name : FailureKind → String
  | value => "ValueError"
  | runtime => "RuntimeError"
  | key => "KeyError"
  | type => "TypeError"
  | noAttribute => "AttributeError"
  | overflow => "OverflowError"
  | depth => "RecursionError"
  | unicodeDecode => "UnicodeDecodeError"
  | unicodeEncode => "UnicodeEncodeError"
  | system => "OSError"
  | fileNotFound => "FileNotFoundError"
  | permission => "PermissionError"
  | notDirectory => "NotADirectoryError"
  | isDirectory => "IsADirectoryError"
  | connectionRefused => "ConnectionRefusedError"
  | connectionReset => "ConnectionResetError"
  | connectionAborted => "ConnectionAbortedError"
  | brokenPipe => "BrokenPipeError"
  | fileExists => "FileExistsError"
  | interrupted => "InterruptedError"
  | blocking => "BlockingIOError"
  | childProcess => "ChildProcessError"
  | processLookup => "ProcessLookupError"
  | timeout => "TimeoutError"
  | interrupt => "KeyboardInterrupt"
  | api => "ApiException"
  | transport => "HTTPError"
  | credentials => "ConfigException"
  | markup => "YAMLError"
  | config => "ConfigError"
  | agent => "AgentError"
  | nodeResolution => "NodeResolutionError"
  | nodeNotFound => "NodeNotFoundError"
  | emptyPath => "EmptyPathError"
  | kubeConfigRead => "KubeConfigReadError"
  | kubeConfigParse => "KubeConfigParseError"
  | inCluster => "InClusterConfigError"
  | foreign _ name _ => name

/-- Where a kind belongs, as reports show it in front of its name. -/
def owner : FailureKind → String
  | api => "kubernetes.client.exceptions."
  | transport => "urllib3.exceptions."
  | credentials => "kubernetes.config.config_exception."
  | markup => "yaml.error."
  | config => "agent.src.config."
  | agent => "agent.src.agent."
  | nodeResolution => "agent.src.node."
  | nodeNotFound => "agent.src.node."
  | emptyPath => "agent.src.kube."
  | kubeConfigRead => "agent.src.kube."
  | kubeConfigParse => "agent.src.kube."
  | inCluster => "agent.src.kube."
  | foreign owner _ _ => owner
  | _ => ""

/-- The classes that a kind belongs to. Texts that cannot be decoded or encoded are bad values. -/
def classes : FailureKind → List FailureClass
  | value | unicodeDecode | unicodeEncode => [.value]
  | type => [.type]
  | markup => [.markup]
  | credentials => [.credentials]
  | foreign _ _ classes => classes
  | _ => []

/-- Whether a handler of some classes takes a kind. -/
def isOf (kind : FailureKind) (classes : List FailureClass) : Bool :=
  kind.classes.any classes.contains

/-- Whether a kind is one of the agent's own, which no other library fails with. -/
def isOwn : FailureKind → Bool
  | config | agent | nodeResolution | nodeNotFound => true
  | emptyPath | kubeConfigRead | kubeConfigParse | inCluster => true
  | _ => false

def ofErrno (errno : Int) : FailureKind :=
  if errno = 1 ∨ errno = 13 then permission
  else if errno = 2 then fileNotFound
  else if errno = 3 then processLookup
  else if errno = 4 then interrupted
  else if errno = 10 then childProcess
  else if errno = 11 ∨ errno = 114 ∨ errno = 115 then blocking
  else if errno = 17 then fileExists
  else if errno = 20 then notDirectory
  else if errno = 21 then isDirectory
  else if errno = 32 ∨ errno = 108 then brokenPipe
  else if errno = 103 then connectionAborted
  else if errno = 104 then connectionReset
  else if errno = 110 then timeout
  else if errno = 111 then connectionRefused
  else system

/-- The text of a failure that was given a message or none; the key of a failed look-up is
quoted. -/
def textOf (kind : FailureKind) : Option String → String
  | none => ""
  | some message => if kind = key then Text.quoted message else message

end FailureKind

/-- A failure: on its own, caused by another one, or met while another one was handled. -/
inductive Failure
  | alone (kind : FailureKind) (text : String)
  | caused (kind : FailureKind) (text : String) (origin : Failure)
  | during (kind : FailureKind) (text : String) (earlier : Failure)
  deriving DecidableEq

namespace Failure

def kind : Failure → FailureKind
  | alone kind _ => kind
  | caused kind _ _ => kind
  | during kind _ _ => kind

def text : Failure → String
  | alone _ text => text
  | caused _ text _ => text
  | during _ text _ => text

/-- The failures that caused a failure, the nearest first. -/
def causes : Failure → List Failure
  | caused _ _ origin => origin :: causes origin
  | _ => []

/-- The line of a failure: its kind and its text, if it has one. -/
def line (kind : FailureKind) (text : String) : String :=
  if text.isEmpty then kind.owner ++ kind.name else kind.owner ++ kind.name ++ ": " ++ text

/-- The report of a failure: a line for each one of its history, the earliest first. The frames of
the calls that a failure came through, and the head line above them, are left out. -/
def report : Failure → String
  | alone kind text => line kind text
  | caused kind text origin =>
    report origin ++
      "\n\nThe above exception was the direct cause of the following exception:\n\n" ++
      line kind text
  | during kind text earlier =>
    report earlier ++
      "\n\nDuring handling of the above exception, another exception occurred:\n\n" ++
      line kind text

/-- The kinds of a failure and of all of its history. -/
def kinds : Failure → List FailureKind
  | alone kind _ => [kind]
  | caused kind _ origin => kind :: kinds origin
  | during kind _ earlier => kind :: kinds earlier

/-- Whether a failure and all of its history come from other libraries. -/
def isForeign (failure : Failure) : Bool := failure.kinds.all fun kind => !kind.isOwn

end Failure

/-- A failure of another library. -/
structure ForeignFailure where
  failure : Failure
  foreign : failure.isForeign = true
  deriving DecidableEq

namespace ForeignFailure

def kind (failed : ForeignFailure) : FailureKind := failed.failure.kind

def text (failed : ForeignFailure) : String := failed.failure.text

/-- A failure on its own, of a kind that is not one of the agent. -/
def alone (kind : FailureKind) (text : String) (foreign : kind.isOwn = false) : ForeignFailure where
  failure := .alone kind text
  foreign := by simp [Failure.isForeign, Failure.kinds, foreign]

end ForeignFailure

end NodeAgent
