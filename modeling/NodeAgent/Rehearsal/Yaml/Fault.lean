/-!
What keeps a text from being a document.

Main definition: `Fault`, which tells ill-formed documents from values that cannot be made.
-/

namespace NodeAgent.Rehearsal.Yaml

/-- Why a text holds no value: its markup is broken, a scalar has the form of a number, a moment
or a character and denotes none, a number is out of all bounds, or containers stand too deep in each
other. -/
inductive Fault
  | markup
  | badValue
  | outOfBounds
  | tooDeep
  deriving DecidableEq, Inhabited

/-- What is there, or else the fault of broken markup. -/
def wellFormed {α : Type} : Option α → Except Fault α
  | some found => .ok found
  | none => .error .markup

end NodeAgent.Rehearsal.Yaml
