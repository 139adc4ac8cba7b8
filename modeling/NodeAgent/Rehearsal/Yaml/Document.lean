import NodeAgent.Rehearsal.Yaml.Node
import NodeAgent.Rehearsal.Yaml.Scalar
/-!
The values of YAML documents. A document with several faults is refused for the one that is met
first when its containers are filled round by round: those of the outermost one, then those of the
containers in it, and so on inwards.

Main definition: `Yaml.parse`, the value of a document, or the first fault in it.
-/

namespace NodeAgent.Rehearsal.Yaml

/-- A fault, and how many rounds are over when it is met. -/
structure Trouble where
  fault : Fault
  round : Nat := 0

/-- What a node comes to. -/
abbrev Outcome (α : Type) := Except Trouble α

/-- What is found in the present round. -/
def atOnce {α : Type} (found : Except Fault α) : Outcome α :=
  found.mapError fun fault => { fault }

/-- Two outcomes as one; of two faults the one met first counts. -/
def bothOf {α β γ : Type} (join : α → β → γ) : Outcome α → Outcome β → Outcome γ
  | .ok a, .ok b => .ok (join a b)
  | .ok _, .error trouble => .error trouble
  | .error trouble, .ok _ => .error trouble
  | .error first, .error second => .error (if second.round < first.round then second else first)

/-- The outcome of a node inside of a container: a container there is filled a round later. -/
def nested (node : Node) (outcome : Outcome Yaml) : Outcome Yaml :=
  match node with
  | .scalar _ _ => outcome
  | _ => outcome.mapError fun trouble => { trouble with round := trouble.round + 1 }

/-- An entry whose key and value may be in trouble. -/
structure EntryOutcome where
  key : Outcome Yaml
  value : Outcome Yaml

/-- Whether a node as a key merges mappings into its own. -/
def Node.merges : Node → Bool
  | .scalar written isPlain => isPlain && written == mergeSign
  | _ => false

/-- A scalar. -/
def scalarOutcome (written : String) (isPlain : Bool) : Outcome Yaml :=
  if isPlain then atOnce (ofPlain written) else .ok (.text written)

/-- A key. A container is none, and the sign of a default value is a text. -/
def keyOutcome : Node → Outcome Yaml
  | .scalar written isPlain =>
    if written = defaultSign then .ok (.text written) else scalarOutcome written isPlain
  | _ => atOnce (.error .markup)

/-- Entries in their order. -/
def entryOutcomes : List EntryOutcome → Outcome (List (Yaml × Yaml))
  | [] => .ok []
  | entry :: entries =>
    bothOf List.cons (bothOf Prod.mk entry.key entry.value) (entryOutcomes entries)

/-- A mapping of entries. -/
def fill (entries : List EntryOutcome) : Outcome Yaml :=
  (entryOutcomes entries).map fun entries =>
    -- Of two entries with one key the later value stands in the earlier place.
    .map (entries.foldl (fun sofar entry => putEntry sofar entry.1 entry.2) [])

mutual

def Node.outcome : Node → Outcome Yaml
  | .scalar written isPlain => scalarOutcome written isPlain
  | .list items => (itemOutcomes items).map Yaml.list
  | .map entries =>
    match flatten? entries with
    | some (merged, own) => fill (merged ++ own)
    | none => atOnce (.error .markup)

def itemOutcomes : List Node → Outcome (List Yaml)
  | [] => .ok []
  | item :: items => bothOf List.cons (nested item item.outcome) (itemOutcomes items)

/-- The entries that a mapping merges, and its own ones. Only mappings and lists of them can be
merged. -/
def flatten? : List (Node × Node) → Option (List EntryOutcome × List EntryOutcome)
  | [] => some ([], [])
  | (key, value) :: entries =>
    match flatten? entries with
    | none => none
    | some (merged, own) =>
      if key.merges then value.merged?.map fun more => (more ++ merged, own)
      else some (merged, ⟨keyOutcome key, nested value value.outcome⟩ :: own)

/-- The entries that a node contributes where it is merged. -/
def Node.merged? : Node → Option (List EntryOutcome)
  | .map entries => (flatten? entries).map fun (merged, own) => merged ++ own
  | .list items => mergedItems? items
  | .scalar _ _ => none

/-- The entries that items contribute. -/
def mergedItems? : List Node → Option (List EntryOutcome)
  | [] => some []
  | .map entries :: items =>
    match flatten? entries, mergedItems? items with
    -- Those of the last item come first, so that earlier items win.
    | some (merged, own), some rest => some (rest ++ (merged ++ own))
    | _, _ => none
  | _ => none

end

/-- The value that a text holds. -/
def parse (text : String) : Except Fault Yaml :=
  match Node.ofText text with
  | .error fault => .error fault
  | .ok node => node.outcome.mapError Trouble.fault

end NodeAgent.Rehearsal.Yaml
