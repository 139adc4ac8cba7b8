import NodeAgent.Proofs.Node.Lookup
/-!
What a description reads of a node, and what it makes of it: the name, the provider id, for each
place the first of its labels that is not empty, and for each of the two types the addresses of the
type, in their order. Nothing else in a node has a part in its descriptor, nor in what is logged on
the way.

Main results:
* `firstLabel_isFirst`: the label that is taken.
* `readsOff_of_described`: what a descriptor holds.
* `describe_reads_relevant`: that, and that nothing else has a part in it.
-/

namespace NodeAgent.Node

/-! ## Labels -/

namespace RawNode

/-- The text of a label; one that is missing is empty. -/
def labelText (node : RawNode) (key : String) : String := (node.label? key).getD ""

/-- Whether a label is missing or empty. -/
def LacksLabel (node : RawNode) (key : String) : Prop :=
  node.label? key = none ∨ node.label? key = some ""

theorem lacksLabel_iff {node : RawNode} {key : String} :
    node.LacksLabel key ↔ node.labelText key = "" := by
  unfold LacksLabel labelText
  cases node.label? key <;> simp

end RawNode

/-- Whether a text is the value of the first of some labels that is present and not empty; it is
empty if there is no such label. -/
inductive IsFirstLabel (node : RawNode) : List String → String → Prop
  | found (front : List String) (key : String) (back : List String) (value : String)
    (passed : ∀ other ∈ front, node.LacksLabel other) (present : node.label? key = some value)
    (nonempty : value ≠ "") : IsFirstLabel node (front ++ key :: back) value
  | absent (keys : List String) (passed : ∀ key ∈ keys, node.LacksLabel key) :
    IsFirstLabel node keys ""

theorem firstLabel_cons (node : RawNode) (key : String) (keys : List String) :
    firstLabel node (key :: keys) =
      if node.labelText key = "" then firstLabel node keys else node.labelText key := by
  unfold firstLabel RawNode.labelText
  rw [List.findSome?_cons]
  cases node.label? key with
  | none => rfl
  | some value => by_cases hvalue : value = "" <;> simp [hvalue]

/-- The search for a label goes on over those that are missing or empty. -/
theorem firstLabel_isFirst (node : RawNode) (keys : List String) :
    IsFirstLabel node keys (firstLabel node keys) := by
  induction keys with
  | nil => exact .absent [] (by simp)
  | cons key keys ih =>
    rw [firstLabel_cons]
    split
    · rename_i hempty
      have hlacks : node.LacksLabel key := RawNode.lacksLabel_iff.mpr hempty
      generalize firstLabel node keys = text at ih
      cases ih with
      | found front other back _ passed present nonempty =>
        exact .found (key :: front) other back _
          (List.forall_mem_cons.mpr ⟨hlacks, passed⟩) present nonempty
      | absent _ passed => exact .absent _ (List.forall_mem_cons.mpr ⟨hlacks, passed⟩)
    · rename_i hne
      cases hlabel : node.label? key with
      | none => exact absurd (by rw [RawNode.labelText, hlabel]; rfl) hne
      | some value =>
        rw [RawNode.labelText, hlabel] at hne ⊢
        exact .found [] key keys value (by simp) hlabel hne

theorem firstLabel_congr {node other : RawNode} {keys : List String}
    (h : ∀ key ∈ keys, node.labelText key = other.labelText key) :
    firstLabel node keys = firstLabel other keys := by
  induction keys with
  | nil => rfl
  | cons key keys ih =>
    obtain ⟨hkey, hkeys⟩ := List.forall_mem_cons.mp h
    rw [firstLabel_cons, firstLabel_cons, hkey, ih hkeys]

/-! ## Descriptions -/

/-- What a descriptor tells of its node. -/
structure ReadsOff (node : RawNode) (descriptor : Descriptor) : Prop where
  name : descriptor.name = node.nameText
  providerId : descriptor.providerId = node.providerText
  pool : IsFirstLabel node poolLabels descriptor.pool
  region : IsFirstLabel node regionLabels descriptor.region
  zone : IsFirstLabel node zoneLabels descriptor.zone
  externalIps : descriptor.externalIps = parsedOf (datumsOf "ExternalIP" node.addresses)
  internalIps : descriptor.internalIps = parsedOf (datumsOf "InternalIP" node.addresses)

/-- Whether two nodes agree on what is read of them. A label that is missing counts as an empty one.
-/
structure ReadAlike (node other : RawNode) : Prop where
  name : node.nameText = other.nameText
  providerId : node.providerText = other.providerText
  labels : ∀ key ∈ poolLabels ++ regionLabels ++ zoneLabels, node.labelText key = other.labelText key
  externalIps : datumsOf "ExternalIP" node.addresses = datumsOf "ExternalIP" other.addresses
  internalIps : datumsOf "InternalIP" node.addresses = datumsOf "InternalIP" other.addresses

variable (developMode : Bool)

theorem readsOff_of_described {node : RawNode} {descriptor : Descriptor}
    (h : (describe developMode node).2 = .ok descriptor) : ReadsOff node descriptor := by
  rw [describe_outcome] at h
  obtain ⟨identified, -, h⟩ := bind_eq_ok_iff.mp h
  obtain ⟨externalIps, hexternal, h⟩ := bind_eq_ok_iff.mp h
  obtain ⟨internalIps, hinternal, h⟩ := bind_eq_ok_iff.mp h
  have parsed : ∀ {kind : String} {ips : List Address},
      (addressesOf kind node.addresses).2 = .ok ips →
        ips = parsedOf (datumsOf kind node.addresses) := by
    intro kind ips hread
    rw [addressesOf_eq] at hread
    dsimp only at hread
    split at hread
    · exact (Except.ok.inj hread).symm
    · simp at hread
  rw [← Except.ok.inj h]
  exact
    { name := rfl
      providerId := rfl
      pool := firstLabel_isFirst node poolLabels
      region := firstLabel_isFirst node regionLabels
      zone := firstLabel_isFirst node zoneLabels
      externalIps := parsed hexternal
      internalIps := parsed hinternal }

theorem describe_of_readAlike {node other : RawNode} (h : ReadAlike node other) :
    describe developMode node = describe developMode other := by
  have hidentify : identify developMode node = identify developMode other := by
    simp only [identify, h.name, h.providerId]
  have haddresses : ∀ kind, datumsOf kind node.addresses = datumsOf kind other.addresses →
      addressesOf kind node.addresses = addressesOf kind other.addresses := by
    intro kind hdatums
    rw [addressesOf_eq, addressesOf_eq, hdatums]
  obtain ⟨hplaces, hzone⟩ := List.forall_mem_append.mp h.labels
  obtain ⟨hpool, hregion⟩ := List.forall_mem_append.mp hplaces
  simp only [describe, hidentify, haddresses _ h.externalIps, haddresses _ h.internalIps, h.name,
    h.providerId, firstLabel_congr hpool, firstLabel_congr hregion, firstLabel_congr hzone]

/-- A description comes of the name, the provider id, the labels of the three places and the
addresses of the two types: it tells them as they are, and nodes that agree on them are described
alike. -/
theorem describe_reads_relevant :
    (∀ node descriptor, (describe developMode node).2 = .ok descriptor → ReadsOff node descriptor) ∧
    ∀ node other, ReadAlike node other → describe developMode node = describe developMode other :=
  ⟨fun _ _ => readsOff_of_described developMode, fun _ _ => describe_of_readAlike developMode⟩

/-- A node with an empty label of its region, and with addresses of several types. -/
def mixedNode : RawNode where
  metadata := .is
    { name := .is "worker"
      labels := .is
        [("topology.kubernetes.io/region", ""), ("role", "edge"),
          ("failure-domain.beta.kubernetes.io/region", "north")] }
  spec := .is { providerId := .is "aws:///zone/i-1" }
  status := .is
    { addresses := .is
        [{ kind := .is "InternalIP", value := .is (.text "10.0.0.1") },
          { kind := .is "ExternalIP", value := .is (.text "192.0.2.1") },
          { kind := .is "ExternalIP", value := .is (.text "none") },
          { kind := .is "ExternalIP", value := .is (.text "192.0.2.1") }] }

/-- The same node without the empty label, with its addresses in another order and one of another
type. -/
def sortedNode : RawNode where
  metadata := .is
    { name := .is "worker"
      labels := .is [("failure-domain.beta.kubernetes.io/region", "north")] }
  spec := .is { providerId := .is "aws:///zone/i-1" }
  status := .is
    { addresses := .is
        [{ kind := .is "ExternalIP", value := .is (.text "192.0.2.1") },
          { kind := .is "Hostname", value := .missing },
          { kind := .is "ExternalIP", value := .is (.text "none") },
          { kind := .is "ExternalIP", value := .is (.text "192.0.2.1") },
          { kind := .is "InternalIP", value := .is (.text "10.0.0.1") }] }

/-- The two nodes are described alike, with the region of the older label and one address twice. -/
theorem describe_reads_relevant_mixed :
    ReadAlike mixedNode sortedNode ∧ describe true mixedNode = describe true sortedNode ∧
      ∃ descriptor, (describe true mixedNode).2 = .ok descriptor ∧
        IsFirstLabel mixedNode regionLabels descriptor.region ∧ descriptor.region = "north" ∧
        descriptor.externalIps = parsedOf (datumsOf "ExternalIP" mixedNode.addresses) ∧
        descriptor.externalIps = [.v4 3221225985, .v4 3221225985] := by
  have alike : ReadAlike mixedNode sortedNode :=
    { name := rfl
      providerId := rfl
      labels := by decide
      externalIps := rfl
      internalIps := rfl }
  have described : (describe true mixedNode).2 = .ok
      { name := "worker", instanceId := "i-1", cloud := some .aws, providerId := "aws:///zone/i-1"
        region := "north", externalIps := [.v4 3221225985, .v4 3221225985]
        internalIps := [.v4 167772161] } := by rfl
  obtain ⟨reads, agree⟩ := describe_reads_relevant true
  exact ⟨alike, agree _ _ alike, _, described, (reads _ _ described).region, rfl,
    (reads _ _ described).externalIps, rfl⟩

end NodeAgent.Node
