import NodeAgent.Proofs.Node.DevelopMode
import NodeAgent.Proofs.Node.Description
/-!
Lookups where anything may be missing from what a cluster tells of its nodes. Most gaps are read as
empty, and an address that is null or of no known form is passed over. Two gaps end a lookup without
a fault of its own: an entry of an external or internal address that has nothing for the address,
and, where several nodes carry a host name, a node among them without a name.

Main results:
* `describe_stumbles_iff`, `namesOf_eq_error_iff`: the two gaps that end a lookup.
* `lookup_stumbles_iff`: which lookups they end.
* `lookup_survives_gaps_iff`: which lookups survive, and how they end.
-/

namespace NodeAgent.Node

/-! ## Addresses that are missing -/

/-- Whether an entry of one of the two types that are read has nothing, not even null, for its
address. -/
def RawNode.LacksAddress (node : RawNode) : Prop :=
  ∃ entry ∈ node.addresses,
    (entry.kind = .is "ExternalIP" ∨ entry.kind = .is "InternalIP") ∧ entry.value = .missing

/-- Whether a description comes to the addresses of a node: its provider id is accepted, or let
pass. -/
def IsIdentified (developMode : Bool) (node : RawNode) : Prop :=
  developMode = true ∨ ∃ identified, parseProviderId node.providerText = .ok identified

section

variable {developMode : Bool} {node : RawNode}

theorem describe_of_lacking (h : node.LacksAddress) :
    (describe developMode node).2 =
      (identify developMode node).2 >>= fun _ => .error .addressMissing := by
  rw [describe_outcome]
  congr 1
  funext identified
  by_cases hexternal : ∃ entry ∈ node.addresses,
      entry.kind = .is "ExternalIP" ∧ entry.value = .missing
  · rw [addressesOf_of_lacking hexternal]
    rfl
  · -- The external addresses are all there, so it is an internal one that is missing.
    have hpresent : ∀ entry ∈ node.addresses, entry.kind = .is "ExternalIP" →
        entry.value ≠ .missing :=
      fun entry hmem hkind hvalue => hexternal ⟨entry, hmem, hkind, hvalue⟩
    have hinternal : ∃ entry ∈ node.addresses,
        entry.kind = .is "InternalIP" ∧ entry.value = .missing := by
      obtain ⟨entry, hmem, hkind, hvalue⟩ := h
      exact ⟨entry, hmem, hkind.resolve_left fun he => hpresent entry hmem he hvalue, hvalue⟩
    rw [addressesOf_of_present hpresent, addressesOf_of_lacking hinternal]
    rfl

theorem describe_of_addressed (h : ¬ node.LacksAddress) :
    (describe developMode node).2 =
      (identify developMode node).2 >>= fun identified =>
        .ok (node.described identified.1 identified.2
          (parsedOf (datumsOf "ExternalIP" node.addresses))
          (parsedOf (datumsOf "InternalIP" node.addresses))) := by
  have hexternal : ∀ entry ∈ node.addresses, entry.kind = .is "ExternalIP" →
      entry.value ≠ .missing :=
    fun entry hmem hkind hvalue => h ⟨entry, hmem, .inl hkind, hvalue⟩
  have hinternal : ∀ entry ∈ node.addresses, entry.kind = .is "InternalIP" →
      entry.value ≠ .missing :=
    fun entry hmem hkind hvalue => h ⟨entry, hmem, .inr hkind, hvalue⟩
  rw [describe_outcome, addressesOf_of_present hexternal, addressesOf_of_present hinternal]
  rfl

theorem identify_eq_ok_iff :
    (∃ identified, (identify developMode node).2 = .ok identified) ↔
      IsIdentified developMode node := by
  unfold IsIdentified
  cases hparse : parseProviderId node.providerText with
  | ok identified =>
    rw [identify_of_accepted hparse]
    simp
  | error fault =>
    obtain ⟨hplain, hlenient⟩ := identify_of_rejected hparse
    cases developMode with
    | false =>
      rw [hplain]
      simp
    | true =>
      rw [hlenient]
      simp

/-- A description fails for its node's provider id, or because an address is missing. -/
theorem describe_stumbles_iff {failed : Failed} :
    ((describe developMode node).2 = .error failed ∧ ∀ fault, failed ≠ .unresolved fault) ↔
      failed = .addressMissing ∧ IsIdentified developMode node ∧ node.LacksAddress := by
  constructor
  · intro h
    obtain ⟨herror, hother⟩ := h
    by_cases hlacks : node.LacksAddress
    · rw [describe_of_lacking hlacks] at herror
      rcases bind_eq_error_iff.mp herror with hidentify | ⟨identified, hidentify, hmissing⟩
      · obtain ⟨fault, hfault⟩ := identify_resolution developMode node failed hidentify
        exact absurd hfault (hother fault)
      · exact ⟨(Except.error.inj hmissing).symm, identify_eq_ok_iff.mp ⟨_, hidentify⟩, hlacks⟩
    · rw [describe_of_addressed hlacks] at herror
      rcases bind_eq_error_iff.mp herror with hidentify | ⟨identified, -, hok⟩
      · obtain ⟨fault, hfault⟩ := identify_resolution developMode node failed hidentify
        exact absurd hfault (hother fault)
      · simp at hok
  · intro h
    obtain ⟨rfl, hid, hlacks⟩ := h
    obtain ⟨identified, hidentify⟩ := identify_eq_ok_iff.mpr hid
    refine ⟨?_, by simp⟩
    rw [describe_of_lacking hlacks, hidentify]
    rfl

end

/-! ## Searches by host name -/

/-- The names of nodes are not told if one is missing, nor if one is null. -/
theorem namesOf_eq_error_iff {nodes : List RawNode} {failed : Failed} :
    namesOf nodes = .error failed ↔
      (failed = .nameMissing ∧ ∃ node ∈ nodes, node.name = .missing) ∨
      (failed = .nameNull ∧ (∃ node ∈ nodes, node.name = .null) ∧
        ∀ node ∈ nodes, node.name ≠ .missing) := by
  have hpresent : (∀ node ∈ nodes, node.name ≠ .missing) ↔
      ¬ ∃ node ∈ nodes, node.name = .missing := by
    simp
  rw [namesOf_eq, hpresent]
  by_cases hmissing : ∃ node ∈ nodes, node.name = .missing
  · rw [if_pos hmissing, Except.error.injEq, eq_comm]
    simp [hmissing]
  · rw [if_neg hmissing]
    by_cases hnull : ∃ node ∈ nodes, node.name = .null
    · rw [if_pos hnull, Except.error.injEq, eq_comm]
      simp [hmissing, hnull]
    · rw [if_neg hnull]
      simp [hmissing, hnull]

section

variable {api : Api} {nodeName hostname : String}

theorem findByHostname_of_few {nodes : Option (List RawNode)}
    (listed : api.list (hostnameSelector hostname) = .ok nodes) (few : (nodes.getD []).length < 2) :
    IsResolution (findByHostname api hostname) := by
  unfold findByHostname
  simp only [listed]
  match hnodes : nodes.getD [] with
  | [] => exact .unresolved _
  | [node] => exact .ok node
  | first :: second :: rest =>
    rw [hnodes, List.length_cons, List.length_cons] at few
    omega

theorem findByHostname_of_several {nodes : List RawNode}
    (listed : api.list (hostnameSelector hostname) = .ok (some nodes))
    (several : 2 ≤ nodes.length) :
    findByHostname api hostname = namesOf nodes >>= fun names =>
      .error (.unresolved (.manyLabelled (hostnameSelector hostname) (sortTexts names))) := by
  unfold findByHostname
  simp only [listed]
  match nodes, several with
  | first :: second :: rest, _ =>
    simp only [Option.getD_some]
    cases namesOf (first :: second :: rest) <;> rfl

end

/-! ## Lookups -/

section

variable (api : Api) (nodeName hostname : String) (developMode : Bool)

/-- Whether a cluster tells of a node as the one that is looked for: it answers with it to the name,
or lists it alone under the host name. -/
def IsTold (node : RawNode) : Prop :=
  if nodeName = "" then api.list (hostnameSelector hostname) = .ok (some [node])
  else api.read nodeName = .ok node

/-- Whether a cluster lists several nodes, and no other ones, as those that carry the host name. -/
def AreRivals (nodes : List RawNode) : Prop :=
  nodeName = "" ∧ api.list (hostnameSelector hostname) = .ok (some nodes) ∧ 2 ≤ nodes.length

/-- The ways in which a lookup ends for want of data, without a fault of its own. -/
inductive Stumbles : Failed → Prop
  | address (node : RawNode) (told : IsTold api nodeName hostname node)
    (identified : IsIdentified developMode node) (lacks : node.LacksAddress) :
    Stumbles .addressMissing
  | name (nodes : List RawNode) (rivals : AreRivals api nodeName hostname nodes)
    (missing : ∃ node ∈ nodes, node.name = .missing) : Stumbles .nameMissing
  | nullName (nodes : List RawNode) (rivals : AreRivals api nodeName hostname nodes)
    (null : ∃ node ∈ nodes, node.name = .null) (present : ∀ node ∈ nodes, node.name ≠ .missing) :
    Stumbles .nameNull

variable {api nodeName hostname developMode}

theorem foundNode_eq_ok_iff {node : RawNode} :
    foundNode api nodeName hostname = .ok node ↔ IsTold api nodeName hostname node := by
  unfold foundNode IsTold
  split
  · refine ⟨findByHostname_eq_ok, fun h => ?_⟩
    simp [findByHostname, h]
  · refine ⟨readByName_eq_ok, fun h => ?_⟩
    simp [readByName, h]

/-- The names of rivals are told in a fault of the lookup's own, if all of them have one. -/
theorem foundNode_of_rivals {nodes : List RawNode}
    (rivals : AreRivals api nodeName hostname nodes) :
    foundNode api nodeName hostname = namesOf nodes >>= fun names =>
      .error (.unresolved (.manyLabelled (hostnameSelector hostname) (sortTexts names))) := by
  obtain ⟨asked, listed, several⟩ := rivals
  rw [foundNode, if_pos asked, findByHostname_of_several listed several]

/-- A search that is answered and is no search among rivals finds a node or fails by a fault of its
own. -/
theorem foundNode_resolution (answered : api.fault? (lookupCall nodeName hostname) = none)
    (h : ∀ nodes, ¬ AreRivals api nodeName hostname nodes) :
    IsResolution (foundNode api nodeName hostname) := by
  unfold foundNode
  unfold lookupCall at answered
  by_cases hname : nodeName = ""
  · simp only [String.isEmpty_iff, hname, if_true] at answered ⊢
    cases hlist : api.list (hostnameSelector hostname) with
    | error fault =>
      rw [Api.fault?_listNodes.mpr hlist] at answered
      simp at answered
    | ok nodes =>
      refine findByHostname_of_few hlist (Nat.not_le.mp fun hmany => ?_)
      cases nodes with
      | none => simp at hmany
      | some nodes => exact h nodes ⟨hname, hlist, hmany⟩
  · simp only [String.isEmpty_iff, hname, if_false] at answered ⊢
    exact readByName_resolution (by simp [answered])

/-- An answered search that ends without a fault of its own ends at the names of rivals. -/
theorem foundNode_stumbles_iff (answered : api.fault? (lookupCall nodeName hostname) = none)
    {failed : Failed} :
    (foundNode api nodeName hostname = .error failed ∧ ∀ fault, failed ≠ .unresolved fault) ↔
      ∃ nodes, AreRivals api nodeName hostname nodes ∧ namesOf nodes = .error failed := by
  constructor
  · intro h
    obtain ⟨hfound, hother⟩ := h
    by_cases hrivals : ∃ nodes, AreRivals api nodeName hostname nodes
    · obtain ⟨nodes, rivals⟩ := hrivals
      rw [foundNode_of_rivals rivals, bind_eq_error_iff] at hfound
      rcases hfound with hnames | ⟨names, -, hmany⟩
      · exact ⟨nodes, rivals, hnames⟩
      · exact absurd (Except.error.inj hmany).symm (hother _)
    · obtain ⟨fault, hfault⟩ :=
        foundNode_resolution answered (not_exists.mp hrivals) failed hfound
      exact absurd hfault (hother fault)
  · intro h
    obtain ⟨nodes, rivals, hnames⟩ := h
    constructor
    · rw [foundNode_of_rivals rivals, hnames]
      rfl
    · rintro fault rfl
      exact namesOf_not_unresolved nodes hnames

/-- What an answered lookup comes to if not to a descriptor or to a fault of its own. -/
theorem lookup_stumbles_iff (answered : api.fault? (lookupCall nodeName hostname) = none)
    {failed : Failed} :
    ((lookup api nodeName hostname developMode).outcome = .error failed ∧
        ∀ fault, failed ≠ .unresolved fault) ↔
      Stumbles api nodeName hostname developMode failed := by
  have houtcome := lookup_outcome api nodeName hostname developMode
  rw [← foundNode] at houtcome
  rw [houtcome, bind_eq_error_iff]
  constructor
  · intro h
    obtain ⟨hfound | ⟨node, hfound, hdescribe⟩, hother⟩ := h
    · obtain ⟨nodes, rivals, hnames⟩ := (foundNode_stumbles_iff answered).mp ⟨hfound, hother⟩
      rcases namesOf_eq_error_iff.mp hnames with ⟨rfl, missing⟩ | ⟨rfl, null, present⟩
      · exact .name nodes rivals missing
      · exact .nullName nodes rivals null present
    · obtain ⟨rfl, identified, lacks⟩ := describe_stumbles_iff.mp ⟨hdescribe, hother⟩
      exact .address node (foundNode_eq_ok_iff.mp hfound) identified lacks
  · intro h
    have search : ∀ nodes, AreRivals api nodeName hostname nodes →
        namesOf nodes = .error failed →
        foundNode api nodeName hostname = .error failed ∧ ∀ fault, failed ≠ .unresolved fault :=
      fun nodes rivals hnames => (foundNode_stumbles_iff answered).mpr ⟨nodes, rivals, hnames⟩
    cases h with
    | address node told identified lacks =>
      obtain ⟨hdescribe, hother⟩ := describe_stumbles_iff.mpr ⟨rfl, identified, lacks⟩
      exact ⟨.inr ⟨node, foundNode_eq_ok_iff.mpr told, hdescribe⟩, hother⟩
    | name nodes rivals missing =>
      obtain ⟨hfound, hother⟩ :=
        search nodes rivals (namesOf_eq_error_iff.mpr (.inl ⟨rfl, missing⟩))
      exact ⟨.inl hfound, hother⟩
    | nullName nodes rivals null present =>
      obtain ⟨hfound, hother⟩ :=
        search nodes rivals (namesOf_eq_error_iff.mpr (.inr ⟨rfl, null, present⟩))
      exact ⟨.inl hfound, hother⟩

/-- What develop mode makes of a node: a descriptor with every address that can be read, unless an
address is missing. -/
inductive DescribedLeniently (node : RawNode) : Except Failed Descriptor → Prop
  | told (descriptor : Descriptor) (addressed : ¬ node.LacksAddress)
    (externalIps : descriptor.externalIps = parsedOf (datumsOf "ExternalIP" node.addresses))
    (internalIps : descriptor.internalIps = parsedOf (datumsOf "InternalIP" node.addresses)) :
    DescribedLeniently node (.ok descriptor)
  | lacking (lacks : node.LacksAddress) : DescribedLeniently node (.error .addressMissing)

theorem describe_lenient (node : RawNode) : DescribedLeniently node (describe true node).2 := by
  obtain ⟨identified, hidentify⟩ := identify_eq_ok_iff.mpr (.inl rfl : IsIdentified true node)
  by_cases hlacks : node.LacksAddress
  · rw [describe_of_lacking hlacks, hidentify]
    exact .lacking hlacks
  · rw [describe_of_addressed hlacks, hidentify]
    exact .told _ hlacks rfl rfl

/-- A lookup whose call is answered comes to a descriptor or to a fault of its own, whatever is
missing from the answer, unless it stumbles over an address or a name; then it ends with no more
than that. A node by itself is always described in develop mode, unless an address is missing. -/
theorem lookup_survives_gaps_iff (answered : api.fault? (lookupCall nodeName hostname) = none) :
    (IsResolution (lookup api nodeName hostname developMode).outcome ↔
        ∀ failed, ¬ Stumbles api nodeName hostname developMode failed) ∧
      (∀ failed, Stumbles api nodeName hostname developMode failed →
        (lookup api nodeName hostname developMode).outcome = .error failed) ∧
      ∀ node, DescribedLeniently node (describe true node).2 := by
  refine ⟨⟨?_, ?_⟩, ?_, describe_lenient⟩
  · intro hresolved failed stumbles
    obtain ⟨houtcome, hother⟩ := (lookup_stumbles_iff answered).mpr stumbles
    obtain ⟨fault, hfault⟩ := hresolved failed houtcome
    exact hother fault hfault
  · intro hnone failed houtcome
    by_cases hfault : ∃ fault, failed = .unresolved fault
    · exact hfault
    · have hother : ∀ fault, failed ≠ .unresolved fault := not_exists.mp hfault
      exact absurd ((lookup_stumbles_iff answered).mp ⟨houtcome, hother⟩) (hnone failed)
  · intro failed stumbles
    exact ((lookup_stumbles_iff answered).mpr stumbles).1

end

/-- A node of the host that has a type but nothing else for one of its addresses. -/
def gappedNode : RawNode where
  metadata := .is { name := .is "worker", labels := .is [("kubernetes.io/hostname", "h")] }
  status := .is { addresses := .is [{ kind := .is "ExternalIP" }] }

/-- A node of the host that has a null for its name. -/
def namelessNode : RawNode where
  metadata := .is { name := .null, labels := .is [("kubernetes.io/hostname", "h")] }

def gappedApi : Api := ({ nodes := [gappedNode, namelessNode] } : Cluster).api

/-- By its name the node is found that lacks an address, and by the host name it has a rival without
a name. The rival is described all the same. -/
theorem lookup_survives_gaps_of_host :
    gappedApi.fault? (lookupCall "worker" "h") = none ∧
      (lookup gappedApi "worker" "h" true).outcome = .error .addressMissing ∧
      gappedApi.fault? (lookupCall "" "h") = none ∧
      (lookup gappedApi "" "h" true).outcome = .error .nameNull ∧
      DescribedLeniently namelessNode (describe true namelessNode).2 ∧
      ¬ namelessNode.LacksAddress := by
  have named : gappedApi.fault? (lookupCall "worker" "h") = none := by rfl
  have listed : gappedApi.fault? (lookupCall "" "h") = none := by rfl
  have lacks : gappedNode.LacksAddress :=
    ⟨_, List.mem_singleton.mpr rfl, .inl rfl, rfl⟩
  have rivals : AreRivals gappedApi "" "h" [gappedNode, namelessNode] := ⟨rfl, by rfl, by decide⟩
  have null : ∃ node ∈ [gappedNode, namelessNode], node.name = .null :=
    ⟨namelessNode, by simp, rfl⟩
  have present : ∀ node ∈ [gappedNode, namelessNode], node.name ≠ .missing := by
    simp [RawNode.name, gappedNode, namelessNode, Attribute.through]
  obtain ⟨-, stumble, lenient⟩ := lookup_survives_gaps_iff named
  refine ⟨named, ?_, listed, ?_, ?_, ?_⟩
  · exact stumble _ (.address gappedNode (by rfl) (.inl rfl) lacks)
  · exact (lookup_survives_gaps_iff listed).2.1 _ (.nullName _ rivals null present)
  · exact lenient namelessNode
  · intro h
    obtain ⟨entry, hentry, -⟩ := h
    simp [RawNode.addresses, namelessNode, Attribute.through, Attribute.value?] at hentry

end NodeAgent.Node
