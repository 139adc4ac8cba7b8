import NodeAgent.Node.Lookup
import NodeAgent.Proofs.Node.Addresses
import NodeAgent.Proofs.Outcome
/-!
What a lookup does beside finding its node: the one call that it makes and what it logs; and what
comes of it. A lookup in a cluster that answers with whole nodes comes to a descriptor or to a fault
of its own, unless its call fails for a bad value: that failure it passes on as it is.

Main results: `lookup_resolution`, the outcome where nodes are whole; `lookup_of_bad_value`, the
failure that is passed on.
-/

namespace NodeAgent.Node

/-! ## The course of a lookup -/

section

variable (api : Api) (nodeName hostname : String) (developMode : Bool)

/-- The node that a lookup finds. No mode has a part in it. -/
def foundNode : Except Failed RawNode :=
  if nodeName = "" then findByHostname api hostname else readByName api nodeName

/-- What a lookup logs before it asks for its node. -/
def searchEvents : List Log.Event := if nodeName = "" then [hostnameEvent hostname] else []

/-- A lookup asks, and then describes what it finds. -/
theorem lookup_eq :
    lookup api nodeName hostname developMode =
      match foundNode api nodeName hostname with
      | .error failed =>
        { calls := [lookupCall nodeName hostname], events := searchEvents nodeName hostname
          outcome := .error failed }
      | .ok node =>
        { calls := [lookupCall nodeName hostname]
          events := searchEvents nodeName hostname ++ (describe developMode node).1
          outcome := (describe developMode node).2 } := by
  unfold lookup foundNode searchEvents
  by_cases h : nodeName = ""
  · cases findByHostname api hostname <;> simp only [String.isEmpty_iff, h, if_true]
  · cases readByName api nodeName <;> simp only [String.isEmpty_iff, h, if_false]

variable {api nodeName hostname}

theorem lookup_of_found {node : RawNode} (h : foundNode api nodeName hostname = .ok node) :
    lookup api nodeName hostname developMode =
      { calls := [lookupCall nodeName hostname]
        events := searchEvents nodeName hostname ++ (describe developMode node).1
        outcome := (describe developMode node).2 } := by
  rw [lookup_eq, h]

theorem lookup_of_not_found {failed : Failed}
    (h : foundNode api nodeName hostname = .error failed) :
    lookup api nodeName hostname developMode =
      { calls := [lookupCall nodeName hostname], events := searchEvents nodeName hostname
        outcome := .error failed } := by
  rw [lookup_eq, h]

end

/-! ## What is logged -/

/-- The events that a lookup logs. -/
inductive IsNote : Log.Event → Prop
  | byHostname (hostname : String) : IsNote (hostnameEvent hostname)
  | accepted (name providerId : String) : IsNote (acceptEvent name providerId)
  | skipped (kind : String) (value : Datum) : IsNote (skipEvent kind value)

theorem addressesOf_notes (kind : String) (entries : List AddressEntry) :
    ∀ event ∈ (addressesOf kind entries).1, IsNote event := by
  intro event hevent
  obtain ⟨value, rfl⟩ := addressesOf_skips kind entries event hevent
  exact .skipped kind value

theorem identify_notes (developMode : Bool) (node : RawNode) :
    ∀ event ∈ (identify developMode node).1, IsNote event := by
  unfold identify
  split
  · simp
  · split
    · exact List.forall_mem_singleton.mpr (.accepted _ _)
    · simp

/-- A description logs what its three readings log, up to the first one that fails. -/
theorem mem_describe_events {developMode : Bool} {node : RawNode} {event : Log.Event}
    (h : event ∈ (describe developMode node).1) :
    event ∈ (identify developMode node).1 ∨
      event ∈ (addressesOf "ExternalIP" node.addresses).1 ∨
      event ∈ (addressesOf "InternalIP" node.addresses).1 := by
  unfold describe at h
  generalize identify developMode node = identified at h ⊢
  generalize addressesOf "ExternalIP" node.addresses = external at h ⊢
  generalize addressesOf "InternalIP" node.addresses = internal at h ⊢
  obtain ⟨events, failed | ⟨cloud, instanceId⟩⟩ := identified
  · exact .inl h
  obtain ⟨more, failed | externalIps⟩ := external
  · exact (List.mem_append.mp h).imp_right .inl
  have hmem : event ∈ events ++ more ++ internal.1 := by
    obtain ⟨last, failed | internalIps⟩ := internal <;> exact h
  rw [List.append_assoc] at hmem
  exact (List.mem_append.mp hmem).imp_right List.mem_append.mp

theorem describe_notes (developMode : Bool) (node : RawNode) :
    ∀ event ∈ (describe developMode node).1, IsNote event := by
  intro event hevent
  rcases mem_describe_events hevent with hidentify | hexternal | hinternal
  · exact identify_notes developMode node event hidentify
  · exact addressesOf_notes _ _ event hexternal
  · exact addressesOf_notes _ _ event hinternal

theorem lookup_notes (api : Api) (nodeName hostname : String) (developMode : Bool) :
    ∀ event ∈ (lookup api nodeName hostname developMode).events, IsNote event := by
  have hsearch : ∀ event ∈ searchEvents nodeName hostname, IsNote event := by
    unfold searchEvents
    split
    · exact List.forall_mem_singleton.mpr (.byHostname hostname)
    · simp
  rw [lookup_eq]
  cases foundNode api nodeName hostname with
  | error failed => exact hsearch
  | ok node => exact List.forall_mem_append.mpr ⟨hsearch, describe_notes developMode node⟩

/-! ## What comes of it -/

section

variable (api : Api) (nodeName hostname : String) (developMode : Bool)

theorem lookup_calls :
    (lookup api nodeName hostname developMode).calls = [lookupCall nodeName hostname] := by
  rw [lookup_eq]
  cases foundNode api nodeName hostname <;> rfl

/-- A lookup describes what it finds. -/
theorem lookup_outcome :
    (lookup api nodeName hostname developMode).outcome =
      (if nodeName = "" then findByHostname api hostname else readByName api nodeName) >>=
        fun node => (describe developMode node).2 := by
  rw [lookup_eq, ← foundNode]
  cases foundNode api nodeName hostname <;> rfl

/-- A description comes of three readings, one after the other. -/
theorem describe_outcome (node : RawNode) :
    (describe developMode node).2 =
      (identify developMode node).2 >>= fun identified =>
        (addressesOf "ExternalIP" node.addresses).2 >>= fun externalIps =>
          (addressesOf "InternalIP" node.addresses).2 >>= fun internalIps =>
            .ok
              { name := node.nameText, instanceId := identified.2, cloud := identified.1
                providerId := node.providerText, pool := firstLabel node poolLabels
                region := firstLabel node regionLabels, zone := firstLabel node zoneLabels
                externalIps, internalIps } := by
  unfold describe
  obtain ⟨events, failed | identified⟩ := identify developMode node
  · rfl
  obtain ⟨more, failed | externalIps⟩ := addressesOf "ExternalIP" node.addresses
  · rfl
  obtain ⟨last, failed | internalIps⟩ := addressesOf "InternalIP" node.addresses
  · rfl
  · rfl

end

/-- Whether an outcome is a result or a fault of the lookup's own. -/
def IsResolution {α : Type} (found : Except Failed α) : Prop :=
  ∀ failed, found = .error failed → ∃ fault, failed = .unresolved fault

namespace IsResolution

variable {α β : Type}

theorem ok (a : α) : IsResolution (.ok a) := FailsOnly.ok a

theorem unresolved (fault : Fault) : IsResolution (.error (.unresolved fault) : Except Failed α) :=
  FailsOnly.error ⟨fault, rfl⟩

theorem bind {found : Except Failed α} {next : α → Except Failed β} (h : IsResolution found)
    (hnext : ∀ a, found = .ok a → IsResolution (next a)) : IsResolution (found >>= next) :=
  FailsOnly.bind h hnext

end IsResolution

/-- A node that has what a lookup asks of it: its name is a text, and there is something, if only
null, for each of its addresses. -/
structure RawNode.IsWhole (node : RawNode) : Prop where
  named : ∃ name, node.name = .is name
  addressed : ∀ entry ∈ node.addresses, entry.value ≠ .missing

/-- A cluster that answers with whole nodes, where it answers with nodes. -/
structure Api.IsWhole (api : Api) : Prop where
  read : ∀ name node, api.read name = .ok node → node.IsWhole
  list : ∀ selector nodes, api.list selector = .ok (some nodes) → ∀ node ∈ nodes, node.IsWhole

/-- The fault that a call meets, if it meets one. -/
def Api.fault? (api : Api) : Call → Option CallFault
  | .readNode name =>
    match api.read name with
    | .error fault => some fault
    | .ok _ => none
  | .listNodes selector =>
    match api.list selector with
    | .error fault => some fault
    | .ok _ => none

theorem Api.fault?_readNode {api : Api} {name : String} {fault : CallFault} :
    api.fault? (.readNode name) = some fault ↔ api.read name = .error fault := by
  cases hread : api.read name <;> simp [Api.fault?, hread]

theorem Api.fault?_listNodes {api : Api} {selector : String} {fault : CallFault} :
    api.fault? (.listNodes selector) = some fault ↔ api.list selector = .error fault := by
  cases hlist : api.list selector <;> simp [Api.fault?, hlist]

theorem isExpected_of_ne_value {fault : CallFault} (h : ∀ message, fault ≠ .value message) :
    isExpected fault = true := by
  cases fault with
  | value message => exact absurd rfl (h message)
  | _ => rfl

theorem identify_resolution (developMode : Bool) (node : RawNode) :
    IsResolution (identify developMode node).2 := by
  unfold identify
  split
  · exact .ok _
  · split
    · exact .ok _
    · exact .unresolved _

/-- A whole node is described, or its provider id is at fault. -/
theorem describe_resolution (developMode : Bool) {node : RawNode} (h : node.IsWhole) :
    IsResolution (describe developMode node).2 := by
  obtain ⟨external, hexternal⟩ := addressesOf_whole "ExternalIP" h.addressed
  obtain ⟨internal, hinternal⟩ := addressesOf_whole "InternalIP" h.addressed
  rw [describe_outcome, hexternal, hinternal]
  exact (identify_resolution developMode node).bind fun _ _ => .ok _

/-- Whether the name of each node of a list is a text. -/
def AreNamed (nodes : List RawNode) : Prop := ∀ node ∈ nodes, ∃ name, node.name = .is name

/-- The names of nodes are told in full, or it is said what is wrong with one of them. -/
theorem namesOf_eq (nodes : List RawNode) :
    namesOf nodes =
      if ∃ node ∈ nodes, node.name = .missing then .error .nameMissing
      else if ∃ node ∈ nodes, node.name = .null then .error .nameNull
      else .ok (nodes.map RawNode.nameText) := by
  induction nodes with
  | nil => simp [namesOf]
  | cons node nodes ih =>
    unfold namesOf
    rw [ih]
    cases hname : node.name with
    | missing => simp [hname]
    | null =>
      by_cases hmissing : ∃ other ∈ nodes, other.name = .missing
      · simp [hname, hmissing]
      · by_cases hnull : ∃ other ∈ nodes, other.name = .null <;> simp [hname, hmissing, hnull]
    | is name =>
      have htext : node.nameText = name := by simp [RawNode.nameText, hname, Attribute.value?]
      by_cases hmissing : ∃ other ∈ nodes, other.name = .missing
      · simp [hname, hmissing, Except.map]
      · by_cases hnull : ∃ other ∈ nodes, other.name = .null <;>
          simp [hname, hmissing, hnull, htext, Except.map]

theorem namesOf_named {nodes : List RawNode} (named : AreNamed nodes) :
    namesOf nodes = .ok (nodes.map RawNode.nameText) := by
  have present : ∀ gap : Attribute String, (∀ name, gap ≠ .is name) →
      ¬ ∃ node ∈ nodes, node.name = gap := by
    intro gap hgap h
    obtain ⟨node, hnode, hname⟩ := h
    obtain ⟨name, his⟩ := named node hnode
    exact hgap name (hname.symm.trans his)
  rw [namesOf_eq, if_neg (present .missing (by simp)), if_neg (present .null (by simp))]

theorem readByName_resolution {api : Api} {name : String}
    (h : ∀ message, api.fault? (.readNode name) ≠ some (.value message)) :
    IsResolution (readByName api name) := by
  unfold readByName
  cases hread : api.read name with
  | ok node => exact .ok node
  | error fault =>
    have hexpected : isExpected fault = true :=
      isExpected_of_ne_value fun message hfault =>
        h message (Api.fault?_readNode.mpr (hfault ▸ hread))
    simp only [hexpected, if_true]
    split
    · exact .unresolved _
    · exact .unresolved _

theorem findByHostname_resolution {api : Api} {hostname : String} (whole : api.IsWhole)
    (h : ∀ message, api.fault? (.listNodes (hostnameSelector hostname)) ≠ some (.value message)) :
    IsResolution (findByHostname api hostname) := by
  unfold findByHostname
  cases hlist : api.list (hostnameSelector hostname) with
  | error fault =>
    have hexpected : isExpected fault = true :=
      isExpected_of_ne_value fun message hfault =>
        h message (Api.fault?_listNodes.mpr (hfault ▸ hlist))
    simp only [hlist, hexpected, if_true]
    exact .unresolved _
  | ok nodes =>
    have named : AreNamed (nodes.getD []) := by
      cases nodes with
      | none => simp [AreNamed]
      | some nodes => exact fun node hnode => (whole.list _ _ hlist node hnode).named
    simp only [hlist]
    split
    · exact .unresolved _
    · exact .ok _
    · simp only [namesOf_named named]
      exact .unresolved _

theorem readByName_eq_ok {api : Api} {name : String} {node : RawNode}
    (h : readByName api name = .ok node) : api.read name = .ok node := by
  unfold readByName at h
  cases hread : api.read name with
  | ok found => simpa [hread] using h
  | error fault =>
    simp only [hread] at h
    repeat' split at h
    all_goals simp at h

theorem findByHostname_eq_ok {api : Api} {hostname : String} {node : RawNode}
    (h : findByHostname api hostname = .ok node) :
    api.list (hostnameSelector hostname) = .ok (some [node]) := by
  unfold findByHostname at h
  cases hlist : api.list (hostnameSelector hostname) with
  | error fault =>
    simp only [hlist] at h
    split at h <;> simp at h
  | ok nodes =>
    simp only [hlist] at h
    split at h
    · simp at h
    · rename_i only hnodes
      cases nodes with
      | none => simp at hnodes
      | some nodes =>
        rw [← Except.ok.inj h, ← hnodes]
        rfl
    · split at h <;> simp at h

section

variable {api : Api} {nodeName hostname : String} (developMode : Bool)

/-- A lookup that is answered with whole nodes comes to a descriptor or to a fault of its own. -/
theorem lookup_resolution (whole : api.IsWhole)
    (h : ∀ message, api.fault? (lookupCall nodeName hostname) ≠ some (.value message)) :
    IsResolution (lookup api nodeName hostname developMode).outcome := by
  rw [lookup_outcome]
  unfold lookupCall at h
  by_cases hname : nodeName = ""
  · simp only [hname, if_true] at h ⊢
    refine (findByHostname_resolution whole h).bind fun node hnode => ?_
    have hlisted := findByHostname_eq_ok hnode
    exact describe_resolution developMode
      (whole.list _ _ hlisted node (List.mem_singleton_self node))
  · simp only [String.isEmpty_iff, hname, if_false] at h ⊢
    refine (readByName_resolution h).bind fun node hnode => ?_
    exact describe_resolution developMode (whole.read _ _ (readByName_eq_ok hnode))

/-- A call that fails for a bad value fails the lookup as it is. -/
theorem lookup_of_bad_value {message : String}
    (h : api.fault? (lookupCall nodeName hostname) = some (.value message)) :
    (lookup api nodeName hostname developMode).outcome = .error (.call (.value message)) := by
  rw [lookup_outcome]
  unfold lookupCall at h
  by_cases hname : nodeName = ""
  · simp only [hname, if_true] at h ⊢
    rw [findByHostname, Api.fault?_listNodes.mp h]
    rfl
  · simp only [String.isEmpty_iff, hname, if_false] at h ⊢
    rw [readByName, Api.fault?_readNode.mp h]
    rfl

end

end NodeAgent.Node
