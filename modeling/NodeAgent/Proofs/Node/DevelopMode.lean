import NodeAgent.Proofs.Node.Lookup
/-!
Develop mode beside the plain mode of a lookup. It lets a node pass whose provider id names no
instance of a supported cloud, and says so in one warning. Of such a node it tells all that does not
come from the provider id as it would be told with any other one. Every other lookup, one that fails
for another reason among them, is the same in both modes.

Main results: `letsPass_of_rejected`, the one lookup in which the modes differ;
`develop_mode_extends_plain`, all lookups.
-/

namespace NodeAgent

namespace Log

/-- The events of a level. -/
def eventsOf (level : Level) (events : List Event) : List Event :=
  events.filter fun event => event.level = level

theorem no_warning_of_debug {events : List Event} (h : ∀ event ∈ events, event.level = .debug) :
    eventsOf .warning events = [] := by
  refine List.filter_eq_nil_iff.mpr ?_
  intro event hevent
  simp [h event hevent]

end Log

namespace Node

/-! ## Searches -/

theorem readByName_not_provider {api : Api} {name : String} {fault : ProviderFault} :
    readByName api name ≠ .error (.unresolved (.provider fault)) := by
  intro h
  unfold readByName at h
  split at h
  · simp at h
  · split at h
    · split at h <;> simp at h
    · simp at h

theorem namesOf_not_unresolved {fault : Fault} (nodes : List RawNode) :
    namesOf nodes ≠ .error (.unresolved fault) := by
  rw [namesOf_eq]
  split
  · simp
  · split <;> simp

theorem findByHostname_not_provider {api : Api} {hostname : String} {fault : ProviderFault} :
    findByHostname api hostname ≠ .error (.unresolved (.provider fault)) := by
  intro h
  unfold findByHostname at h
  dsimp only at h
  split at h
  · split at h <;> simp at h
  · split at h
    · simp at h
    · simp at h
    · split at h
      · simp at h
      · rename_i failed hnames
        rw [Except.error.inj h] at hnames
        exact namesOf_not_unresolved _ hnames

/-! ## Its description -/

namespace RawNode

/-- A node of another provider id. -/
def withProvider (node : RawNode) (providerId : String) : RawNode :=
  { node with spec := .is { providerId := .is providerId } }

/-- Whether there is something, if only null, for each address of a node. -/
def IsAddressed (node : RawNode) : Prop := ∀ entry ∈ node.addresses, entry.value ≠ .missing

/-- What is logged of the addresses of a node. -/
def addressEvents (node : RawNode) : List Log.Event :=
  (addressesOf "ExternalIP" node.addresses).1 ++ (addressesOf "InternalIP" node.addresses).1

theorem addressEvents_debug (node : RawNode) :
    ∀ event ∈ node.addressEvents, event.level = .debug := by
  have hskips : ∀ kind, ∀ event ∈ (addressesOf kind node.addresses).1, event.level = .debug := by
    intro kind event hevent
    obtain ⟨value, rfl⟩ := addressesOf_skips kind node.addresses event hevent
    rfl
  exact List.forall_mem_append.mpr ⟨hskips "ExternalIP", hskips "InternalIP"⟩

end RawNode

section

variable {developMode : Bool} {node : RawNode}

theorem identify_of_accepted {cloud : Cloud} {instanceId : String}
    (h : parseProviderId node.providerText = .ok (cloud, instanceId)) :
    identify developMode node = ([], .ok (some cloud, instanceId)) := by
  simp only [identify, h]

theorem identify_of_rejected {fault : ProviderFault}
    (h : parseProviderId node.providerText = .error fault) :
    identify false node = ([], .error (.unresolved (.provider fault))) ∧
      identify true node =
        ([acceptEvent node.nameText node.providerText], .ok (none, node.nameText)) := by
  simp [identify, h]

/-- A description hangs on the mode through what it takes for the cloud and the instance only. -/
theorem describe_congr {other : Bool} (h : identify developMode node = identify other node) :
    describe developMode node = describe other node := by
  simp only [describe, h]

/-- Without develop mode nothing is logged of a node but the addresses that are passed over. -/
theorem describe_plain_debug : ∀ event ∈ (describe false node).1, event.level = .debug := by
  intro event hevent
  rcases mem_describe_events hevent with hidentify | haddress
  · unfold identify at hidentify
    split at hidentify <;> simp at hidentify
  · exact node.addressEvents_debug event (List.mem_append.mpr haddress)

/-- The descriptor of a node whose cloud, instance and addresses are settled. -/
def RawNode.described (node : RawNode) (cloud : Option Cloud) (instanceId : String)
    (externalIps internalIps : List Address) : Descriptor where
  name := node.nameText
  instanceId := instanceId
  cloud := cloud
  providerId := node.providerText
  pool := firstLabel node poolLabels
  region := firstLabel node regionLabels
  zone := firstLabel node zoneLabels
  externalIps := externalIps
  internalIps := internalIps

theorem describe_of_identified {events : List Log.Event} {cloud : Option Cloud}
    {instanceId : String} {externalIps internalIps : List Address}
    (identified : identify developMode node = (events, .ok (cloud, instanceId)))
    (external : (addressesOf "ExternalIP" node.addresses).2 = .ok externalIps)
    (internal : (addressesOf "InternalIP" node.addresses).2 = .ok internalIps) :
    describe developMode node =
      (events ++ node.addressEvents,
        .ok (node.described cloud instanceId externalIps internalIps)) := by
  have hexternal : addressesOf "ExternalIP" node.addresses =
      ((addressesOf "ExternalIP" node.addresses).1, .ok externalIps) := Prod.ext rfl external
  have hinternal : addressesOf "InternalIP" node.addresses =
      ((addressesOf "InternalIP" node.addresses).1, .ok internalIps) := Prod.ext rfl internal
  unfold describe
  rw [identified, hexternal, hinternal]
  simp [RawNode.addressEvents, RawNode.described]

end

/-! ## The two modes -/

section

variable (api : Api) (nodeName hostname : String)

/-- The lookup of a node without develop mode. -/
def plainLookup : Lookup := lookup api nodeName hostname false

/-- The lookup of a node in develop mode. -/
def lenientLookup : Lookup := lookup api nodeName hostname true

/-- What develop mode makes of a lookup whose node is rejected for its provider id. -/
structure LetsPass (fault : ProviderFault) (node : RawNode) (descriptor : Descriptor) : Prop where
  found : foundNode api nodeName hostname = .ok node
  rejected : parseProviderId node.providerText = .error fault
  outcome : (lenientLookup api nodeName hostname).outcome = .ok descriptor
  name : descriptor.name = node.nameText
  cloud : descriptor.cloud = none ∧ cloudName descriptor.cloud = "unknown"
  instanceId : descriptor.instanceId = node.nameText
  providerId : descriptor.providerId = node.providerText
  calls : (lenientLookup api nodeName hostname).calls = (plainLookup api nodeName hostname).calls
  warning : Log.eventsOf .warning (lenientLookup api nodeName hostname).events =
    [acceptEvent node.nameText node.providerText]
  /-- With a provider id that is accepted the node would be told of alike, but for what comes from
  the provider id, and without the warning. -/
  as_accepted : ∀ providerId cloud instanceId developMode,
    parseProviderId providerId = .ok (cloud, instanceId) →
      ∃ events,
        describe developMode (node.withProvider providerId) =
          (events, .ok { descriptor with providerId, cloud := some cloud, instanceId }) ∧
        (lenientLookup api nodeName hostname).events =
          (plainLookup api nodeName hostname).events ++
            acceptEvent node.nameText node.providerText :: events

/-- Develop mode extends the plain mode: it only ever turns a rejected provider id into a
descriptor. -/
structure ExtendsPlain : Prop where
  resolved : ∀ descriptor, (plainLookup api nodeName hostname).outcome = .ok descriptor →
    lenientLookup api nodeName hostname = plainLookup api nodeName hostname ∧
      Log.eventsOf .warning (lenientLookup api nodeName hostname).events = []
  rejected : ∀ fault,
    (plainLookup api nodeName hostname).outcome = .error (.unresolved (.provider fault)) →
    ∃ node descriptor, LetsPass api nodeName hostname fault node descriptor
  failed : ∀ failed, (plainLookup api nodeName hostname).outcome = .error failed →
    (∀ fault, failed ≠ .unresolved (.provider fault)) →
    lenientLookup api nodeName hostname = plainLookup api nodeName hostname

theorem searchEvents_debug : ∀ event ∈ searchEvents nodeName hostname, event.level = .debug := by
  unfold searchEvents
  split
  · exact List.forall_mem_singleton.mpr rfl
  · simp

variable {api nodeName hostname}

/-- Without develop mode a lookup gives no warning. -/
theorem plainLookup_quiet :
    Log.eventsOf .warning (plainLookup api nodeName hostname).events = [] := by
  have hdebug : ∀ event ∈ (plainLookup api nodeName hostname).events, event.level = .debug := by
    rw [plainLookup, lookup_eq]
    cases foundNode api nodeName hostname with
    | error failed => exact searchEvents_debug nodeName hostname
    | ok node =>
      exact List.forall_mem_append.mpr ⟨searchEvents_debug nodeName hostname, describe_plain_debug⟩
  exact Log.no_warning_of_debug hdebug

/-- A search for a node fails for no provider id. -/
theorem foundNode_not_provider (fault : ProviderFault) :
    foundNode api nodeName hostname ≠ .error (.unresolved (.provider fault)) := by
  intro h
  unfold foundNode at h
  split at h
  · exact findByHostname_not_provider h
  · exact readByName_not_provider h

theorem lookups_agree_of_not_found {failed : Failed}
    (h : foundNode api nodeName hostname = .error failed) :
    lenientLookup api nodeName hostname = plainLookup api nodeName hostname := by
  rw [lenientLookup, plainLookup, lookup_of_not_found _ h, lookup_of_not_found _ h]

theorem lookups_agree_of_accepted {node : RawNode} {cloud : Cloud} {instanceId : String}
    (h : foundNode api nodeName hostname = .ok node)
    (accepted : parseProviderId node.providerText = .ok (cloud, instanceId)) :
    lenientLookup api nodeName hostname = plainLookup api nodeName hostname := by
  have hdescribe : describe true node = describe false node :=
    describe_congr ((identify_of_accepted accepted).trans (identify_of_accepted accepted).symm)
  rw [lenientLookup, plainLookup, lookup_of_found _ h, lookup_of_found _ h, hdescribe]

theorem plainLookup_of_rejected {node : RawNode} {fault : ProviderFault}
    (h : foundNode api nodeName hostname = .ok node)
    (rejected : parseProviderId node.providerText = .error fault) :
    plainLookup api nodeName hostname =
      { calls := [lookupCall nodeName hostname], events := searchEvents nodeName hostname
        outcome := .error (.unresolved (.provider fault)) } := by
  have hdescribe : describe false node = ([], .error (.unresolved (.provider fault))) := by
    simp only [describe, (identify_of_rejected rejected).1]
  rw [plainLookup, lookup_of_found _ h, hdescribe, List.append_nil]

theorem letsPass_of_rejected {node : RawNode} {fault : ProviderFault}
    (h : foundNode api nodeName hostname = .ok node)
    (rejected : parseProviderId node.providerText = .error fault) (addressed : node.IsAddressed) :
    ∃ descriptor, LetsPass api nodeName hostname fault node descriptor := by
  obtain ⟨externalIps, hexternal⟩ := addressesOf_whole "ExternalIP" addressed
  obtain ⟨internalIps, hinternal⟩ := addressesOf_whole "InternalIP" addressed
  have hplain := plainLookup_of_rejected h rejected
  have hlenient : lenientLookup api nodeName hostname =
      { calls := [lookupCall nodeName hostname]
        events := searchEvents nodeName hostname ++
          acceptEvent node.nameText node.providerText :: node.addressEvents
        outcome := .ok (node.described none node.nameText externalIps internalIps) } := by
    rw [lenientLookup, lookup_of_found _ h,
      describe_of_identified (identify_of_rejected rejected).2 hexternal hinternal]
    rfl
  refine ⟨node.described none node.nameText externalIps internalIps, ?_⟩
  exact
    { found := h
      rejected
      outcome := by rw [hlenient]
      name := rfl
      cloud := ⟨rfl, rfl⟩
      instanceId := rfl
      providerId := rfl
      calls := by rw [hlenient, hplain]
      warning := by
        have hsearch := Log.no_warning_of_debug (searchEvents_debug nodeName hostname)
        have haddresses := Log.no_warning_of_debug node.addressEvents_debug
        unfold Log.eventsOf at hsearch haddresses ⊢
        rw [hlenient, List.filter_append, hsearch, List.filter_cons_of_pos (by rfl), haddresses]
        rfl
      as_accepted := by
        intro providerId cloud instanceId developMode accepted
        refine ⟨node.addressEvents, ?_, by rw [hlenient, hplain]⟩
        have hidentify : identify developMode (node.withProvider providerId) =
            ([], .ok (cloud, instanceId)) := identify_of_accepted accepted
        exact describe_of_identified hidentify hexternal hinternal }

/-- A lookup that fails for a provider id has found the node of it. -/
theorem rejected_of_plainLookup {fault : ProviderFault}
    (addressed : ∀ node, foundNode api nodeName hostname = .ok node → node.IsAddressed)
    (h : (plainLookup api nodeName hostname).outcome = .error (.unresolved (.provider fault))) :
    ∃ node, foundNode api nodeName hostname = .ok node ∧
      parseProviderId node.providerText = .error fault := by
  rw [plainLookup, lookup_eq] at h
  cases hfound : foundNode api nodeName hostname with
  | error failed =>
    simp only [hfound, Except.error.injEq] at h
    exact absurd (h ▸ hfound) (foundNode_not_provider fault)
  | ok node =>
    simp only [hfound] at h
    refine ⟨node, rfl, ?_⟩
    cases hparse : parseProviderId node.providerText with
    | ok identified =>
      obtain ⟨externalIps, hexternal⟩ := addressesOf_whole "ExternalIP" (addressed node hfound)
      obtain ⟨internalIps, hinternal⟩ := addressesOf_whole "InternalIP" (addressed node hfound)
      rw [describe_of_identified (identify_of_accepted hparse) hexternal hinternal] at h
      simp at h
    | error other =>
      simp only [describe, (identify_of_rejected hparse).1] at h
      simpa using h

variable (api nodeName hostname)

/-- Whatever a cluster answers, if only there is something for each address of the node that is
found, develop mode extends the plain mode. -/
theorem develop_mode_extends_plain
    (addressed : ∀ node, foundNode api nodeName hostname = .ok node → node.IsAddressed) :
    ExtendsPlain api nodeName hostname := by
  -- The modes part only where a node is found and its provider id is rejected.
  have agree : (∀ fault, (plainLookup api nodeName hostname).outcome ≠
      .error (.unresolved (.provider fault))) →
      lenientLookup api nodeName hostname = plainLookup api nodeName hostname := by
    intro hplain
    cases hfound : foundNode api nodeName hostname with
    | error failed => exact lookups_agree_of_not_found hfound
    | ok node =>
      cases hparse : parseProviderId node.providerText with
      | ok identified => exact lookups_agree_of_accepted hfound hparse
      | error fault => exact absurd (by rw [plainLookup_of_rejected hfound hparse]) (hplain fault)
  exact
    { resolved := by
        intro descriptor houtcome
        have hagree := agree (by simp [houtcome])
        exact ⟨hagree, by rw [hagree]; exact plainLookup_quiet⟩
      rejected := by
        intro fault houtcome
        obtain ⟨node, hfound, hparse⟩ := rejected_of_plainLookup addressed houtcome
        exact ⟨node, letsPass_of_rejected hfound hparse (addressed node hfound)⟩
      failed := by
        intro failed houtcome hother
        refine agree fun fault hprovider => hother fault ?_
        rw [houtcome] at hprovider
        exact Except.error.inj hprovider }

end

/-- A node of a local cluster: it has no provider id, and one of its addresses is none. -/
def localNode : RawNode where
  metadata := .is { name := .is "worker", labels := .is [("node.kubernetes.io/pool", "pool")] }
  spec := .is { providerId := .null }
  status := .is { addresses := .is [{ kind := .is "ExternalIP", value := .is (.text "none") }] }

def localApi : Api := ({ nodes := [localNode] } : Cluster).api

/-- A node without a provider id is rejected without develop mode and let pass in it. -/
theorem develop_mode_extends_plain_local :
    (∀ node, foundNode localApi "worker" "h" = .ok node → node.IsAddressed) ∧
      (plainLookup localApi "worker" "h").outcome =
        .error (.unresolved (.provider (.unsupported ""))) ∧
      ∃ descriptor, (lenientLookup localApi "worker" "h").outcome = .ok descriptor ∧
        cloudName descriptor.cloud = "unknown" ∧ descriptor.instanceId = "worker" ∧
        descriptor.providerId = "" ∧ descriptor.pool = "pool" ∧
        (lenientLookup localApi "worker" "h").events.map Log.Event.level = [.warning, .debug] := by
  have hfound : foundNode localApi "worker" "h" = .ok localNode := by rfl
  have addressed : ∀ node, foundNode localApi "worker" "h" = .ok node → node.IsAddressed := by
    intro node hnode
    rw [← Except.ok.inj (hfound.symm.trans hnode)]
    simp [RawNode.IsAddressed, RawNode.addresses, localNode, Attribute.through, Attribute.value?]
  have hplain : (plainLookup localApi "worker" "h").outcome =
      .error (.unresolved (.provider (.unsupported ""))) := by rfl
  obtain ⟨node, descriptor, passes⟩ :=
    (develop_mode_extends_plain localApi "worker" "h" addressed).rejected _ hplain
  have hnode : node = localNode := Except.ok.inj (passes.found.symm.trans hfound)
  subst hnode
  have hlenient : (lenientLookup localApi "worker" "h").outcome =
      .ok (localNode.described none "worker" [] []) := by rfl
  have hpool : descriptor.pool = "pool" := by
    rw [← Except.ok.inj (hlenient.symm.trans passes.outcome)]
    rfl
  exact ⟨addressed, hplain, descriptor, passes.outcome, passes.cloud.2, passes.instanceId,
    passes.providerId, hpool, by rfl⟩

end Node

end NodeAgent
