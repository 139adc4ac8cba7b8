import NodeAgent.Proofs.Node.Lookup
/-!
Looking up a node by its host name. The cluster is asked once, for the nodes whose label holds the
name. One such node is the node that is meant; if there is none or more than one, the lookup fails
and says so. The order in which the cluster lists its nodes does not matter.

Main results: `findByHostname_none`, `findByHostname_one` and `findByHostname_many`, by the number
of carriers; `lookup_takes_only_carrier`, the lookup as a whole.
-/

namespace NodeAgent.Node

/-! ## Names in order -/

theorem insertText_perm (text : String) (texts : List String) :
    (insertText text texts).Perm (text :: texts) := by
  induction texts with
  | nil => exact .refl _
  | cons other rest ih =>
    unfold insertText
    split
    · exact .refl _
    · exact (ih.cons other).trans (.swap text other rest)

theorem sortTexts_perm (texts : List String) : (sortTexts texts).Perm texts := by
  induction texts with
  | nil => exact .refl _
  | cons text rest ih => exact (insertText_perm text (sortTexts rest)).trans (ih.cons text)

theorem insertText_sorted (text : String) {texts : List String} (h : texts.Pairwise (· ≤ ·)) :
    (insertText text texts).Pairwise (· ≤ ·) := by
  induction texts with
  | nil => exact List.pairwise_singleton _ text
  | cons other rest ih =>
    obtain ⟨hother, hrest⟩ := List.pairwise_cons.mp h
    unfold insertText
    split
    · rename_i hlt
      have hle : text ≤ other := String.not_lt.mp (String.lt_asymm hlt)
      refine List.pairwise_cons.mpr ⟨?_, h⟩
      exact List.forall_mem_cons.mpr ⟨hle, fun next hnext => String.le_trans hle (hother next hnext)⟩
    · rename_i hle
      refine List.pairwise_cons.mpr ⟨?_, ih hrest⟩
      intro next hnext
      rcases List.mem_cons.mp ((insertText_perm text rest).mem_iff.mp hnext) with rfl | hnext
      · exact String.not_lt.mp hle
      · exact hother next hnext

theorem sortTexts_sorted (texts : List String) : (sortTexts texts).Pairwise (· ≤ ·) := by
  induction texts with
  | nil => exact .nil
  | cons text rest ih => exact insertText_sorted text ih

/-- Texts that differ in their order only are put into the same order. -/
theorem sortTexts_congr {texts others : List String} (h : texts.Perm others) :
    sortTexts texts = sortTexts others := by
  have hperm : (sortTexts texts).Perm (sortTexts others) :=
    (sortTexts_perm texts).trans (h.trans (sortTexts_perm others).symm)
  exact hperm.eq_of_pairwise (fun _ _ _ _ => String.le_antisymm) (sortTexts_sorted texts)
    (sortTexts_sorted others)

/-! ## Nodes that carry a host name -/

/-- The nodes whose label holds a host name. -/
def carriers (nodes : List RawNode) (hostname : String) : List RawNode :=
  nodes.filter fun node => node.label? "kubernetes.io/hostname" == some hostname

/-- The selector of a host name is parted where its label ends, whatever the name contains. -/
theorem splitSelector_hostname (hostname : String) :
    splitSelector (hostnameSelector hostname) = ("kubernetes.io/hostname", hostname) := by
  have hlabel : ∀ c ∈ hostnameLabel.toList, (c != '=') = true := by simp [hostnameLabel]
  have hchars : (hostnameSelector hostname).toList =
      hostnameLabel.toList ++ '=' :: hostname.toList := by
    simp [hostnameSelector]
  unfold splitSelector
  simp only [hchars, List.takeWhile_append_of_pos hlabel, List.dropWhile_append_of_pos hlabel]
  simp [hostnameLabel]

theorem list_hostname (nodes : List RawNode) (hostname : String) :
    ({ nodes } : Cluster).api.list (hostnameSelector hostname) =
      .ok (some (carriers nodes hostname)) := by
  simp [Cluster.api, Cluster.select, splitSelector_hostname, carriers]

/-! ## The node of a host name -/

section

variable {nodes : List RawNode} {hostname : String}

theorem findByHostname_none (h : carriers nodes hostname = []) :
    findByHostname ({ nodes } : Cluster).api hostname =
      .error (.unresolved (.noneLabelled (hostnameSelector hostname))) := by
  simp [findByHostname, list_hostname, h]

theorem findByHostname_one {node : RawNode} (h : carriers nodes hostname = [node]) :
    findByHostname ({ nodes } : Cluster).api hostname = .ok node := by
  simp [findByHostname, list_hostname, h]

theorem findByHostname_many (named : AreNamed nodes) (h : 2 ≤ (carriers nodes hostname).length) :
    findByHostname ({ nodes } : Cluster).api hostname =
      .error (.unresolved (.manyLabelled (hostnameSelector hostname)
        (sortTexts ((carriers nodes hostname).map RawNode.nameText)))) := by
  have hnamed : AreNamed (carriers nodes hostname) := fun node hnode =>
    named node (List.mem_filter.mp hnode).1
  unfold findByHostname
  simp only [list_hostname, Option.getD_some]
  match hcarriers : carriers nodes hostname, h with
  | first :: second :: rest, _ =>
    rw [hcarriers] at hnamed
    simp only [namesOf_named hnamed]

/-- What is found hangs on the nodes of a cluster, not on their order. -/
theorem findByHostname_congr (named : AreNamed nodes) {others : List RawNode}
    (h : nodes.Perm others) :
    findByHostname ({ nodes := others } : Cluster).api hostname =
      findByHostname ({ nodes } : Cluster).api hostname := by
  have hcarriers : (carriers nodes hostname).Perm (carriers others hostname) := h.filter _
  have hothers : AreNamed others := fun node hnode => named node (h.mem_iff.mpr hnode)
  match hfound : carriers nodes hostname with
  | [] =>
    rw [findByHostname_none hfound, findByHostname_none (List.nil_perm.mp (hfound ▸ hcarriers))]
  | [node] =>
    rw [findByHostname_one hfound,
      findByHostname_one (List.singleton_perm.mp (hfound ▸ hcarriers)).symm]
  | first :: second :: rest =>
    have hmany : 2 ≤ (carriers nodes hostname).length := by simp [hfound]
    rw [findByHostname_many named hmany,
      findByHostname_many hothers (hcarriers.length_eq ▸ hmany),
      sortTexts_congr (hcarriers.map RawNode.nameText)]

/-- The one node of a name is the one that is read by it. -/
theorem readByName_unique {node : RawNode} {name : String} (hmem : node ∈ nodes)
    (hname : node.name = .is name)
    (hunique : nodes.countP (fun other => other.name == .is name) = 1) :
    readByName ({ nodes } : Cluster).api name = .ok node := by
  obtain ⟨only, honly⟩ := List.length_eq_one_iff.mp (List.countP_eq_length_filter ▸ hunique)
  have hnode : node ∈ nodes.filter fun other => other.name == .is name :=
    List.mem_filter.mpr ⟨hmem, by simp [hname]⟩
  have hfind : ({ nodes } : Cluster).find? name = some node := by
    rw [Cluster.find?, ← List.head?_filter, honly]
    rw [honly] at hnode
    rw [List.mem_singleton.mp hnode]
    rfl
  simp [readByName, Cluster.api, hfind]

end

theorem manyLabelled_message (selector : String) (nodes : List RawNode) :
    (Fault.manyLabelled selector (sortTexts (nodes.map RawNode.nameText))).message =
      toString nodes.length ++ " nodes labelled " ++ selector ++ ": " ++
        String.intercalate ", " (sortTexts (nodes.map RawNode.nameText)) := by
  have hlength : (sortTexts (nodes.map RawNode.nameText)).length = nodes.length := by
    rw [(sortTexts_perm _).length_eq, List.length_map]
  rw [← hlength]
  rfl

/-! ## The lookup -/

section

variable (nodes : List RawNode) (hostname : String) (developMode : Bool)

/-- The lookup by a host name in a cluster with some nodes. -/
def hostLookup : Lookup := lookup ({ nodes } : Cluster).api "" hostname developMode

theorem hostLookup_outcome :
    (hostLookup nodes hostname developMode).outcome =
      findByHostname ({ nodes } : Cluster).api hostname >>=
        fun node => (describe developMode node).2 := by
  rw [hostLookup, lookup_outcome, if_pos rfl]

/-- A lookup by host name takes the only node that carries the name, by one call, in whatever order
the nodes stand. -/
structure TakesOnlyCarrier : Prop where
  call : (hostLookup nodes hostname developMode).calls =
    [.listNodes ("kubernetes.io/hostname=" ++ hostname)]
  /-- What is answered to any other call, to reading a node among them, does not matter. -/
  asks_list : ∀ api : Api,
    api.list ("kubernetes.io/hostname=" ++ hostname) = .ok (some (carriers nodes hostname)) →
    lookup api "" hostname developMode = hostLookup nodes hostname developMode
  unmatched : carriers nodes hostname = [] →
    ∃ fault, (hostLookup nodes hostname developMode).outcome = .error (.unresolved fault) ∧
      fault.kind = .nodeNotFound
  ambiguous : 2 ≤ (carriers nodes hostname).length →
    ∃ fault sorted, (hostLookup nodes hostname developMode).outcome = .error (.unresolved fault) ∧
      fault.kind = .nodeResolution ∧
      sorted.Perm ((carriers nodes hostname).map RawNode.nameText) ∧ sorted.Pairwise (· ≤ ·) ∧
      fault.message = toString (carriers nodes hostname).length ++
        " nodes labelled " ++ hostnameSelector hostname ++ ": " ++ String.intercalate ", " sorted
  matched : ∀ node, carriers nodes hostname = [node] →
    (hostLookup nodes hostname developMode).outcome = (describe developMode node).2
  matched_by_name : ∀ node name, carriers nodes hostname = [node] → node.name = .is name →
    name ≠ "" → nodes.countP (fun other => other.name == .is name) = 1 →
    (lookup ({ nodes } : Cluster).api name hostname developMode).outcome =
      (hostLookup nodes hostname developMode).outcome
  any_order : ∀ others, nodes.Perm others →
    (hostLookup others hostname developMode).outcome =
      (hostLookup nodes hostname developMode).outcome

variable {nodes}

/-- Whatever nodes a cluster has, if only their names are texts, a lookup by host name takes the
only one that carries the name. -/
theorem lookup_takes_only_carrier (named : AreNamed nodes) :
    TakesOnlyCarrier nodes hostname developMode where
  call := lookup_calls _ "" hostname developMode
  asks_list := by
    intro api h
    have hlist : api.list (hostnameSelector hostname) =
        ({ nodes } : Cluster).api.list (hostnameSelector hostname) := by
      rw [list_hostname]
      exact h
    have hfind : findByHostname api hostname =
        findByHostname ({ nodes } : Cluster).api hostname := by
      simp only [findByHostname, hlist]
    have hempty : "".isEmpty = true := rfl
    simp only [hostLookup, lookup, hempty, if_true, hfind]
  unmatched := by
    intro h
    refine ⟨.noneLabelled (hostnameSelector hostname), ?_, rfl⟩
    rw [hostLookup_outcome, findByHostname_none h]
    rfl
  ambiguous := by
    intro h
    refine ⟨_, _, ?_, rfl, sortTexts_perm _, sortTexts_sorted _, manyLabelled_message _ _⟩
    rw [hostLookup_outcome, findByHostname_many named h]
    rfl
  matched := by
    intro node h
    rw [hostLookup_outcome, findByHostname_one h]
    rfl
  matched_by_name := by
    intro node name h hname hne hunique
    have hcarrier : node ∈ carriers nodes hostname := h ▸ List.mem_singleton_self node
    have hmem : node ∈ nodes := (List.mem_filter.mp hcarrier).1
    rw [hostLookup_outcome, lookup_outcome, if_neg hne, readByName_unique hmem hname hunique,
      findByHostname_one h]
  any_order := by
    intro others h
    rw [hostLookup_outcome, hostLookup_outcome, findByHostname_congr named h]

end

/-- A cluster in which two nodes carry one host name, and one has no labels at all. -/
def twinNodes : List RawNode :=
  let carrier (name : String) : RawNode :=
    { metadata := .is
        { name := .is name, labels := .is [("kubernetes.io/hostname", "h=1")] } }
  [carrier "b", { metadata := .is { name := .is "c", labels := .null } }, carrier "a"]

/-- The host name of two nodes is that of none, in whatever order they stand. -/
theorem lookup_takes_only_carrier_twins :
    AreNamed twinNodes ∧ (carriers twinNodes "h=1").length = 2 ∧
      (hostLookup twinNodes "h=1" true).calls = [.listNodes "kubernetes.io/hostname=h=1"] ∧
      (hostLookup twinNodes.reverse "h=1" true).outcome =
        (hostLookup twinNodes "h=1" true).outcome ∧
      ∃ fault, (hostLookup twinNodes "h=1" true).outcome = .error (.unresolved fault) ∧
        fault.kind = .nodeResolution := by
  have named : AreNamed twinNodes := by
    simp [AreNamed, twinNodes, RawNode.name, Attribute.through]
  have hlength : (carriers twinNodes "h=1").length = 2 := by decide
  have takes := lookup_takes_only_carrier "h=1" true named
  obtain ⟨fault, -, houtcome, hkind, -⟩ := takes.ambiguous (Nat.le_of_eq hlength.symm)
  exact ⟨named, hlength, takes.call, takes.any_order _ twinNodes.reverse_perm.symm, fault, houtcome,
    hkind⟩

end NodeAgent.Node
