import NodeAgent.Proofs.Address.RoundTrip
import NodeAgent.Proofs.Node.Description
import NodeAgent.Proofs.Node.DevelopMode
/-!
A node whose entries are replaced by the texts of the addresses in its descriptor is described as
before: every address of a descriptor is one that its text tells, whatever it was read from.

Main results: `legible_of_mem_parsedOf`, that the addresses of a descriptor are legible;
`described_addresses_stand`, that they are described again.
-/

namespace NodeAgent.Node

/-! ## Addresses of a descriptor -/

theorem legible_of_ofInt? {n : Int} {address : Address} (h : Address.ofInt? n = some address) :
    address.Legible := by
  unfold Address.ofInt? at h
  split at h
  · exact nomatch h
  · split at h
    · rw [← Option.some.inj h]
      trivial
    · split at h
      · rw [← Option.some.inj h]
        trivial
      · exact nomatch h

/-- Whatever a value is, the address that it stands for is legible. -/
theorem legible_of_addressOf? {value : Datum} {address : Address}
    (h : addressOf? value = some address) : address.Legible := by
  unfold addressOf? at h
  split at h
  · exact legible_of_ofInt? h
  · exact legible_of_ofInt? h
  · exact Address.legible_of_ofText? h

theorem legible_of_mem_parsedOf {values : List (Option Datum)} {address : Address}
    (h : address ∈ parsedOf values) : address.Legible := by
  obtain ⟨value?, -, hparsed⟩ := List.mem_filterMap.mp h
  obtain ⟨value, -, haddress⟩ := Option.bind_eq_some_iff.mp hparsed
  exact legible_of_addressOf? haddress

/-! ## Entries that hold texts -/

/-- An entry that holds the text of an address under a type. -/
def printedEntry (kind : String) (address : Address) : AddressEntry where
  kind := .is kind
  value := .is (.text address.text)

/-- A node with other entries of addresses. -/
def RawNode.withAddresses (node : RawNode) (entries : List AddressEntry) : RawNode :=
  { node with status := .is { addresses := .is entries } }

/-- Whether entries tell the addresses of a descriptor: one entry for each, which holds its text
under its type. Those of a type stand in their order; entries of both types may be mixed. -/
structure Relists (descriptor : Descriptor) (entries : List AddressEntry) : Prop where
  external : entries.filter (fun entry => entry.kind = .is "ExternalIP") =
    descriptor.externalIps.map (printedEntry "ExternalIP")
  internal : entries.filter (fun entry => entry.kind = .is "InternalIP") =
    descriptor.internalIps.map (printedEntry "InternalIP")

/-- Entries that hold the texts of legible addresses are read without one that is passed over. -/
theorem addressesOf_printed {kind : String} {entries : List AddressEntry} {ips : List Address}
    (hentries : entries.filter (fun entry => entry.kind = .is kind) = ips.map (printedEntry kind))
    (hips : ∀ address ∈ ips, address.Legible) : addressesOf kind entries = ([], .ok ips) := by
  have hdatums : datumsOf kind entries = ips.map fun address => some (.text address.text) := by
    rw [datumsOf, hentries, List.map_map]
    rfl
  have hread : ∀ address ∈ ips, addressOf? (.text address.text) = some address :=
    fun address hmem => Address.ofText?_text_iff.mpr (hips address hmem)
  have hparsed : parsedOf (datumsOf kind entries) = ips := by
    rw [hdatums, parsedOf, List.filterMap_map]
    exact (List.filterMap_congr hread).trans List.filterMap_some
  have hskips : skipsOf kind (datumsOf kind entries) = [] := by
    rw [skipsOf, List.filterMap_eq_nil_iff]
    intro value? hvalue
    have hmem := (List.takeWhile_prefix Option.isSome).subset hvalue
    rw [hdatums] at hmem
    obtain ⟨address, haddress, rfl⟩ := List.mem_map.mp hmem
    simp [hread address haddress]
  have hall : (datumsOf kind entries).all Option.isSome := by simp [hdatums]
  rw [addressesOf_eq, if_pos hall, hparsed, hskips]

/-- A node is described as before when its addresses are given by the texts of those that its
descriptor holds, and none of them is passed over. -/
theorem described_addresses_stand {developMode : Bool} {node : RawNode} {descriptor : Descriptor}
    {entries : List AddressEntry} (h : (describe developMode node).2 = .ok descriptor)
    (hentries : Relists descriptor entries) :
    describe developMode (node.withAddresses entries) =
      ((identify developMode node).1, .ok descriptor) := by
  have hreads := readsOff_of_described developMode h
  have hexternal := addressesOf_printed hentries.external fun address hmem => by
    rw [hreads.externalIps] at hmem
    exact legible_of_mem_parsedOf hmem
  have hinternal := addressesOf_printed hentries.internal fun address hmem => by
    rw [hreads.internalIps] at hmem
    exact legible_of_mem_parsedOf hmem
  rw [describe_outcome] at h
  obtain ⟨⟨cloud, instanceId⟩, hidentified, h⟩ := bind_eq_ok_iff.mp h
  obtain ⟨externalIps, -, h⟩ := bind_eq_ok_iff.mp h
  obtain ⟨internalIps, -, h⟩ := bind_eq_ok_iff.mp h
  obtain rfl := Except.ok.inj h
  have hidentify : identify developMode (node.withAddresses entries) =
      ((identify developMode node).1, .ok (cloud, instanceId)) := Prod.ext rfl hidentified
  have hevents : (node.withAddresses entries).addressEvents = [] := by
    change (addressesOf "ExternalIP" entries).1 ++ (addressesOf "InternalIP" entries).1 = []
    rw [hexternal, hinternal, List.append_nil]
  rw [describe_of_identified hidentify (congrArg Prod.snd hexternal) (congrArg Prod.snd hinternal),
    hevents, List.append_nil]
  rfl

/-- A node with an address of version four as a number, one inside of an address of version six, one
with a scope, and an entry that holds none. -/
def scopedNode : RawNode where
  metadata := .is { name := .is "worker" }
  spec := .is { providerId := .is "aws:///zone/i-1" }
  status := .is
    { addresses := .is
        [{ kind := .is "ExternalIP", value := .is (.int 3221225985) },
          { kind := .is "InternalIP", value := .is (.text "FE80:0:0::0001%eth0") },
          { kind := .is "ExternalIP", value := .is (.text "unknown") },
          { kind := .is "ExternalIP", value := .is (.text "::ffff:192.0.2.1") }] }

/-- What the node is described as. -/
def scopedDescriptor : Descriptor where
  name := "worker"
  instanceId := "i-1"
  cloud := some .aws
  providerId := "aws:///zone/i-1"
  externalIps := [.v4 0xc0000201, .v6 0xffffc0000201 none]
  internalIps := [.v6 0xfe800000000000000000000000000001 (some "eth0")]

/-- The addresses of the node by their texts, those of its own network first. -/
def scopedEntries : List AddressEntry :=
  [{ kind := .is "InternalIP", value := .is (.text "fe80::1%eth0") },
    { kind := .is "ExternalIP", value := .is (.text "192.0.2.1") },
    { kind := .is "ExternalIP", value := .is (.text "::ffff:c000:201") }]

theorem described_addresses_stand_scoped :
    (describe false scopedNode).2 = .ok scopedDescriptor ∧
      Relists scopedDescriptor scopedEntries ∧
      describe false (scopedNode.withAddresses scopedEntries) = ([], .ok scopedDescriptor) := by
  have described : (describe false scopedNode).2 = .ok scopedDescriptor := by rfl
  have relists : Relists scopedDescriptor scopedEntries := ⟨by rfl, by rfl⟩
  exact ⟨described, relists, described_addresses_stand described relists⟩

end NodeAgent.Node
