import NodeAgent.Node.Descriptor
/-!
The addresses of a type that a node's entries tell of. What is read of the entries is what stands
for the addresses of the type, in their order: each that holds an address counts, each that does not
is passed over, and reading ends where nothing stands for one.

Main results: `addressesOf_eq`, the closed form of the reading; `addressesOf_whole`, its outcome
where nothing is missing.
-/

namespace NodeAgent.Node

/-- What stands for the addresses of a type, in their order; nothing may stand for one. -/
def datumsOf (kind : String) (entries : List AddressEntry) : List (Option Datum) :=
  (entries.filter fun entry => entry.kind = .is kind).map AddressEntry.datum?

/-- The addresses that are stood for, in their order. What holds no address is passed over. -/
def parsedOf (values : List (Option Datum)) : List Address :=
  values.filterMap fun value => value.bind addressOf?

/-- What is logged of values up to the first that is missing. -/
def skipsOf (kind : String) (values : List (Option Datum)) : List Log.Event :=
  (values.takeWhile Option.isSome).filterMap fun value =>
    value.bind fun value => if (addressOf? value).isNone then some (skipEvent kind value) else none

/-- The addresses of a type are read from what stands for them, and from nothing else. -/
theorem addressesOf_eq (kind : String) (entries : List AddressEntry) :
    addressesOf kind entries =
      (skipsOf kind (datumsOf kind entries),
        if (datumsOf kind entries).all Option.isSome then .ok (parsedOf (datumsOf kind entries))
        else .error .addressMissing) := by
  induction entries with
  | nil => rfl
  | cons entry entries ih =>
    by_cases hkind : entry.kind = .is kind
    · have hcons : datumsOf kind (entry :: entries) = entry.datum? :: datumsOf kind entries := by
        simp [datumsOf, hkind]
      rw [hcons]
      cases hdatum : entry.datum? with
      | none => simp [addressesOf, hkind, hdatum, skipsOf]
      | some value =>
        cases haddress : addressOf? value with
        | none =>
          simp [addressesOf, hkind, hdatum, haddress, ih, skipsOf, parsedOf]
        | some address =>
          simp only [addressesOf, hkind, hdatum, haddress, ih, if_true]
          by_cases hall : (datumsOf kind entries).all Option.isSome <;>
            simp [hall, haddress, skipsOf, parsedOf, Except.map]
    · have hcons : datumsOf kind (entry :: entries) = datumsOf kind entries := by
        simp [datumsOf, hkind]
      rw [hcons, ← ih]
      simp [addressesOf, hkind]

/-- What the reading of addresses logs is what it passes over. -/
theorem addressesOf_skips (kind : String) (entries : List AddressEntry) :
    ∀ event ∈ (addressesOf kind entries).1, ∃ value, event = skipEvent kind value := by
  intro event hevent
  rw [addressesOf_eq] at hevent
  obtain ⟨value?, -, hskip⟩ := List.mem_filterMap.mp hevent
  obtain ⟨value, -, hskip⟩ := Option.bind_eq_some_iff.mp hskip
  split at hskip
  · exact ⟨value, (Option.some.inj hskip).symm⟩
  · simp at hskip

theorem datum?_isSome {entry : AddressEntry} : entry.datum?.isSome ↔ entry.value ≠ .missing := by
  unfold AddressEntry.datum?
  cases entry.value <;> simp

theorem datumsOf_all_isSome {kind : String} {entries : List AddressEntry} :
    (datumsOf kind entries).all Option.isSome ↔
      ∀ entry ∈ entries, entry.kind = .is kind → entry.value ≠ .missing := by
  rw [List.all_eq_true, datumsOf]
  constructor
  · intro h entry hmem hkind
    have hentry : entry ∈ entries.filter fun entry => entry.kind = .is kind :=
      List.mem_filter.mpr ⟨hmem, decide_eq_true hkind⟩
    exact datum?_isSome.mp (h entry.datum? (List.mem_map_of_mem hentry))
  · intro h value hvalue
    obtain ⟨entry, hentry, rfl⟩ := List.mem_map.mp hvalue
    obtain ⟨hmem, hkind⟩ := List.mem_filter.mp hentry
    exact datum?_isSome.mpr (h entry hmem (of_decide_eq_true hkind))

theorem addressesOf_of_lacking {kind : String} {entries : List AddressEntry}
    (h : ∃ entry ∈ entries, entry.kind = .is kind ∧ entry.value = .missing) :
    (addressesOf kind entries).2 = .error .addressMissing := by
  obtain ⟨entry, hmem, hkind, hvalue⟩ := h
  have hall : ¬ (datumsOf kind entries).all Option.isSome :=
    fun hall => datumsOf_all_isSome.mp hall entry hmem hkind hvalue
  rw [addressesOf_eq]
  exact if_neg hall

theorem addressesOf_of_present {kind : String} {entries : List AddressEntry}
    (h : ∀ entry ∈ entries, entry.kind = .is kind → entry.value ≠ .missing) :
    (addressesOf kind entries).2 = .ok (parsedOf (datumsOf kind entries)) := by
  rw [addressesOf_eq]
  exact if_pos (datumsOf_all_isSome.mpr h)

theorem addressesOf_whole (kind : String) {entries : List AddressEntry}
    (h : ∀ entry ∈ entries, entry.value ≠ .missing) :
    ∃ addresses, (addressesOf kind entries).2 = .ok addresses :=
  ⟨_, addressesOf_of_present fun entry hmem _ => h entry hmem⟩

end NodeAgent.Node
