import Mathlib.Data.List.Forall2
import Mathlib.Data.List.TakeWhile
import NodeAgent.Node.Lookup
import NodeAgent.Proofs.Text.Run
/-!
Provider ids. An id is parted at its first `://`; the scheme in front of it names a supported cloud,
in any letter case, and the last segment of the path behind it that is not empty is the instance.
Nothing else of the id matters: not the case of the scheme, not the slashes at its end, not what
stands between the mark and the last segment. An id that names no instance of a supported cloud is
refused by a text that shows it.

Main results: `parseProviderId_eq_ok_iff`, which ids are accepted and as what;
`parseProviderId_reads_last_segment`, what does not matter in them, and how the others are refused.
-/

namespace NodeAgent.Node

open Text (Stops takeWhile_run dropWhile_run mem_takeWhile)

/-! ## The first mark -/

/-- What parts the scheme of an id from its path. -/
def schemeMark : List Char := [':', '/', '/']

/-- A text parted at the first mark in it. -/
structure PartedAtMark (text scheme path : List Char) : Prop where
  parts : text = scheme ++ (schemeMark ++ path)
  first : ∀ front back, text = front ++ (schemeMark ++ back) → scheme.length ≤ front.length

namespace PartedAtMark

variable {text scheme path : List Char}

/-- A text has one first mark. -/
theorem unique {scheme' path' : List Char} (h : PartedAtMark text scheme path)
    (h' : PartedAtMark text scheme' path') : scheme = scheme' ∧ path = path' := by
  have hlength : scheme.length = scheme'.length :=
    Nat.le_antisymm (h.first scheme' path' h'.parts) (h'.first scheme path h.parts)
  obtain ⟨hscheme, hrest⟩ := List.append_inj (h.parts.symm.trans h'.parts) hlength
  exact ⟨hscheme, List.append_cancel_left hrest⟩

theorem here : PartedAtMark (schemeMark ++ path) [] path :=
  ⟨rfl, fun _ _ _ => Nat.zero_le _⟩

/-- A character in front of a text moves its first mark, unless a mark begins with it. -/
theorem cons {c : Char} (h : PartedAtMark text scheme path)
    (hc : ∀ back, c :: text ≠ schemeMark ++ back) :
    PartedAtMark (c :: text) (c :: scheme) path := by
  refine ⟨by rw [h.parts]; rfl, ?_⟩
  intro front back hback
  cases front with
  | nil => exact absurd hback (hc back)
  | cons d front =>
    have hlength := h.first front back (List.cons.inj hback).2
    simp only [List.length_cons]
    omega

/-- In front of a mark without a colon before it there is no other one. -/
theorem of_no_colon (h : ':' ∉ scheme) :
    PartedAtMark (scheme ++ (schemeMark ++ path)) scheme path := by
  induction scheme with
  | nil => exact here
  | cons c scheme ih =>
    simp only [List.mem_cons, not_or] at h
    refine (ih h.2).cons ?_
    intro back hback
    exact h.1 (List.cons.inj hback).1.symm

end PartedAtMark

/-- A text is split at its first mark. -/
theorem splitScheme_parted {text scheme path : List Char}
    (h : splitScheme? text = some (scheme, path)) : PartedAtMark text scheme path := by
  fun_induction splitScheme? text generalizing scheme with
  | case1 rest =>
    simp only [Option.some.injEq, Prod.mk.injEq] at h
    obtain ⟨rfl, rfl⟩ := h
    exact .here
  | case2 c rest hmark ih =>
    obtain ⟨⟨front, back⟩, hrest, he⟩ := Option.map_eq_some_iff.mp h
    simp only [Prod.mk.injEq] at he
    obtain ⟨rfl, rfl⟩ := he
    refine (ih hrest).cons ?_
    intro back hback
    obtain ⟨hc, hr⟩ := List.cons.inj hback
    exact hmark back hc hr
  | case3 => simp at h

theorem splitScheme_none {text : List Char} (h : splitScheme? text = none)
    (front back : List Char) : text ≠ front ++ (schemeMark ++ back) := by
  intro he
  subst he
  induction front with
  | nil => simp [schemeMark, splitScheme?] at h
  | cons c front ih =>
    rw [List.cons_append] at h
    rw [splitScheme?] at h
    · exact ih (Option.map_eq_none_iff.mp h)
    · intro rest hc hrest
      rw [hc, hrest] at h
      simp [splitScheme?] at h

theorem splitScheme_eq_some_iff {text scheme path : List Char} :
    splitScheme? text = some (scheme, path) ↔ PartedAtMark text scheme path := by
  refine ⟨splitScheme_parted, fun h => ?_⟩
  cases hsplit : splitScheme? text with
  | none => exact absurd h.parts (splitScheme_none hsplit scheme path)
  | some parts =>
    obtain ⟨rfl, rfl⟩ := h.unique (splitScheme_parted hsplit)
    rfl

/-! ## Schemes -/

theorem toNat_toLower (c : Char) :
    c.toLower.toNat = if 65 ≤ c.toNat ∧ c.toNat ≤ 90 then c.toNat + 32 else c.toNat := by
  unfold Char.toLower
  split
  · rename_i h
    have hrange : 65 ≤ c.toNat ∧ c.toNat ≤ 90 := h
    rw [if_pos hrange]
    show (c.val + 32).toNat = c.val.toNat + 32
    have hval : c.val.toNat ≤ 90 := hrange.2
    rw [UInt32.toNat_add]
    simp
    omega
  · rename_i h
    have hrange : ¬ (65 ≤ c.toNat ∧ c.toNat ≤ 90) := h
    rw [if_neg hrange]

theorem toNat_toUpper (c : Char) :
    c.toUpper.toNat = if 97 ≤ c.toNat ∧ c.toNat ≤ 122 then c.toNat - 32 else c.toNat := by
  unfold Char.toUpper
  split
  · rename_i h
    have hrange : 97 ≤ c.toNat ∧ c.toNat ≤ 122 := h
    rw [if_pos hrange]
    show (c.val + ('A'.val - 'a'.val)).toNat = c.val.toNat - 32
    -- The distance of the two alphabets is taken modulo the size of a code point.
    have hdistance : ('A'.val - 'a'.val).toNat = 2 ^ 32 - 32 := by decide
    have hval : 97 ≤ c.val.toNat ∧ c.val.toNat ≤ 122 := hrange
    rw [UInt32.toNat_add, hdistance]
    omega
  · rename_i h
    have hrange : ¬ (97 ≤ c.toNat ∧ c.toNat ≤ 122) := h
    rw [if_neg hrange]

theorem toLower_eq_iff {small c : Char} (h : small.isLower = true) :
    c.toLower = small ↔ c = small ∨ c = small.toUpper := by
  have hsmall : 97 ≤ small.toNat ∧ small.toNat ≤ 122 := by
    have hbounds : (decide (small.val ≥ 'a'.val) && decide (small.val ≤ 'z'.val)) = true := h
    rw [Bool.and_eq_true] at hbounds
    exact ⟨of_decide_eq_true hbounds.1, of_decide_eq_true hbounds.2⟩
  simp only [← Char.toNat_inj, toNat_toLower, toNat_toUpper, if_pos hsmall]
  split
  · omega
  · omega

/-- Whether a text is a word of small letters, each of them in either case. -/
def InAnyCase (word text : List Char) : Prop :=
  List.Forall₂ (fun small c => c = small ∨ c = small.toUpper) word text

theorem lower_eq_iff {word text : List Char} (h : ∀ small ∈ word, small.isLower = true) :
    Text.lower text = word ↔ InAnyCase word text := by
  unfold Text.lower
  induction word generalizing text with
  | nil => simp [InAnyCase]
  | cons small word ih =>
    cases text with
    | nil => simp [InAnyCase]
    | cons c text =>
      have hrest := @ih text fun other hother => h other (List.mem_cons_of_mem small hother)
      rw [List.map_cons, List.cons.injEq, hrest, toLower_eq_iff (h small List.mem_cons_self)]
      simp [InAnyCase]

/-- The scheme of the ids of a cloud. -/
def Cloud.scheme : Cloud → List Char
  | aws => ['a', 'w', 's']
  | gcp => ['g', 'c', 'e']
  | azure => ['a', 'z', 'u', 'r', 'e']

theorem Cloud.scheme_small (cloud : Cloud) : ∀ small ∈ cloud.scheme, small.isLower = true :=
  List.all_eq_true.mp (by cases cloud <;> decide)

theorem cloudOf_eq_some_iff {scheme : List Char} {cloud : Cloud} :
    cloudOf? scheme = some cloud ↔ InAnyCase cloud.scheme scheme := by
  rw [← lower_eq_iff cloud.scheme_small]
  unfold cloudOf?
  cases cloud with
  | aws => grind [Cloud.scheme]
  | gcp => grind [Cloud.scheme]
  | azure => grind [Cloud.scheme]

/-! ## Segments -/

/-- The segments of a path that are not empty. -/
def segments (path : List Char) : List (List Char) :=
  (path.splitOn '/').filter fun segment => segment ≠ []

/-- A path that ends in a segment: only slashes stand behind it, and a slash or nothing in front. -/
structure EndsIn (path segment : List Char) : Prop where
  nonempty : segment ≠ []
  no_slash : '/' ∉ segment
  place : ∃ front n, path = front ++ (segment ++ List.replicate n '/') ∧
    (front = [] ∨ ∃ before, front = before ++ ['/'])

theorem segments_append (front back : List Char) :
    segments (front ++ '/' :: back) = segments front ++ segments back := by
  rw [segments, List.splitOn_append_cons_self, List.filter_append]
  rfl

theorem segments_slashes (n : Nat) : segments (List.replicate n '/') = [] := by
  induction n with
  | zero => simp [segments]
  | succ n ih =>
    rw [List.replicate_succ, ← List.nil_append ('/' :: _), segments_append, ih]
    simp [segments]

/-- The slashes at the end of a path make no segments. -/
theorem segments_trailing (path : List Char) (n : Nat) :
    segments (path ++ List.replicate n '/') = segments path := by
  cases n with
  | zero => simp
  | succ n => rw [List.replicate_succ, segments_append, segments_slashes, List.append_nil]

theorem segments_single {segment : List Char} (hne : segment ≠ []) (h : '/' ∉ segment) :
    segments segment = [segment] := by
  simp [segments, List.splitOn_eq_singleton h, hne]

theorem EndsIn.segments_last {path segment : List Char} (h : EndsIn path segment) :
    (segments path).getLast? = some segment := by
  obtain ⟨front, n, rfl, hfront⟩ := h.place
  have hsingle := segments_single h.nonempty h.no_slash
  rcases hfront with rfl | ⟨before, rfl⟩
  · rw [List.nil_append, segments_trailing, hsingle]
    rfl
  · rw [List.append_assoc, List.singleton_append, segments_append, segments_trailing, hsingle]
    simp

theorem EndsIn.more_slashes {path segment : List Char} (h : EndsIn path segment) (n : Nat) :
    EndsIn (path ++ List.replicate n '/') segment := by
  obtain ⟨front, m, rfl, hfront⟩ := h.place
  refine ⟨h.nonempty, h.no_slash, front, m + n, ?_, hfront⟩
  rw [List.append_assoc, List.append_assoc, ← List.replicate_append_replicate]

theorem lastSegment_eq (path : List Char) :
    lastSegment path = ((path.reverse.dropWhile (· == '/')).takeWhile (· != '/')).reverse := by
  rw [lastSegment, Text.dropTrailing, List.reverse_reverse]

/-- What is read of a path that ends in a segment is the segment. -/
theorem EndsIn.lastSegment_eq {path segment : List Char} (h : EndsIn path segment) :
    lastSegment path = segment := by
  obtain ⟨front, n, rfl, hfront⟩ := h.place
  have hslashes : ∀ c ∈ List.replicate n '/', (c == '/') = true := by
    intro c hc
    simp [List.eq_of_mem_replicate hc]
  have hletters : ∀ c ∈ segment.reverse, (c != '/') = true := by
    intro c hc
    have hne : c ≠ '/' := fun he => h.no_slash (he ▸ List.mem_reverse.mp hc)
    simp [hne]
  have hsegment : Stops (· == '/') (segment.reverse ++ front.reverse) := by
    intro c hc
    rw [List.head?_append_of_ne_nil _ (by simp [h.nonempty])] at hc
    have hmem := hletters c (List.mem_of_mem_head? hc)
    simpa using hmem
  have hbefore : Stops (· != '/') front.reverse := by
    rcases hfront with rfl | ⟨before, rfl⟩
    · simp [Stops]
    · simp [Stops]
  have hreverse : (front ++ (segment ++ List.replicate n '/')).reverse =
      List.replicate n '/' ++ (segment.reverse ++ front.reverse) := by simp
  rw [Node.lastSegment_eq, hreverse, dropWhile_run hslashes hsegment,
    takeWhile_run hletters hbefore, List.reverse_reverse]

/-- A path from which a segment is read ends in it. -/
theorem lastSegment_endsIn {path : List Char} (h : lastSegment path ≠ []) :
    EndsIn path (lastSegment path) := by
  have hlast := lastSegment_eq path
  -- The path is read from its end: slashes, the segment, and what stands in front.
  have hslashes : path.reverse.takeWhile (· == '/') =
      List.replicate (path.reverse.takeWhile (· == '/')).length '/' :=
    List.eq_replicate_iff.mpr ⟨rfl, fun c hc => by simpa using mem_takeWhile hc⟩
  have hparts : path.reverse = path.reverse.takeWhile (· == '/') ++ ((lastSegment path).reverse ++
      (path.reverse.dropWhile (· == '/')).dropWhile (· != '/')) := by
    rw [hlast, List.reverse_reverse, List.takeWhile_append_dropWhile,
      List.takeWhile_append_dropWhile]
  have hbefore : Stops (· != '/') ((path.reverse.dropWhile (· == '/')).dropWhile (· != '/')) :=
    Stops.dropWhile
  generalize (path.reverse.dropWhile (· == '/')).dropWhile (· != '/') = before at hparts hbefore
  generalize path.reverse.takeWhile (· == '/') = slashes at hslashes hparts
  refine ⟨h, ?_, before.reverse, slashes.length, ?_, ?_⟩
  · intro hmem
    rw [hlast, List.mem_reverse] at hmem
    simpa using mem_takeWhile hmem
  · rw [← List.reverse_inj, hparts, hslashes]
    simp
  · cases before with
    | nil => exact .inl rfl
    | cons c before =>
      have hc : c = '/' := by simpa using hbefore.head
      exact .inr ⟨before.reverse, by rw [hc, List.reverse_cons]⟩

/-- A path holds a segment where it holds anything but slashes. -/
theorem lastSegment_ne_nil_iff {path : List Char} :
    lastSegment path ≠ [] ↔ ∃ c ∈ path, c ≠ '/' := by
  constructor
  · intro h
    obtain ⟨hne, hslash, front, n, hpath, -⟩ := lastSegment_endsIn h
    obtain ⟨c, hc⟩ := List.exists_mem_of_ne_nil _ hne
    refine ⟨c, ?_, fun he => hslash (he ▸ hc)⟩
    rw [hpath]
    simp [hc]
  · intro h hnil
    obtain ⟨c, hc, hne⟩ := h
    rw [lastSegment_eq, List.reverse_eq_nil_iff] at hnil
    have hstop : Stops (· == '/') (path.reverse.dropWhile (· == '/')) := Stops.dropWhile
    cases hrest : path.reverse.dropWhile (· == '/') with
    | nil =>
      have hall := List.dropWhile_eq_nil_iff.mp hrest c (List.mem_reverse.mpr hc)
      simp [hne] at hall
    | cons d rest =>
      have hd : (d == '/') = false := (hrest ▸ hstop).head
      rw [hrest, List.takeWhile_cons_of_pos (by simpa using hd)] at hnil
      simp at hnil

/-! ## Reading -/

/-- Whether an id names an instance of a cloud. -/
def Names (text : List Char) (cloud : Cloud) (instanceId : List Char) : Prop :=
  ∃ scheme path, PartedAtMark text scheme path ∧ InAnyCase cloud.scheme scheme ∧
    EndsIn path instanceId

theorem parseProviderId_eq_ok_iff {x : String} {cloud : Cloud} {instanceId : String} :
    parseProviderId x = .ok (cloud, instanceId) ↔ Names x.toList cloud instanceId.toList := by
  constructor
  · intro h
    unfold parseProviderId at h
    split at h
    · rename_i scheme path hsplit
      split at h
      · rename_i named hcloud
        simp only [List.isEmpty_iff] at h
        split at h
        · simp at h
        · rename_i hne
          simp only [Except.ok.injEq, Prod.mk.injEq] at h
          obtain ⟨rfl, rfl⟩ := h
          refine ⟨scheme, path, splitScheme_parted hsplit, cloudOf_eq_some_iff.mp hcloud, ?_⟩
          simpa using lastSegment_endsIn hne
      · simp at h
    · simp at h
  · intro h
    obtain ⟨scheme, path, hparted, hcloud, hends⟩ := h
    unfold parseProviderId
    rw [splitScheme_eq_some_iff.mpr hparted]
    simp [cloudOf_eq_some_iff.mpr hcloud, hends.lastSegment_eq, hends.nonempty]

/-- No scheme holds a colon, in whatever case it is written. -/
theorem no_colon_of_scheme {cloud : Cloud} {scheme : List Char}
    (h : InAnyCase cloud.scheme scheme) : ':' ∉ scheme := by
  intro hmem
  have hlower : ':' ∈ Text.lower scheme := List.mem_map_of_mem hmem
  rw [(lower_eq_iff cloud.scheme_small).mpr h] at hlower
  have hsmall := cloud.scheme_small ':' hlower
  simp at hsmall

/-- A scheme, a mark and a path that ends in a segment name the segment. -/
theorem parseProviderId_of_parts {cloud : Cloud} {scheme path : List Char} {instanceId : String}
    (hscheme : InAnyCase cloud.scheme scheme) (hends : EndsIn path instanceId.toList) :
    parseProviderId (String.ofList (scheme ++ (schemeMark ++ path))) = .ok (cloud, instanceId) := by
  rw [parseProviderId_eq_ok_iff, String.toList_ofList]
  exact ⟨scheme, path, .of_no_colon (no_colon_of_scheme hscheme), hscheme, hends⟩

theorem parseProviderId_fault {x : String} {fault : ProviderFault}
    (h : parseProviderId x = .error fault) : fault = .unsupported x ∨ fault = .noInstance x := by
  unfold parseProviderId at h
  grind

/-- How an id is read. -/
structure ReadsProviderId (x : String) : Prop where
  /-- An id is accepted if its first mark parts the scheme of a cloud from more than slashes. -/
  accepted_iff : (∃ found, parseProviderId x = .ok found) ↔
    ∃ scheme path, PartedAtMark x.toList scheme path ∧
      (∃ cloud : Cloud, InAnyCase cloud.scheme scheme) ∧ ∃ c ∈ path, c ≠ '/'
  found : ∀ cloud instanceId, parseProviderId x = .ok (cloud, instanceId) →
    instanceId ≠ "" ∧ '/' ∉ instanceId.toList ∧
      ∃ scheme path, PartedAtMark x.toList scheme path ∧ InAnyCase cloud.scheme scheme ∧
        (segments path).getLast? = some instanceId.toList
  more_slashes : ∀ found, parseProviderId x = .ok found → ∀ n,
    parseProviderId (x ++ String.ofList (List.replicate n '/')) = .ok found
  other_case : ∀ found, parseProviderId x = .ok found →
    ∀ scheme path, PartedAtMark x.toList scheme path →
      ∀ cased : List Char, cased.map Char.toLower = scheme.map Char.toLower →
        parseProviderId (String.ofList (cased ++ (schemeMark ++ path))) = .ok found
  other_front : ∀ cloud instanceId, parseProviderId x = .ok (cloud, instanceId) →
    ∀ scheme front n,
      PartedAtMark x.toList scheme (front ++ '/' :: (instanceId.toList ++ List.replicate n '/')) →
      ∀ other : List Char,
        parseProviderId (String.ofList (scheme ++ (schemeMark ++
          (other ++ '/' :: (instanceId.toList ++ List.replicate n '/'))))) = .ok (cloud, instanceId)
  refused : ∀ fault, parseProviderId x = .error fault →
    (Fault.provider fault).kind = .nodeResolution ∧
      ∃ front, (Fault.provider fault).message = front ++ Text.quoted x

theorem parseProviderId_reads_last_segment (x : String) : ReadsProviderId x where
  accepted_iff := by
    constructor
    · intro h
      obtain ⟨⟨cloud, instanceId⟩, hfound⟩ := h
      obtain ⟨scheme, path, hparted, hscheme, hends⟩ := parseProviderId_eq_ok_iff.mp hfound
      refine ⟨scheme, path, hparted, ⟨cloud, hscheme⟩, lastSegment_ne_nil_iff.mp ?_⟩
      rw [hends.lastSegment_eq]
      exact hends.nonempty
    · intro h
      obtain ⟨scheme, path, hparted, ⟨cloud, hscheme⟩, hpath⟩ := h
      have hends := lastSegment_endsIn (lastSegment_ne_nil_iff.mpr hpath)
      refine ⟨(cloud, String.ofList (lastSegment path)), parseProviderId_eq_ok_iff.mpr ?_⟩
      exact ⟨scheme, path, hparted, hscheme, by rwa [String.toList_ofList]⟩
  found := by
    intro cloud instanceId h
    obtain ⟨scheme, path, hparted, hscheme, hends⟩ := parseProviderId_eq_ok_iff.mp h
    refine ⟨?_, hends.no_slash, scheme, path, hparted, hscheme, hends.segments_last⟩
    rintro rfl
    exact hends.nonempty rfl
  more_slashes := by
    intro found h n
    obtain ⟨cloud, instanceId⟩ := found
    obtain ⟨scheme, path, hparted, hscheme, hends⟩ := parseProviderId_eq_ok_iff.mp h
    have hlonger : x ++ String.ofList (List.replicate n '/') =
        String.ofList (scheme ++ (schemeMark ++ (path ++ List.replicate n '/'))) := by
      rw [← String.toList_inj]
      simp [hparted.parts]
    rw [hlonger]
    exact parseProviderId_of_parts hscheme (hends.more_slashes n)
  other_case := by
    intro found h scheme path hparted cased hcased
    obtain ⟨cloud, instanceId⟩ := found
    obtain ⟨scheme', path', hparted', hscheme, hends⟩ := parseProviderId_eq_ok_iff.mp h
    obtain ⟨rfl, rfl⟩ := hparted.unique hparted'
    refine parseProviderId_of_parts ?_ hends
    rw [← lower_eq_iff cloud.scheme_small] at hscheme ⊢
    exact hcased.trans hscheme
  other_front := by
    intro cloud instanceId h scheme front n hparted other
    obtain ⟨scheme', path', hparted', hscheme, hends⟩ := parseProviderId_eq_ok_iff.mp h
    obtain ⟨rfl, rfl⟩ := hparted.unique hparted'
    apply parseProviderId_of_parts hscheme
    refine ⟨hends.nonempty, hends.no_slash, other ++ ['/'], n, ?_, ?_⟩
    · simp
    · exact .inr ⟨other, rfl⟩
  refused := by
    intro fault h
    rcases parseProviderId_fault h with rfl | rfl
    · exact ⟨rfl, _, rfl⟩
    · exact ⟨rfl, _, rfl⟩

example : parseProviderId "GCE://p://zone//vm//" = .ok (.gcp, "vm") := by rfl

end NodeAgent.Node
