import NodeAgent.Proofs.Kube.Reported
/-!
Where access to the cluster comes from, over any library. With the path of a kubeconfig, it hangs on
that file and on what its document is loaded from; without one, it hangs on what is mounted into the
pod. A source that fails is never replaced by the other one.

Main results:
* `retrieve_asks_one_source`: the way with a path (`AsksPath`) and the one without (`AsksMount`).

What a library looks at is not the agent's to say. Where an outcome must not hang on more, it is
assumed of the library: `Library.LoadsFrom` of one document, and `Library.MountsFrom` of the mount.
-/

namespace NodeAgent.Kube

/-! ## What a library looks at -/

/-- Whether two trees answer alike where one of some paths is opened. -/
def Agree (tree other : FileTree) (paths : List String) : Prop :=
  ∀ path ∈ paths, tree.read path = other.read path

/-- Whether two environments hold the same but for the address of the service. -/
def AlikeButService (env other : Environment) : Prop :=
  ∀ name, name ≠ "KUBERNETES_SERVICE_HOST" → name ≠ "KUBERNETES_SERVICE_PORT" →
    env name = other name

theorem Agree.mono {tree other : FileTree} {paths larger : List String}
    (h : Agree tree other larger) (hsub : ∀ path ∈ paths, path ∈ larger) :
    Agree tree other paths :=
  fun path hpath => h path (hsub path hpath)

section

variable {Access : Type} (library : Library Access)

/-- A document that a library loads by some files and by the environment, without the address of
the service. -/
structure Library.LoadsFrom (document : library.Document) (paths : List String) : Prop where
  fresh : ∀ here there : Surroundings, Agree here.files there.files paths →
    AlikeButService here.environment there.environment → library.fresh here = library.fresh there
  load : ∀ (here there : Surroundings) (access : Access), Agree here.files there.files paths →
    AlikeButService here.environment there.environment →
    library.load here document access = library.load there document access

/-- The files that a library loads the mount of a pod by, together with the environment. -/
structure Library.MountsFrom (paths : List String) : Prop where
  fresh : ∀ here there : Surroundings, Agree here.files there.files paths →
    here.environment = there.environment → library.fresh here = library.fresh there
  mounted : ∀ (here there : Surroundings) (access : Access), Agree here.files there.files paths →
    here.environment = there.environment →
    library.loadMounted here access = library.loadMounted there access

/-- Whether a kubeconfig, if it can be read, is loaded by some files beside its own. -/
def RefersTo (around : Surroundings) (path : String) (paths : List String) : Prop :=
  ∀ content document, readContent around.files path = .ok content →
    library.read content = .ok document → library.LoadsFrom document paths

variable {library} {around there : Surroundings}

theorem readContent_congr {path : String}
    (h : around.files.read path = there.files.read path) :
    readContent around.files path = readContent there.files path := by
  simp only [readContent, h]

/-- Two computations come to one outcome if they go on alike from whatever their common first step
comes to. -/
theorem bind_congr_of_ok {ε α β : Type} {x : Except ε α} {f g : α → Except ε β}
    (h : ∀ a, x = .ok a → f a = g a) : (x >>= f) = (x >>= g) := by
  cases x with
  | error e => rfl
  | ok a => exact h a rfl

/-- What comes of a kubeconfig hangs on its own file and on what its document is loaded from. -/
theorem fromPath_congr {path : String} {paths : List String} (hne : path ≠ "")
    (refers : RefersTo library around path paths)
    (hfiles : Agree around.files there.files (path :: paths))
    (henv : AlikeButService around.environment there.environment) :
    fromPath library around path = fromPath library there path := by
  have hread : around.files.read path = there.files.read path := hfiles path List.mem_cons_self
  have hpaths : Agree around.files there.files paths :=
    hfiles.mono fun _ => List.mem_cons_of_mem _
  rw [fromPath_eq_steps hne, fromPath_eq_steps hne, ← readContent_congr hread]
  refine bind_congr_of_ok fun content hcontent => ?_
  refine bind_congr_of_ok fun document hdocument => ?_
  have loads : library.LoadsFrom document paths :=
    refers content document hcontent (handled_eq_ok_iff.mp hdocument)
  rw [loads.fresh around there hpaths henv]
  split
  · refine bind_congr_of_ok fun access _ => ?_
    rw [loads.load around there access hpaths henv]
  · rfl

/-- What comes of the mount of a pod hangs on the files that it is loaded by. -/
theorem fromMount_congr {paths : List String} (mounts : library.MountsFrom paths)
    (hfiles : Agree around.files there.files paths)
    (henv : around.environment = there.environment) :
    fromMount library around = fromMount library there := by
  have hmounted : inCluster library around = inCluster library there := by
    unfold inCluster
    rw [mounts.fresh around there hfiles henv]
    exact bind_congr_of_ok fun access _ => mounts.mounted around there access hfiles henv
  rw [fromMount, fromMount, hmounted]

end

/-! ## What a failure is blamed on -/

/-- The kinds of a failure of the agent's way to the cluster, and of all of its history. -/
def Failed.kinds : Failed → List FailureKind
  | denied fault => fault.retrieval.kinds
  | raised failure => failure.failure.kinds
  | failed => [failed.kind]

/-- The kinds that a file which cannot be opened has in the history of its failure. -/
theorem SystemFault.kind_not_own (fault : SystemFault) : fault.kind.isOwn = false := by
  cases fault <;> rfl

/-- Whether a failure is one of the kubeconfig at a path, or one that no source is blamed for. -/
def Failed.isOfPath (path : String) : Failed → Prop
  | denied fault =>
    (∃ reason, fault = .unreadable path reason) ∨ ∃ reason, fault = .unusable path reason
  | _ => True

section

variable {Access : Type} {library : Library Access} {around : Surroundings} {path : String}

theorem Escapes.isOfPath {failed : Failed} (h : Escapes library around path failed) :
    failed.isOfPath path := by
  cases h <;> trivial

theorem fromPath_isOfPath (hne : path ≠ "") {failed : Failed}
    (h : fromPath library around path = .error failed) : failed.isOfPath path := by
  cases hpath : isSystemPath path with
  | false =>
    rw [fromPath_eq_steps hne] at h
    simp only [readContent, hpath, Bool.false_eq_true, if_false] at h
    rw [← Except.error.inj h]
    trivial
  | true =>
    rcases fromPath_error_cases hne hpath h with ⟨fault, -, rfl⟩ | ⟨bytes, reason, -, rfl⟩ |
      escapes
    · exact .inl ⟨fault, rfl⟩
    · exact .inr ⟨reason, rfl⟩
    · exact escapes.isOfPath

end

/-- An unread kubeconfig is told of twice, behind what the system says of it. -/
theorem mem_kinds_unreadable {path : String} {reason : SystemFault} {kind : FailureKind}
    (hmem : kind ∈ (Failed.denied (.unreadable path reason)).kinds) :
    kind = .kubeConfigRead ∨ kind.isOwn = false := by
  have hmem : kind ∈ [.kubeConfigRead, .kubeConfigRead, reason.kind] := hmem
  simp only [List.mem_cons, List.not_mem_nil, or_false] at hmem
  rcases hmem with rfl | rfl | rfl
  · exact .inl rfl
  · exact .inl rfl
  · exact .inr (SystemFault.kind_not_own reason)

/-- An unusable kubeconfig is told of twice, behind what makes it so if that is a failure. -/
theorem mem_kinds_unusable {path : String} {reason : Unusable} {kind : FailureKind}
    (hmem : kind ∈ (Failed.denied (.unusable path reason)).kinds) :
    kind = .kubeConfigParse ∨ kind.isOwn = false := by
  cases reason with
  | notMapping =>
    have hmem : kind ∈ [.kubeConfigParse, .kubeConfigParse] := hmem
    simp only [List.mem_cons, List.not_mem_nil, or_false, or_self] at hmem
    exact .inl hmem
  | raised failure =>
    have hmem : kind ∈ FailureKind.kubeConfigParse :: .kubeConfigParse :: failure.failure.kinds :=
      hmem
    simp only [List.mem_cons] at hmem
    rcases hmem with rfl | rfl | hmem
    · exact .inl rfl
    · exact .inl rfl
    · exact .inr (ForeignFailure.isOwn_of_mem hmem)

/-- A refused mount is told of once, behind the refusal. -/
theorem mem_kinds_inCluster {failure : ForeignFailure} {kind : FailureKind}
    (hmem : kind ∈ (Failed.denied (.inCluster failure)).kinds) :
    kind = .inCluster ∨ kind.isOwn = false := by
  have hmem : kind ∈ FailureKind.inCluster :: failure.failure.kinds := hmem
  exact (List.mem_cons.mp hmem).imp_right ForeignFailure.isOwn_of_mem

/-- In the history of a failure of a path stand the kinds of an unread or unusable kubeconfig, and
kinds that are not the agent's. -/
theorem Failed.isOfPath.of_mem_kinds {failed : Failed} {path : String} (h : failed.isOfPath path)
    {kind : FailureKind} (hmem : kind ∈ failed.kinds) :
    kind = .kubeConfigRead ∨ kind = .kubeConfigParse ∨ kind.isOwn = false := by
  cases failed with
  | denied fault =>
    rcases h with ⟨reason, rfl⟩ | ⟨reason, rfl⟩
    · exact (mem_kinds_unreadable hmem).imp_right .inr
    · exact .inr (mem_kinds_unusable hmem)
  | nulPath =>
    rw [List.mem_singleton.mp hmem]
    decide
  | notText =>
    rw [List.mem_singleton.mp hmem]
    decide
  | raised failure => exact .inr (.inr (ForeignFailure.isOwn_of_mem hmem))

theorem Failed.isOfPath.no_other_source {failed : Failed} {path : String}
    (h : failed.isOfPath path) : .emptyPath ∉ failed.kinds ∧ .inCluster ∉ failed.kinds := by
  constructor
  · intro hmem
    exact absurd (h.of_mem_kinds hmem) (by decide)
  · intro hmem
    exact absurd (h.of_mem_kinds hmem) (by decide)

/-- An unread or unusable kubeconfig is reported once more, as the same kind of failure, with the
first report as its nearest cause. -/
theorem Failed.isOfPath.reraised {failed : Failed} {path : String} (h : failed.isOfPath path)
    (hreported : failed.isReported) :
    ∃ fault, failed = .denied fault ∧ fault.failure.kind = failed.kind ∧
      fault.retrieval = .caused failed.kind
        ("retrieving kube config from path: " ++ fault.failure.text) fault.failure := by
  cases failed with
  | denied fault =>
    refine ⟨fault, rfl, ?_⟩
    rcases h with ⟨reason, rfl⟩ | ⟨reason, rfl⟩
    · exact ⟨rfl, rfl⟩
    · cases reason <;> exact ⟨rfl, rfl⟩
  | nulPath => exact absurd hreported (by decide)
  | notText => exact absurd hreported (by decide)
  | raised failure => exact absurd hreported (Failed.raised_not_reported failure)

/-! ## The mount -/

section

variable {Access : Type} {library : Library Access} {around : Surroundings}

theorem fromMount_eq_ok_iff {access : Access} :
    fromMount library around = .ok access ↔ inCluster library around = .ok access :=
  handled_eq_ok_iff

theorem fromMount_of_error {failure : ForeignFailure}
    (h : inCluster library around = .error failure) :
    fromMount library around =
      .error (if failure.kind.isOf [.credentials] then .denied (.inCluster failure)
        else .raised failure) := by
  rw [fromMount, h]
  rfl

/-- In the history of a failure of the mount stands no kubeconfig. -/
theorem emptyPath_not_mem_kinds_of_mount {failed : Failed}
    (h : fromMount library around = .error failed) : .emptyPath ∉ failed.kinds := by
  intro hmem
  obtain ⟨failure, -, ⟨-, rfl⟩ | ⟨-, rfl⟩⟩ := handled_eq_error_iff.mp h
  · exact absurd (mem_kinds_inCluster hmem) (by decide)
  · exact absurd (ForeignFailure.isOwn_of_mem hmem) (by decide)

end

/-! ## One source -/

section

variable {Access : Type} (library : Library Access) (around : Surroundings) (fields : Log.Fields)

/-- The source that is asked: the kubeconfig if there is a path, else the mount. -/
def asked (path : String) : Except Failed Access :=
  if path = "" then fromMount library around else fromPath library around path

/-- What is told of the source that access comes from. -/
def sourceText (path : String) : String :=
  if path = "" then "using in node kube config" else "using kube config from " ++ path

/-- The way to the cluster asks its one source; one record tells of the access that is had, and a
failure leaves none. -/
theorem retrieve_eq (path : String) :
    retrieve library around fields path =
      match asked library around path with
      | .ok access => ([sourceEvent fields (sourceText path)], .ok access)
      | .error failed => ([], .error failed) := by
  by_cases hne : path = ""
  · subst hne
    have denied : fromPath library around "" = .error (.denied .emptyPath) := rfl
    cases hmount : fromMount library around with
    | ok access => simp only [retrieve, asked, sourceText, denied, hmount, if_pos]
    | error failed => simp only [retrieve, asked, denied, hmount, if_pos]
  · unfold retrieve asked sourceText
    rw [if_neg hne, if_neg hne]
    cases hfound : fromPath library around path with
    | ok access => rfl
    | error failed =>
      have hpath : failed.isOfPath path := fromPath_isOfPath hne hfound
      cases failed with
      | denied fault =>
        cases fault with
        | emptyPath => simp [Failed.isOfPath] at hpath
        | _ => rfl
      | _ => rfl

theorem retrieve_outcome (path : String) :
    (retrieve library around fields path).2 = asked library around path := by
  rw [retrieve_eq]
  cases asked library around path <;> rfl

theorem retrieve_logs (path : String) :
    (retrieve library around fields path).1 =
      match (retrieve library around fields path).2 with
      | .ok _ => [sourceEvent fields (sourceText path)]
      | .error _ => [] := by
  rw [retrieve_eq]
  cases asked library around path <;> rfl

/-- Ways whose source answers alike are the same. -/
theorem retrieve_congr {other : Library Access} {there : Surroundings} {path : String}
    (h : asked library around path = asked other there path) :
    retrieve other there fields path = retrieve library around fields path := by
  rw [retrieve_eq, retrieve_eq, h]

/-- The way to the cluster through a kubeconfig. -/
structure AsksPath (path : String) : Prop where
  /-- The kubeconfig and what it is loaded from settle everything. -/
  steady : ∀ paths, RefersTo library around path paths → ∀ there : Surroundings,
    Agree around.files there.files (path :: paths) →
    AlikeButService around.environment there.environment →
    retrieve library there fields path = retrieve library around fields path
  /-- Whatever the mount of a pod would lead to, it is not asked. -/
  mount_unasked : ∀ mounted : Surroundings → Access → Except ForeignFailure Access,
    retrieve { library with loadMounted := mounted } around fields path =
      retrieve library around fields path
  outcome : (retrieve library around fields path).2 = fromPath library around path
  reraised : ∀ failed, (retrieve library around fields path).2 = .error failed →
    failed.isReported →
    ∃ fault, failed = .denied fault ∧ fault.failure.kind = failed.kind ∧
      fault.retrieval = .caused failed.kind
        ("retrieving kube config from path: " ++ fault.failure.text) fault.failure
  no_mount : ∀ failed, (retrieve library around fields path).2 = .error failed →
    .inCluster ∉ failed.kinds
  logged : ∀ access, (retrieve library around fields path).2 = .ok access →
    (retrieve library around fields path).1 =
      [{ level := .debug, logger := "kubeip", fields
         message := "using kube config from " ++ path }]

/-- The way to the cluster through the mount of a pod. -/
structure AsksMount : Prop where
  /-- The files of the mount settle everything, in one environment. -/
  steady : ∀ paths, library.MountsFrom paths → ∀ there : Surroundings,
    Agree around.files there.files paths → around.environment = there.environment →
    retrieve library there fields "" = retrieve library around fields ""
  /-- Whatever a kubeconfig would lead to, none is read or loaded. -/
  path_unasked : ∀ other : Library Access, other.fresh = library.fresh →
    other.loadMounted = library.loadMounted →
    retrieve other around fields "" = retrieve library around fields ""
  outcome : ∀ access, (retrieve library around fields "").2 = .ok access ↔
    inCluster library around = .ok access
  refused : ∀ failure, inCluster library around = .error failure →
    failure.kind.isOf [.credentials] = true →
    ∃ fault, (retrieve library around fields "").2 = .error (.denied fault) ∧
      fault.retrieval = .caused .inCluster
        ("retrieving in node kube config: " ++ failure.text) failure.failure
  escaped : ∀ failure, inCluster library around = .error failure →
    failure.kind.isOf [.credentials] = false →
    (retrieve library around fields "").2 = .error (.raised failure)
  logged : ∀ access, (retrieve library around fields "").2 = .ok access →
    (retrieve library around fields "").1 =
      [{ level := .debug, logger := "kubeip", fields, message := "using in node kube config" }]

variable {library around} in
theorem asked_path {path : String} (hne : path ≠ "") :
    asked library around path = fromPath library around path := if_neg hne

variable {library around} in
theorem asked_mount : asked library around "" = fromMount library around := rfl

theorem asksPath {path : String} (hne : path ≠ "") : AsksPath library around fields path where
  steady := by
    intro paths refers there hfiles henv
    apply retrieve_congr
    rw [asked_path hne, asked_path hne, fromPath_congr hne refers hfiles henv]
  mount_unasked := by
    intro mounted
    apply retrieve_congr
    rw [asked_path hne, asked_path hne]
    rfl
  outcome := by rw [retrieve_outcome, asked_path hne]
  reraised := by
    intro failed h hreported
    rw [retrieve_outcome, asked_path hne] at h
    exact (fromPath_isOfPath hne h).reraised hreported
  no_mount := by
    intro failed h
    rw [retrieve_outcome, asked_path hne] at h
    exact (fromPath_isOfPath hne h).no_other_source.2
  logged := by
    intro access h
    rw [retrieve_logs, h, sourceText, if_neg hne]
    rfl

theorem asksMount : AsksMount library around fields where
  steady := by
    intro paths mounts there hfiles henv
    apply retrieve_congr
    rw [asked_mount, asked_mount, fromMount_congr mounts hfiles henv]
  path_unasked := by
    intro other hfresh hmounted
    apply retrieve_congr
    rw [asked_mount, asked_mount, fromMount, fromMount, inCluster, inCluster, hfresh, hmounted]
  outcome := by
    intro access
    rw [retrieve_outcome, asked_mount, fromMount_eq_ok_iff]
  refused := by
    intro failure h hclass
    refine ⟨.inCluster failure, ?_, rfl⟩
    rw [retrieve_outcome, asked_mount, fromMount_of_error h, if_pos hclass]
  escaped := by
    intro failure h hclass
    rw [retrieve_outcome, asked_mount, fromMount_of_error h, hclass]
    rfl
  logged := by
    intro access h
    rw [retrieve_logs, h]
    rfl

/-- One source is asked for access: the kubeconfig if there is a path, else the mount. What it
answers settles the outcome, and a failure never tells of a path that is missing or leaves a
record. -/
theorem retrieve_asks_one_source (path : String) :
    (path ≠ "" → AsksPath library around fields path) ∧
      (path = "" → AsksMount library around fields) ∧
      ∀ failed, (retrieve library around fields path).2 = .error failed →
        .emptyPath ∉ failed.kinds ∧ (retrieve library around fields path).1 = [] := by
  refine ⟨fun hne => asksPath library around fields hne,
    fun _ => asksMount library around fields, ?_⟩
  intro failed h
  constructor
  · rw [retrieve_outcome] at h
    by_cases hne : path = ""
    · rw [hne, asked_mount] at h
      exact emptyPath_not_mem_kinds_of_mount h
    · rw [asked_path hne] at h
      exact (fromPath_isOfPath hne h).no_other_source.1
  · rw [retrieve_logs, h]

end

/-- A host with that kubeconfig and no mount. -/
def bareHost : Surroundings where
  files := { entries := [("kc", .file authorityText.toUTF8), ("t", .file "authority".toUTF8)] }
  environment _ := none

/-- The same files in a pod with a mount. -/
def pod : Surroundings where
  files := { bareHost.files with rooted :=
    [("var/run/secrets/kubernetes.io/serviceaccount/token", .file "token".toUTF8)] }
  environment name := if name = "KUBERNETES_SERVICE_HOST" then some "h" else none

theorem authorityLibrary_loadsFrom : authorityLibrary.LoadsFrom () ["t"] where
  fresh := fun _ _ _ _ => rfl
  load := by
    intro here there access hfiles _
    have ht : here.files.read "t" = there.files.read "t" := hfiles _ List.mem_cons_self
    simp only [authorityLibrary, ht]

/-- A pod whose mount grants access gets to the cluster of a kubeconfig as a host without a mount
does. -/
theorem retrieve_asks_one_source_mounted :
    "kc" ≠ "" ∧ (inCluster authorityLibrary pod).toBool = true ∧
      (fromPath authorityLibrary bareHost "kc").toBool = true ∧
      RefersTo authorityLibrary bareHost "kc" ["t"] ∧
      retrieve authorityLibrary pod [] "kc" = retrieve authorityLibrary bareHost [] "kc" := by
  have hne : "kc" ≠ "" := by decide
  have refers : RefersTo authorityLibrary bareHost "kc" ["t"] :=
    fun _ _ _ _ => authorityLibrary_loadsFrom
  have hfiles : Agree bareHost.files pod.files ["kc", "t"] := by
    intro path hpath
    simp only [List.mem_cons, List.not_mem_nil, or_false] at hpath
    rcases hpath with rfl | rfl
    · rfl
    · rfl
  have henv : AlikeButService bareHost.environment pod.environment := by
    intro name hhost _
    exact (if_neg hhost).symm
  have asks : AsksPath authorityLibrary bareHost [] "kc" :=
    (retrieve_asks_one_source authorityLibrary bareHost [] "kc").1 hne
  exact ⟨hne, by decide +kernel, by decide +kernel, refers, asks.steady _ refers pod hfiles henv⟩

end NodeAgent.Kube
