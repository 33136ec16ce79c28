import CloudDetector.Resource.Classify

namespace CloudDetector.Resource

/-- Where the value of an attribute comes from. -/
inductive Origin
  | constant (value : Text)
  | environment (name : Text)
  | document (path : Path)
  /-- The last segment of the name that stands in the document. -/
  | segment (path : Path)
  /-- The region of the zone in which that name ends. -/
  | region (path : Path)
  /-- The last segment of that name, if it has so many hyphens. -/
  | location (hyphens : Nat) (path : Path)

def Origin.value (document : Json) (environment : Environment) : Origin → Text
  | constant value => value
  | .environment name => (environment.get? name).getD []
  | .document path => document.lookup path
  | segment path => lastSegment (document.lookup path)
  | region path => regionOfZone (lastSegment (document.lookup path))
  | location hyphens path =>
    if (lastSegment (document.lookup path)).count (CodePoint.ofChar '-') = hyphens then
      lastSegment (document.lookup path)
    else []

/-- The attributes that are told of every service. -/
def projectRows : List (Text × Origin) :=
  [("cloud.provider", .constant "gcp"), ("cloud.account.id", .document ["project", "projectId"])]

def serverlessRows (platform : Text) : List (Text × Origin) :=
  [("cloud.platform", .constant platform),
    ("faas.name", .environment "K_SERVICE"),
    ("faas.version", .environment "K_REVISION"),
    ("faas.instance", .document ["instance", "id"])]

def zoneRows : List (Text × Origin) :=
  [("cloud.availability_zone", .segment ["instance", "zone"]),
    ("cloud.region", .region ["instance", "zone"])]

def clusterRows : List (Text × Origin) :=
  [("cloud.region", .location 1 ["instance", "attributes", "cluster-location"]),
    ("cloud.availability_zone", .location 2 ["instance", "attributes", "cluster-location"])]

/-- The attributes of each service by its specification. -/
def Service.rows : Service → List (Text × Origin)
  | kubernetesEngine =>
    ("cloud.platform", .constant "gcp_kubernetes_engine") ::
      ("k8s.cluster.name", .document ["instance", "attributes", "cluster-name"]) ::
      ("host.id", .document ["instance", "id"]) :: clusterRows
  | cloudFunctions => serverlessRows "gcp_cloud_functions"
  | cloudRun => serverlessRows "gcp_cloud_run"
  | appEngine =>
    ("cloud.platform", .constant "gcp_app_engine") ::
      ("faas.name", .environment "GAE_SERVICE") ::
      ("faas.version", .environment "GAE_VERSION") ::
      ("faas.instance", .environment "GAE_INSTANCE") :: zoneRows
  | computeEngine =>
    ("cloud.platform", .constant "gcp_compute_engine") ::
      ("host.type", .segment ["instance", "machineType"]) ::
      ("host.id", .document ["instance", "id"]) ::
      ("host.name", .document ["instance", "name"]) :: zoneRows

/-- The service by its specification: the first whose mark is in the environment, with an empty
value too; failing these, a virtual machine if the document has a machine type. -/
def chosen (document : Json) (environment : Environment) : Option Service :=
  if (environment.get? "KUBERNETES_SERVICE_HOST").isSome then some .kubernetesEngine
  else if (environment.get? "FUNCTION_TARGET").isSome then some .cloudFunctions
  else if (environment.get? "K_CONFIGURATION").isSome then some .cloudRun
  else if (environment.get? "GAE_SERVICE").isSome then some .appEngine
  else if document.lookup ["instance", "machineType"] ≠ [] then some .computeEngine
  else none

/-- The rows that apply. -/
def rows (document : Json) (environment : Environment) : List (Text × Origin) :=
  projectRows ++ (chosen document environment).elim [] Service.rows

/-- The value of an attribute, which is left out if it is empty. -/
def present (value : Text) : Option Text := if value = [] then none else some value

theorem present_eq_some {value v : Text} : present value = some v ↔ value ≠ [] ∧ v = value := by
  unfold present
  split
  · rename_i h
    exact iff_of_false nofun (fun hv => hv.1 h)
  · rename_i h
    rw [Option.some.injEq]
    exact ⟨fun hv => ⟨h, hv.symm⟩, fun hv => hv.2.symm⟩

theorem present_eq_none {value : Text} : present value = none ↔ value = [] := by
  unfold present
  split
  · rename_i h
    exact iff_of_true rfl h
  · rename_i h
    exact iff_of_false nofun h

/-- The pairs of a key and its value that the rows come to. Empty values are left out. -/
def told (document : Json) (environment : Environment) (rows : List (Text × Origin)) :
    List (Text × Text) :=
  (rows.map (fun r => (r.1, r.2.value document environment))).filter (fun e => e.2 ≠ [])

namespace Builder

/-- Sets what the rows tell, one after another. -/
def fill (b : Builder) (rows : List (Text × Origin)) : Builder :=
  rows.foldl (fun b r => b.set r.1 (r.2.value b.document b.environment)) b

theorem fill_cons (b : Builder) (key : Text) (origin : Origin) (rows : List (Text × Origin)) :
    b.fill ((key, origin) :: rows) =
      (b.set key (origin.value b.document b.environment)).fill rows := rfl

theorem fill_append (b : Builder) (rows more : List (Text × Origin)) :
    b.fill (rows ++ more) = (b.fill rows).fill more := List.foldl_append

/-- Of the two rows for a location at most one has a value. -/
theorem setClusterLocation_eq_fill (b : Builder) : b.setClusterLocation = b.fill clusterRows := by
  change b.setClusterLocation =
    (b.set Attribute.cloudRegion ((Origin.location 1 DocumentPath.clusterLocation).value b.document
      b.environment)).set Attribute.cloudAvailabilityZone
      ((Origin.location 2 DocumentPath.clusterLocation).value _ _)
  unfold setClusterLocation
  simp only [Origin.value, set_document, metadata]
  split
  · rename_i h
    rw [if_pos h, if_neg (by omega)]
    rfl
  · rename_i h
    rw [if_neg (by omega), if_pos h]
    rfl
  · rename_i h h'
    rw [if_neg h, if_neg h']
    rfl

theorem setZoneAndRegion_eq_fill (b : Builder) : b.setZoneAndRegion = b.fill zoneRows := by
  simp only [zoneRows, fill_cons, Origin.value, set_document]
  rfl

theorem serverless_eq_fill (b : Builder) (s : Service) :
    b.serverless s = b.fill (serverlessRows s.name) := by
  simp only [serverlessRows, fill_cons, Origin.value, set_document, set_environment]
  simp only [serverless, setService, setVariable, setMetadata, metadata, set_document,
    set_environment]
  rfl

theorem setProject_eq_fill (b : Builder) : b.setProject = b.fill projectRows := by
  simp only [projectRows, fill_cons, Origin.value, set_document]
  simp only [setProject, setMetadata, metadata, set_document]
  rfl

/-- What a service contributes is what its rows tell. -/
theorem describe_eq_fill (b : Builder) (s : Service) : b.describe s = b.fill s.rows := by
  cases s with
  | kubernetesEngine =>
    rw [describe, kubernetesEngine, setClusterLocation_eq_fill]
    simp only [Service.rows, fill_cons, Origin.value, set_document, setMetadata, metadata,
      setService]
    rfl
  | cloudFunctions => exact b.serverless_eq_fill .cloudFunctions
  | cloudRun => exact b.serverless_eq_fill .cloudRun
  | appEngine =>
    rw [describe, appEngine, setZoneAndRegion_eq_fill]
    simp only [Service.rows, fill_cons, Origin.value, set_environment, setVariable, setService]
    rfl
  | computeEngine =>
    rw [describe, computeEngine, setZoneAndRegion_eq_fill]
    simp only [Service.rows, fill_cons, Origin.value, set_document, setMetadata, metadata,
      setService]
    rfl

/-- New keys come after those that are there. -/
theorem entries_fill (b : Builder) {rows : List (Text × Origin)}
    (hn : (b.attributes.entries.map Prod.fst ++ rows.map Prod.fst).Nodup) :
    (b.fill rows).attributes.entries =
      b.attributes.entries ++ told b.document b.environment rows := by
  induction rows generalizing b with
  | nil => exact (List.append_nil _).symm
  | cons r rows ih =>
    obtain ⟨key, origin⟩ := r
    let value := origin.value b.document b.environment
    have hnew : key ∉ b.attributes.entries.map Prod.fst := by
      intro hm
      exact (List.nodup_append.mp hn).2.2 key hm key List.mem_cons_self rfl
    have hset := b.entries_set value hnew
    have hsub : ((b.set key value).attributes.entries.map Prod.fst ++ rows.map Prod.fst).Sublist
        (b.attributes.entries.map Prod.fst ++ ((key, origin) :: rows).map Prod.fst) := by
      rw [hset, List.map_append, List.append_assoc]
      apply (List.Sublist.refl _).append
      exact (List.filter_sublist.map Prod.fst).append (List.Sublist.refl (rows.map Prod.fst))
    rw [fill_cons, ih _ (hn.sublist hsub), hset, set_document, set_environment,
      List.append_assoc]
    simp only [told, List.map_cons, List.filter_cons]
    split <;> rfl

/-- The first mark that is present is found by asking for one after another. -/
theorem service?_eq_chosen (b : Builder) : b.service? = chosen b.document b.environment := by
  change b.service? =
    if b.hasVariable Variable.kubernetesServiceHost then some .kubernetesEngine
    else if b.hasVariable Variable.functionTarget then some .cloudFunctions
    else if b.hasVariable Variable.kConfiguration then some .cloudRun
    else if b.hasVariable Variable.gaeService then some .appEngine
    else if b.metadata DocumentPath.machineType ≠ [] then some .computeEngine
    else none
  simp only [service?, markers, List.find?_cons, List.find?_nil]
  cases b.hasVariable Variable.kubernetesServiceHost with
  | true => rfl
  | false =>
    cases b.hasVariable Variable.functionTarget with
    | true => rfl
    | false =>
      cases b.hasVariable Variable.kConfiguration with
      | true => rfl
      | false =>
        cases b.hasVariable Variable.gaeService with
        | true => rfl
        | false =>
          cases b.metadata DocumentPath.machineType with
          | nil => rfl
          | cons c t => rfl

end Builder

theorem nodup_rows (document : Json) (environment : Environment) :
    ((rows document environment).map Prod.fst).Nodup := by
  unfold rows
  cases chosen document environment with
  | none => decide
  | some s => cases s <;> decide

/-- The attributes are what the rows tell that apply, no more and no less, in that order. -/
theorem entries_classify (document : Json) (environment : Environment) :
    (classify document environment).entries =
      told document environment (rows document environment) := by
  have hfill : classify document environment =
      ((Builder.new document environment).fill (rows document environment)).attributes := by
    have hs : (Builder.new document environment).setProject.service? =
        chosen document environment := by
      rw [Builder.service?_eq_chosen]
      simp only [Builder.setProject, Builder.setMetadata, Builder.set_document,
        Builder.set_environment]
      rfl
    unfold classify rows
    dsimp only
    rw [hs, Builder.fill_append, ← Builder.setProject_eq_fill]
    cases chosen document environment with
    | none => rfl
    | some s => exact congrArg Builder.attributes (Builder.describe_eq_fill _ s)
  rw [hfill]
  exact (Builder.new document environment).entries_fill (nodup_rows document environment)

/-- An attribute is there exactly if a row that applies gives it a value that is not empty. -/
theorem get?_classify {document : Json} {environment : Environment} {key value : Text} :
    (classify document environment).get? key = some value ↔
      value ≠ [] ∧ ∃ origin, (key, origin) ∈ rows document environment ∧
        origin.value document environment = value := by
  rw [Table.get?_eq_some_iff, entries_classify, told, List.mem_filter, List.mem_map]
  constructor
  · intro h
    obtain ⟨⟨⟨k, origin⟩, hr, he⟩, hv⟩ := h
    obtain ⟨rfl, rfl⟩ := Prod.mk.inj he
    exact ⟨by simpa using hv, origin, hr, rfl⟩
  · intro h
    obtain ⟨hv, origin, hr, rfl⟩ := h
    exact ⟨⟨(key, origin), hr, rfl⟩, by simpa using hv⟩

theorem get?_of_no_row {document : Json} {environment : Environment} {key : Text}
    (h : key ∉ (rows document environment).map Prod.fst) :
    (classify document environment).get? key = none := by
  apply Option.eq_none_iff_forall_ne_some.mpr
  intro value hv
  obtain ⟨_, origin, hr, _⟩ := get?_classify.mp hv
  exact h (List.mem_map_of_mem (f := Prod.fst) hr)

/-- The attribute of a row has the row's value, unless that is empty. -/
theorem get?_of_row {document : Json} {environment : Environment} {key : Text} {origin : Origin}
    (h : (key, origin) ∈ rows document environment) :
    (classify document environment).get? key = present (origin.value document environment) := by
  by_cases he : origin.value document environment = []
  · rw [present_eq_none.mpr he]
    apply Option.eq_none_iff_forall_ne_some.mpr
    intro value hv
    obtain ⟨hne, other, hr, rfl⟩ := get?_classify.mp hv
    -- No two rows have the same key.
    have hn := nodup_rows document environment
    have hsame : some origin = some other :=
      ((lookup_eq_some_iff_mem hn).mpr h).symm.trans ((lookup_eq_some_iff_mem hn).mpr hr)
    exact hne (Option.some.inj hsame ▸ he)
  · rw [present_eq_some.mpr ⟨he, rfl⟩]
    exact get?_classify.mpr ⟨he, origin, h, rfl⟩

end CloudDetector.Resource
