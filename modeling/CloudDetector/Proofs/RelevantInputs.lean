import CloudDetector.Proofs.AttributeTable
import CloudDetector.Proofs.DocumentEdit

namespace CloudDetector.Resource

/-- The places in the document that tell something of a service. -/
def Service.paths : Service → List Path
  | kubernetesEngine =>
    [["instance", "id"], ["instance", "attributes", "cluster-name"],
      ["instance", "attributes", "cluster-location"]]
  | cloudFunctions | cloudRun => [["instance", "id"]]
  | appEngine => [["instance", "zone"]]
  | computeEngine =>
    [["instance", "machineType"], ["instance", "id"], ["instance", "name"], ["instance", "zone"]]

/-- The variables whose values tell something of a service. -/
def Service.variables : Service → List Text
  | cloudFunctions | cloudRun => ["K_SERVICE", "K_REVISION"]
  | appEngine => ["GAE_SERVICE", "GAE_VERSION", "GAE_INSTANCE"]
  | kubernetesEngine | computeEngine => []

/-- All places in the document that matter. Where no mark is in the environment, the machine type
does, if only to tell that there is none. -/
def relevantPaths (document : Json) (environment : Environment) : List Path :=
  ["project", "projectId"] ::
    (chosen document environment).elim [["instance", "machineType"]] Service.paths

/-- The first mark of a service that is in the environment. -/
def firstMark (environment : Environment) : Option (Text × Service) :=
  markers.find? (fun m => (environment.get? m.1).isSome)

/-- A change of the environment that keeps the first mark and the values that the chosen service
reads. An empty value is as good as none there. -/
structure KeepsVariables (document : Json) (environment environment' : Environment) : Prop where
  mark : firstMark environment' = firstMark environment
  values : ∀ s, chosen document environment = some s → ∀ name ∈ s.variables,
    (environment'.get? name).getD [] = (environment.get? name).getD []

/-- A mark decides by itself. Without one the machine type alone does. -/
theorem chosen_eq (document : Json) (environment : Environment) : chosen document environment =
    match firstMark environment with
    | some m => some m.2
    | none =>
      if (document.lookup ["instance", "machineType"]).isEmpty then none
      else some .computeEngine :=
  (Builder.new document environment).service?_eq_chosen.symm

theorem machine_type_relevant {environment : Environment} (h : firstMark environment = none)
    (document : Json) :
    (["instance", "machineType"] : Path) ∈ relevantPaths document environment := by
  apply List.mem_cons_of_mem
  simp only [chosen_eq, h]
  split <;> exact List.mem_cons_self

/-- The places and the variables that an origin reads. -/
def Origin.paths : Origin → List Path
  | .document path | segment path | region path | location _ path => [path]
  | _ => []

def Origin.variables : Origin → List Text
  | .environment name => [name]
  | _ => []

theorem value_congr {document document' : Json} {environment environment' : Environment}
    {origin : Origin}
    (hpaths : ∀ path ∈ origin.paths, document'.lookup path = document.lookup path)
    (hvariables : ∀ name ∈ origin.variables,
      (environment'.get? name).getD [] = (environment.get? name).getD []) :
    origin.value document' environment' = origin.value document environment := by
  cases origin with
  | constant value => rfl
  | environment name => exact hvariables name List.mem_cons_self
  | document path | segment path | region path | location hyphens path =>
    simp only [Origin.value, hpaths path List.mem_cons_self]

/-- The rows of a service read nothing else. -/
theorem row_reads (s : Service) : ∀ row ∈ s.rows,
    (∀ path ∈ row.2.paths, path ∈ s.paths) ∧ ∀ name ∈ row.2.variables, name ∈ s.variables := by
  cases s <;> decide

section Unchanged

variable {document document' : Json} {environment environment' : Environment}
  (hpaths : ∀ path ∈ relevantPaths document environment,
    document'.lookup path = document.lookup path)
  (hkeeps : KeepsVariables document environment environment')

include hpaths hkeeps

theorem chosen_unchanged : chosen document' environment' = chosen document environment := by
  rw [chosen_eq, chosen_eq, hkeeps.mark]
  cases hm : firstMark environment with
  | some m => rfl
  | none =>
    dsimp only
    rw [hpaths _ (machine_type_relevant hm document)]

theorem value_unchanged {row : Text × Origin} (hr : row ∈ rows document environment) :
    row.2.value document' environment' = row.2.value document environment := by
  rcases List.mem_append.mp hr with hr | hr
  · simp only [projectRows, List.mem_cons, List.not_mem_nil, or_false] at hr
    rcases hr with rfl | rfl
    · rfl
    · exact hpaths _ List.mem_cons_self
  · cases hs : chosen document environment with
    | none =>
      rw [hs] at hr
      cases hr
    | some s =>
      rw [hs] at hr
      obtain ⟨hp, hv⟩ := row_reads s row hr
      apply value_congr
      · intro path hpath
        apply hpaths
        rw [relevantPaths, hs]
        exact List.mem_cons_of_mem _ (hp path hpath)
      · intro name hname
        exact hkeeps.values s hs name (hv name hname)

/-- Nothing but the relevant inputs shows in the attributes. -/
theorem classify_unchanged : classify document' environment' = classify document environment := by
  have hrows : rows document' environment' = rows document environment := by
    rw [rows, rows, chosen_unchanged hpaths hkeeps]
  apply Table.eq_of_entries
  rw [entries_classify, entries_classify, hrows, told, told]
  congr 1
  apply List.map_congr_left
  intro row hr
  rw [value_unchanged hpaths hkeeps hr]

end Unchanged

/-- Neither an edit of the document outside the relevant places nor a change of the environment that
keeps the relevant variables shows in the attributes, alone or together. Below a relevant place the
document may be edited too. On a cluster or a virtual machine no value of a variable shows. -/
theorem irrelevant_inputs_do_not_show {document : Json} {environment environment' : Environment}
    (hkeeps : KeepsVariables document environment environment') :
    classify document environment' = classify document environment ∧
    (∀ (e : Json.Edit) (name : Text) (parent : Path) (members : List (Text × Json)),
      document.reach? parent = some (.object members) →
      (∀ path ∈ relevantPaths document environment, ¬parent ++ [name] <+: path) →
      ∃ document', document.edit? e name parent = some document' ∧
        document'.reach? (parent ++ [name]) = e.value? ∧
        classify document' environment' = classify document environment) ∧
    (chosen document environment = some .kubernetesEngine ∨
        chosen document environment = some .computeEngine →
      ∀ other, firstMark other = firstMark environment →
        classify document other = classify document environment) := by
  refine ⟨classify_unchanged (fun _ _ => rfl) hkeeps, ?_, ?_⟩
  · intro e name parent members hparent hplace
    obtain ⟨document', hedit, hvalue⟩ := Json.edit_of_reach e name hparent
    refine ⟨document', hedit, hvalue, classify_unchanged ?_ hkeeps⟩
    intro path hpath
    exact Json.lookup_edit hedit (hplace path hpath)
  · intro hs other hmark
    refine classify_unchanged (fun _ _ => rfl) ⟨hmark, ?_⟩
    intro s hs' name hname
    rcases hs with hs | hs
    · obtain rfl := Option.some.inj (hs.symm.trans hs')
      cases hname
    · obtain rfl := Option.some.inj (hs.symm.trans hs')
      cases hname

/-- In a cluster something is put below the cluster's name, which is no text, and variables of other
services appear. -/
theorem cluster_name_edited_below :
    let document : Json := .object [
      ("project", .object [("projectId", .string "p")]),
      ("instance", .object [("id", .integer 7), ("attributes", .object [("cluster-name", .object [])])])]
    let environment : Environment := .ofList [("KUBERNETES_SERVICE_HOST", [])]
    let environment' : Environment := .ofList
      [("GAE_SERVICE", "shop"), ("KUBERNETES_SERVICE_HOST", "10.0.0.1"), ("K_SERVICE", "shop")]
    let parent : Path := ["instance", "attributes", "cluster-name"]
    let name : Text := "here"
    let e : Json.Edit := .put (.string "x")
    KeepsVariables document environment environment' ∧
    document.reach? parent = some (.object []) ∧
    (∀ path ∈ relevantPaths document environment, ¬parent ++ [name] <+: path) ∧
    ∃ document', document.edit? e name parent = some document' ∧
      document'.reach? (parent ++ [name]) = some (.string "x") ∧
      classify document' environment' = classify document environment := by
  intro document environment environment' parent name e
  have hs : chosen document environment = some .kubernetesEngine := rfl
  have hkeeps : KeepsVariables document environment environment' := by
    refine ⟨rfl, ?_⟩
    intro s hs' _ hname
    obtain rfl := Option.some.inj (hs.symm.trans hs')
    cases hname
  have hplace : ∀ path ∈ relevantPaths document environment, ¬parent ++ [name] <+: path := by
    rw [relevantPaths, hs]
    decide
  obtain ⟨_, hedits, _⟩ := irrelevant_inputs_do_not_show hkeeps
  exact ⟨hkeeps, rfl, hplace, hedits e name parent [] rfl hplace⟩

end CloudDetector.Resource
