import CloudDetector.Resource.Service

namespace CloudDetector.Resource

/-- Services that show in the environment, in order of precedence. -/
def markers : List (Text × Service) :=
  [(Variable.kubernetesServiceHost, .kubernetesEngine),
    (Variable.functionTarget, .cloudFunctions),
    (Variable.kConfiguration, .cloudRun),
    (Variable.gaeService, .appEngine)]

/-- The service of the first marker that is present; failing that, a machine type tells of a
virtual machine. -/
def Builder.service? (b : Builder) : Option Service :=
  match markers.find? (fun m => b.hasVariable m.1) with
  | some m => some m.2
  | none => if (b.metadata DocumentPath.machineType).isEmpty then none else some .computeEngine

/-- What is told of every service. -/
def Builder.setProject (b : Builder) : Builder :=
  (b.set Attribute.cloudProvider "gcp").setMetadata Attribute.cloudAccountId DocumentPath.projectId

/-- The attributes of a resource from its metadata document and its environment. -/
def classify (document : Json) (environment : Environment) : Attributes :=
  let b := (Builder.new document environment).setProject
  match b.service? with
  | some s => (b.describe s).attributes
  | none => b.attributes

end CloudDetector.Resource
