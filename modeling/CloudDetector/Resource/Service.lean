import CloudDetector.Resource.Location

namespace CloudDetector.Resource

namespace Variable

def kubernetesServiceHost : Text := "KUBERNETES_SERVICE_HOST"
def functionTarget : Text := "FUNCTION_TARGET"
def kConfiguration : Text := "K_CONFIGURATION"
def kService : Text := "K_SERVICE"
def kRevision : Text := "K_REVISION"
def gaeService : Text := "GAE_SERVICE"
def gaeVersion : Text := "GAE_VERSION"
def gaeInstance : Text := "GAE_INSTANCE"

end Variable

inductive Service
  | kubernetesEngine
  | cloudFunctions
  | cloudRun
  | appEngine
  | computeEngine
deriving DecidableEq

def Service.name : Service → Text
  | kubernetesEngine => "gcp_kubernetes_engine"
  | cloudFunctions => "gcp_cloud_functions"
  | cloudRun => "gcp_cloud_run"
  | appEngine => "gcp_app_engine"
  | computeEngine => "gcp_compute_engine"

namespace Builder

def setService (b : Builder) (s : Service) : Builder := b.set Attribute.cloudPlatform s.name

def kubernetesEngine (b : Builder) : Builder :=
  (b.setService .kubernetesEngine
    |>.setMetadata Attribute.clusterName DocumentPath.clusterName
    |>.setMetadata Attribute.hostId DocumentPath.instanceId
    |>.setClusterLocation)

def serverless (b : Builder) (s : Service) : Builder :=
  (b.setService s
    |>.setVariable Attribute.faasName Variable.kService
    |>.setVariable Attribute.faasVersion Variable.kRevision
    |>.setMetadata Attribute.faasInstance DocumentPath.instanceId)

def appEngine (b : Builder) : Builder :=
  (b.setService .appEngine
    |>.setVariable Attribute.faasName Variable.gaeService
    |>.setVariable Attribute.faasVersion Variable.gaeVersion
    |>.setVariable Attribute.faasInstance Variable.gaeInstance
    |>.setZoneAndRegion)

def computeEngine (b : Builder) : Builder :=
  (b.setService .computeEngine
    |>.set Attribute.hostType (lastSegment (b.metadata DocumentPath.machineType))
    |>.setMetadata Attribute.hostId DocumentPath.instanceId
    |>.setMetadata Attribute.hostName DocumentPath.instanceName
    |>.setZoneAndRegion)

/-- What one service contributes. -/
def describe (b : Builder) : Service → Builder
  | .kubernetesEngine => b.kubernetesEngine
  | .cloudFunctions => b.serverless .cloudFunctions
  | .cloudRun => b.serverless .cloudRun
  | .appEngine => b.appEngine
  | .computeEngine => b.computeEngine

end Builder

end CloudDetector.Resource
