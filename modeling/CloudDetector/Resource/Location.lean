import CloudDetector.Resource.Builder
import CloudDetector.Text.Segment

namespace CloudDetector.Resource

namespace DocumentPath

def projectId : Path := ["project", "projectId"]
def instanceId : Path := ["instance", "id"]
def instanceName : Path := ["instance", "name"]
def instanceZone : Path := ["instance", "zone"]
def machineType : Path := ["instance", "machineType"]
def clusterName : Path := ["instance", "attributes", "cluster-name"]
def clusterLocation : Path := ["instance", "attributes", "cluster-location"]

end DocumentPath

/-- The last segment of a qualified name such as `projects/1/zones/us-east1-b`. -/
def lastSegment (name : Text) : Text := name.afterLast '/'

/-- A zone's name is its region's with one more part. -/
def regionOfZone (zone : Text) : Text := zone.beforeLast '-'

namespace Builder

def setZoneAndRegion (b : Builder) : Builder :=
  let zone := lastSegment (b.metadata DocumentPath.instanceZone)
  (b.set Attribute.cloudAvailabilityZone zone).set Attribute.cloudRegion (regionOfZone zone)

/-- A location with one hyphen is a region and one with two is a zone. Any other says nothing. -/
def setClusterLocation (b : Builder) : Builder :=
  let location := lastSegment (b.metadata DocumentPath.clusterLocation)
  match location.count (CodePoint.ofChar '-') with
  | 1 => b.set Attribute.cloudRegion location
  | 2 => b.set Attribute.cloudAvailabilityZone location
  | _ => b

end Builder

end CloudDetector.Resource
