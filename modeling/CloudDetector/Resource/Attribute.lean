import CloudDetector.Table

namespace CloudDetector

/-- The attributes of a resource, none of them empty. -/
abbrev Attributes := Table Text

-- Names that telemetry gives to the attributes of a resource.
namespace Attribute

def cloudProvider : Text := "cloud.provider"
def cloudAccountId : Text := "cloud.account.id"
def cloudPlatform : Text := "cloud.platform"
def cloudRegion : Text := "cloud.region"
def cloudAvailabilityZone : Text := "cloud.availability_zone"
def clusterName : Text := "k8s.cluster.name"
def hostId : Text := "host.id"
def hostName : Text := "host.name"
def hostType : Text := "host.type"
def faasName : Text := "faas.name"
def faasVersion : Text := "faas.version"
def faasInstance : Text := "faas.instance"

end Attribute

end CloudDetector
