import Mathlib.Data.List.AList

/-!
# The API types of the subnet service

The `infrav1` values `reconcileSubnets` reads and writes: a subnet's spec and the
subnet list, the parameters of the tag builder, and the VPC spec. Only the fields the
service touches are kept; a field keeps its Go zero value as its default, so a literal
here reads like the composite literal of the source.

The API package is not part of the source. Its helpers are modelled from their use in
`subnets.go` and from the spec, each marked as such.
-/

namespace CapaSubnets

/-- A resource's tags, `infrav1.Tags`: a map from key to value. -/
abbrev Tags := AList (fun _ : String => String)

structure SubnetSpec where
  id : String := ""
  cidrBlock : String := ""
  ipv6CidrBlock : String := ""
  availabilityZone : String := ""
  isPublic : Bool := false
  isIPv6 : Bool := false
  routeTableID : Option String := none
  natGatewayID : Option String := none
  tags : Tags := ∅
  deriving DecidableEq

abbrev Subnets := List SubnetSpec

/-- Modelled from the spec: `Subnets.FindEqual`, the first subnet with the spec's ID (when it has
one), its CIDR block, or its IPv6 block (when it has one). -/
def Subnets.findEqual (s : Subnets) (spec : SubnetSpec) : Option SubnetSpec :=
  s.find? fun x => (spec.id != "" && x.id == spec.id) || spec.cidrBlock == x.cidrBlock ||
    (spec.ipv6CidrBlock != "" && spec.ipv6CidrBlock == x.ipv6CidrBlock)

/-- Modelled from the spec: `Subnets.FilterPrivate`. -/
def Subnets.filterPrivate (s : Subnets) : Subnets := s.filter fun x => !x.isPublic

/-- Modelled from the spec: `Subnets.FilterPublic`. -/
def Subnets.filterPublic (s : Subnets) : Subnets := s.filter fun x => x.isPublic

theorem Subnets.findEqual_mem {s : Subnets} (h : s.findEqual spec = some x) : x ∈ s :=
  List.mem_of_find?_eq_some h

@[simp] theorem Subnets.findEqual_nil (spec : SubnetSpec) : Subnets.findEqual [] spec = none :=
  rfl

-- ---------------------------------------------------------------------------
-- Tag keys and values
-- ---------------------------------------------------------------------------

def nameAWSClusterAPIRole : String := "sigs.k8s.io/cluster-api-provider-aws/role"
def nameAWSSubnetAssociation : String := "sigs.k8s.io/cluster-api-provider-aws/association"
def secondarySubnetTagValue : String := "secondary"
def publicRoleTagValue : String := "public"
def privateRoleTagValue : String := "private"
def resourceLifecycleOwned : String := "owned"
def resourceLifecycleShared : String := "shared"

/-- The tag that marks a resource as owned by, or shared with, the cluster. -/
def clusterTagKey (name : String) : String := "sigs.k8s.io/cluster-api-provider-aws/cluster/" ++ name

/-- The tag the Kubernetes cloud provider looks for. -/
def clusterAWSCloudProviderTagKey (name : String) : String := "kubernetes.io/cluster/" ++ name

/-- Modelled from the spec: `Tags.HasOwned`. -/
def Tags.hasOwned (t : Tags) (cluster : String) : Bool :=
  t.lookup (clusterTagKey cluster) == some resourceLifecycleOwned

/-- Modelled from the spec: `Tags.GetRole`, empty when the role tag is absent. -/
def Tags.getRole (t : Tags) : String := (t.lookup nameAWSClusterAPIRole).getD ""

-- ---------------------------------------------------------------------------
-- The tag builder
-- ---------------------------------------------------------------------------

structure BuildParams where
  clusterName : String := ""
  resourceID : String := ""
  lifecycle : String := ""
  name : Option String := none
  role : Option String := none
  additional : Tags := ∅

/-- Modelled from the spec: `infrav1.Build`. The additional tags, then the cluster tag with the
lifecycle when a cluster is named, then the role and the `Name` tag when they are set. -/
def build (params : BuildParams) : Tags :=
  let tags := params.additional
  let tags := if params.clusterName != "" then
    tags.insert (clusterTagKey params.clusterName) params.lifecycle else tags
  let tags := match params.role with
    | some role => tags.insert nameAWSClusterAPIRole role
    | none => tags
  match params.name with
  | some name => tags.insert "Name" name
  | none => tags

theorem build_additional (params : BuildParams) (hc : params.clusterName = "")
    (hr : params.role = none) (hn : params.name = none) : build params = params.additional := by
  simp [build, hc, hr, hn]

-- ---------------------------------------------------------------------------
-- The VPC
-- ---------------------------------------------------------------------------

/-- How zones are picked when the region has more than the usage limit. -/
abbrev AZSelectionScheme := String

def azSelectionSchemeOrdered : AZSelectionScheme := "Ordered"
def azSelectionSchemeRandom : AZSelectionScheme := "Random"

structure IPv6 where
  cidrBlock : String

structure VPCSpec where
  id : String := ""
  cidrBlock : String := ""
  ipv6 : Option IPv6 := none
  tags : Tags := ∅
  availabilityZoneUsageLimit : Option Int := none
  availabilityZoneSelection : Option AZSelectionScheme := none

def VPCSpec.isIPv6Enabled (v : VPCSpec) : Bool := v.ipv6.isSome

/-- Modelled from the spec: `VPCSpec.IsUnmanaged`. A VPC given by ID that the cluster does not
own is brought by the user. -/
def VPCSpec.isUnmanaged (v : VPCSpec) (clusterName : String) : Bool :=
  v.id != "" && !v.tags.hasOwned clusterName

theorem VPCSpec.id_ne_of_isUnmanaged {v : VPCSpec} {clusterName : String} (h : v.isUnmanaged clusterName = true) :
    v.id ≠ "" := fun hid => by
  simp [VPCSpec.isUnmanaged, hid] at h

end CapaSubnets
