import CapaSubnets.Api

/-!
# EC2 and the world a pass acts on

A pass of the subnet service talks to EC2 and to the cluster object. The model keeps both
in one `World`: the subnets, route tables, NAT gateways and zones of the cloud; the
cluster's subnet list, which `scope.Subnets()` reads and `SetSubnets` writes; the log of
every call issued, newest first; and a fault oracle that says, for the `n`-th call, whether
it fails and with which AWS error. Ranging over every oracle is ranging over every pattern of
failures.

A call the oracle fails is logged and changes nothing else. `Ec2` is `EStateM`, so a fault
keeps the world it was raised in, as the side effects of a Go function stay when it returns
an error.
-/

namespace CapaSubnets

/-- An error a call can end with: one of the AWS API with its code, or any other. A Go runtime
panic (an index out of range, a nil dereference) is a fault of its own. -/
inductive Fault where
  | aws (code message : String)
  | error (message : String)
  | panic (message : String)
  deriving DecidableEq

namespace Fault

/-- `awserrors.Code(errors.Cause(err))`. -/
def code : Fault → Option String
  | aws code _ => some code
  | _ => none

/-- `errors.Wrap(err, context)`: the message gets the context, the cause keeps its code. A
panic is no error value and passes through. -/
def wrap (context : String) : Fault → Fault
  | aws code message => aws code (context ++ ": " ++ message)
  | error message => error (context ++ ": " ++ message)
  | panic message => panic message

@[simp] theorem wrap_panic (context message : String) : (panic message).wrap context = panic message :=
  rfl

def isPanic : Fault → Bool
  | panic _ => true
  | _ => false

@[simp] theorem isPanic_wrap (context : String) (f : Fault) : (f.wrap context).isPanic = f.isPanic := by
  cases f <;> rfl

end Fault

-- ---------------------------------------------------------------------------
-- The cloud
-- ---------------------------------------------------------------------------

structure Ipv6CidrBlockAssociation where
  ipv6CidrBlock : String
  state : String
  deriving DecidableEq

def subnetCidrBlockStateCodeAssociated : String := "associated"

structure Ec2Subnet where
  subnetId : String
  vpcId : String := ""
  cidrBlock : String := ""
  availabilityZone : String := ""
  ipv6CidrBlockAssociationSet : List Ipv6CidrBlockAssociation := []
  tags : Tags := ∅
  mapPublicIpOnLaunch : Bool := false
  assignIpv6AddressOnCreation : Bool := false

structure Route where
  gatewayId : Option String := none

structure RouteTable where
  routeTableId : Option String := none
  routes : List Route := []

structure NatGateway where
  natGatewayId : Option String := none

structure Cloud where
  subnets : List Ec2Subnet := []
  /-- Route tables by associated subnet ID, the main one under `mainRouteTableInVPCKey`. -/
  routeTables : List (String × RouteTable) := []
  natGateways : List (String × NatGateway) := []
  availabilityZones : List String := []

def Cloud.subnetIds (c : Cloud) : List String := c.subnets.map (·.subnetId)

/-- An ID no subnet of the cloud has: longer than each of theirs. -/
def Cloud.freshSubnetId (c : Cloud) : String :=
  "subnet-" ++ String.mk (List.replicate ((c.subnets.map (·.subnetId.length)).foldr (· + ·) 0) '0')

theorem length_le_foldr_add {l : List Nat} (h : n ∈ l) : n ≤ l.foldr (· + ·) 0 := by
  induction l with
  | nil => cases h
  | cons m l ih =>
    rcases List.mem_cons.mp h with rfl | h
    · exact Nat.le_add_right _ _
    · exact (ih h).trans (Nat.le_add_left _ _)

theorem Cloud.freshSubnetId_fresh (c : Cloud) : c.freshSubnetId ∉ c.subnetIds := by
  intro h
  obtain ⟨sn, hsn, he⟩ := List.mem_map.mp h
  have hl : sn.subnetId.length ≤ (c.subnets.map (·.subnetId.length)).foldr (· + ·) 0 :=
    length_le_foldr_add (List.mem_map_of_mem _ hsn)
  have hlen := congrArg String.length he
  have h7 : "subnet-".length = 7 := rfl
  simp only [freshSubnetId, String.length_append, String.length_mk, List.length_replicate] at hlen
  omega

-- ---------------------------------------------------------------------------
-- Calls and the world
-- ---------------------------------------------------------------------------

inductive SubnetAttribute where
  | assignIpv6AddressOnCreation
  | mapPublicIpOnLaunch
  deriving DecidableEq

/-- Set an attribute to true, the only value the service writes. -/
def SubnetAttribute.set : SubnetAttribute → Ec2Subnet → Ec2Subnet
  | .assignIpv6AddressOnCreation, sn => { sn with assignIpv6AddressOnCreation := true }
  | .mapPublicIpOnLaunch, sn => { sn with mapPublicIpOnLaunch := true }

structure CreateSubnetInput where
  vpcId : String
  cidrBlock : String
  availabilityZone : String
  ipv6CidrBlock : Option String := none
  /-- The tags of its `TagSpecifications`. -/
  tags : Tags
  deriving DecidableEq

inductive Call where
  | describeSubnets
  | describeRouteTables
  | describeNatGateways
  | describeAvailabilityZones
  | createSubnet (input : CreateSubnetInput)
  | waitUntilSubnetAvailable (subnetId : String)
  | modifySubnetAttribute (subnetId : String) (attr : SubnetAttribute)
  | createTags (resource : String) (tags : Tags)
  | deleteSubnet (subnetId : String)
  | patchObject
  deriving DecidableEq

/-- An error of the AWS API, which a call the oracle fails ends with. -/
structure AwsError where
  code : String
  message : String

structure World where
  cloud : Cloud
  /-- The cluster's subnet list. -/
  subnets : Subnets
  calls : List Call := []
  fault : Nat → Option AwsError := fun _ => none

abbrev Ec2 := EStateM Fault World

/-- Issue `call`: it is logged and, unless the oracle fails it, has `effect` on the cloud. -/
def issue {α : Type} (call : Call) (effect : Cloud → α × Cloud) : Ec2 α := fun w =>
  match w.fault w.calls.length with
  | some err => .error (.aws err.code err.message) { w with calls := call :: w.calls }
  | none => .ok (effect w.cloud).1 { w with cloud := (effect w.cloud).2, calls := call :: w.calls }

/-- Run `x` and hand back how it ended as a value; its effects stay. -/
def attempt {α : Type} (x : Ec2 α) : Ec2 (Except Fault α) := fun w =>
  match x w with
  | .ok a w => .ok (.ok a) w
  | .error e w => .ok (.error e) w

/-- The world a computation ends in, by value or by fault. -/
def after {α : Type} (x : Ec2 α) (w : World) : World :=
  match x w with
  | .ok _ w => w
  | .error _ w => w

namespace EC2Client

def describeSubnets (filter : Ec2Subnet → Bool) : Ec2 (List Ec2Subnet) :=
  issue .describeSubnets fun c => (c.subnets.filter filter, c)

def createSubnet (input : CreateSubnetInput) : Ec2 Ec2Subnet :=
  issue (.createSubnet input) fun c =>
    let sn : Ec2Subnet :=
      { subnetId := c.freshSubnetId, vpcId := input.vpcId, cidrBlock := input.cidrBlock,
        availabilityZone := input.availabilityZone, tags := input.tags,
        ipv6CidrBlockAssociationSet := input.ipv6CidrBlock.toList.map
          fun b => ⟨b, subnetCidrBlockStateCodeAssociated⟩ }
    (sn, { c with subnets := c.subnets ++ [sn] })

def waitUntilSubnetAvailable (subnetId : String) : Ec2 Unit :=
  issue (.waitUntilSubnetAvailable subnetId) fun c => ((), c)

def modifySubnetAttribute (subnetId : String) (attr : SubnetAttribute) : Ec2 Unit :=
  issue (.modifySubnetAttribute subnetId attr) fun c =>
    ((), { c with subnets := c.subnets.map fun sn =>
      if sn.subnetId = subnetId then attr.set sn else sn })

/-- `CreateTags` adds the tags to the resource, replacing the values of keys it has. -/
def createTags (resource : String) (tags : Tags) : Ec2 Unit :=
  issue (.createTags resource tags) fun c =>
    ((), { c with subnets := c.subnets.map fun sn =>
      if sn.subnetId = resource then { sn with tags := tags ∪ sn.tags } else sn })

def deleteSubnet (subnetId : String) : Ec2 Unit :=
  issue (.deleteSubnet subnetId) fun c =>
    ((), { c with subnets := c.subnets.filter fun sn => sn.subnetId != subnetId })

end EC2Client

/-- Modelled from the spec: `describeVpcRouteTablesBySubnet` (not in the source), one
`DescribeRouteTables` call giving the VPC's route tables by subnet. -/
def describeVpcRouteTablesBySubnet : Ec2 (List (String × RouteTable)) :=
  issue .describeRouteTables fun c => (c.routeTables, c)

/-- Modelled from the spec: `describeNatGatewaysBySubnet` (not in the source). -/
def describeNatGatewaysBySubnet : Ec2 (List (String × NatGateway)) :=
  issue .describeNatGateways fun c => (c.natGateways, c)

/-- Modelled from the spec: `getAvailableZones` (not in the source), the names of the zones of
one `DescribeAvailabilityZones` call, in the order it gives them. -/
def getAvailableZones : Ec2 (List String) :=
  EStateM.adaptExcept (Fault.wrap "failed to describe availability zones")
    (issue .describeAvailabilityZones fun c => (c.availabilityZones, c))

/-- `scope.PatchObject()`: a write to the cluster object, which may fail. -/
def patchObject : Ec2 Unit := issue .patchObject fun c => ((), c)

/-- `scope.Subnets()`. -/
def getSubnets : Ec2 Subnets := fun w => .ok w.subnets w

/-- `scope.SetSubnets(subnets)`. -/
def setSubnets (subnets : Subnets) : Ec2 Unit := fun w => .ok () { w with subnets }

-- ---------------------------------------------------------------------------
-- Retries and tags
-- ---------------------------------------------------------------------------

/-- `awserrors.SubnetNotFound`. -/
def subnetNotFound : String := "InvalidSubnetID.NotFound"

/-- Modelled from the spec: `wait.NewBackoff()` allows ten attempts. -/
def newBackoffSteps : Nat := 10

def errWaitTimeout : Fault := .error "timed out waiting for the condition"

/-- Modelled from the spec: `wait.WaitForWithRetryable`, at most `steps` attempts, retrying an
error with a retryable AWS code and returning any other at once. -/
def waitForWithRetryable (retryable : List String) (condition : Ec2 Unit) : Nat → Ec2 Unit
  | 0 => throw errWaitTimeout
  | steps + 1 => do
    match ← attempt condition with
    | .ok () => pure ()
    | .error err =>
      if err.code.any retryable.contains && steps != 0 then
        waitForWithRetryable retryable condition steps
      else throw err

/-- Modelled from the spec: `tags.Builder.Ensure` with the EC2 apply function, one `CreateTags` of
all of `Build(params)` when a tag of it is missing from `current` or differs there. -/
def ensure (params : BuildParams) (current : Tags) : Ec2 Unit :=
  let want := build params
  if want.entries.any fun t => current.lookup t.1 != some t.2 then
    EC2Client.createTags params.resourceID want
  else pure ()

end CapaSubnets
