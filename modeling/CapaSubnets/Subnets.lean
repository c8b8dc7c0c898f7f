import Mathlib.Data.String.Basic
import CapaSubnets.Ec2

/-!
# The subnet service

`subnets.go` of the network service, function by function, over the world of `Ec2`.

`reconcileSubnets` keeps its local `subnets` in the cluster's subnet list of the world: the
source reads the list once at the start and persists the local on every return through its
deferred `SetSubnets`, and nothing reads the list in between, so writing the local through
at each change persists the same list. Its three loops over the local each hand back the
list as they leave it together with how they ended, so that an error in the middle of a
loop persists the entries already done and the rest as they were.

Go's runtime panics are kept: `index`, `sliceTo` and `deref` raise `Fault.panic` where the
source would index out of range or dereference nil.
-/

namespace CapaSubnets

def internalLoadBalancerTag : String := "kubernetes.io/role/internal-elb"
def externalLoadBalancerTag : String := "kubernetes.io/role/elb"
def defaultMaxNumAZs : Int := 3

/-- `services.TemporaryResourceID`. -/
def temporaryResourceID : String := "temporary-resource-id"

def mainRouteTableInVPCKey : String := "main"

/-- The cluster scope, as far as the service reads it. -/
structure ClusterScope where
  name : String
  kubernetesClusterName : String
  vpc : VPCSpec
  secondaryCidrBlock : Option String := none
  tagUnmanagedNetworkResources : Bool := false
  additionalTags : Tags := ∅

/-- Modelled from the spec: the package `cidr` (not in the source), whose two splits give a number
of blocks of a block, or fail; which blocks is left open. -/
structure Cidr where
  splitIntoSubnetsIPv4 : String → Int → Except String (List String)
  splitIntoSubnetsIPv6 : String → Int → Except String (List String)

/-- `rand.Shuffle`: some permutation of the zones, any one. -/
structure Shuffle where
  run : List String → List String
  perm : ∀ zones, List.Perm (run zones) zones

structure Service where
  scope : ClusterScope
  cidr : Cidr
  shuffle : Shuffle

-- ---------------------------------------------------------------------------
-- Go's runtime
-- ---------------------------------------------------------------------------

/-- `%q` of Go's formatting. -/
def quote (s : String) : String := "\"" ++ s ++ "\""

/-- `xs[i]`: a panic when `i` is out of range. -/
def index {α : Type} (xs : List α) (i : Nat) : Ec2 α :=
  match xs[i]? with
  | some x => pure x
  | none => throw (.panic "runtime error: index out of range")

/-- `xs[:n]`: a panic when `n` is negative or past the end. -/
def sliceTo {α : Type} (xs : List α) (n : Int) : Ec2 (List α) :=
  if 0 ≤ n ∧ n ≤ xs.length then pure (xs.take n.toNat)
  else throw (.panic "runtime error: slice bounds out of range")

/-- `*p`: a panic when `p` is nil. -/
def deref {α : Type} : Option α → Ec2 α
  | some a => pure a
  | none => throw (.panic "runtime error: invalid memory address or nil pointer dereference")

/-- An error returned by the package `cidr`. -/
def fromExcept {α : Type} : Except String α → Ec2 α
  | .ok a => pure a
  | .error e => throw (.error e)

/-- `sort.Strings`: ascending byte by byte, which on UTF-8 text is the order of code points. -/
def sortStrings (zones : List String) : List String := zones.mergeSort fun a b => decide (a ≤ b)

-- ---------------------------------------------------------------------------
-- Tags
-- ---------------------------------------------------------------------------

def getSubnetTagParams (s : Service) (unmanagedVPC : Bool) (id : String) (public : Bool)
    (zone : String) (manualTags : Tags) : BuildParams :=
  let tagged := !unmanagedVPC || s.scope.tagUnmanagedNetworkResources
  let role := if tagged then (if public then publicRoleTagValue else privateRoleTagValue) else ""
  let additionalTags : Tags :=
    if tagged then
      (if public then s.scope.additionalTags.insert externalLoadBalancerTag "1"
        else s.scope.additionalTags.insert internalLoadBalancerTag "1").insert
        (clusterAWSCloudProviderTagKey s.scope.kubernetesClusterName) resourceLifecycleShared
    else ∅
  if !unmanagedVPC then
    { clusterName := s.scope.name, resourceID := id, lifecycle := resourceLifecycleOwned,
      name := some ((manualTags.lookup "Name").getD (s.scope.name ++ "-subnet-" ++ role ++ "-" ++ zone)),
      role := some role, additional := manualTags ∪ additionalTags }
  else { resourceID := id, additional := additionalTags }

-- ---------------------------------------------------------------------------
-- Describing, creating and deleting subnets
-- ---------------------------------------------------------------------------

/-- The filters of the input of `describeSubnets`: the cluster's subnets by tag while the VPC
has no ID, the VPC's subnets after. -/
def describeSubnetsFilter (s : Service) (sn : Ec2Subnet) : Bool :=
  if s.scope.vpc.id == "" then (sn.tags.lookup (clusterTagKey s.scope.name)).isSome
  else sn.vpcId == s.scope.vpc.id

def describeSubnets (s : Service) : Ec2 (List Ec2Subnet) :=
  EStateM.adaptExcept (Fault.wrap ("failed to describe subnets in vpc " ++ quote s.scope.vpc.id))
    (EC2Client.describeSubnets (describeSubnetsFilter s))

/-- The IPv6 block of the last associated entry of an association set, shared by
`describeVpcSubnets` and `createSubnet`. -/
def withIpv6Associations (set : List Ipv6CidrBlockAssociation) (spec : SubnetSpec) : SubnetSpec :=
  set.foldl (fun spec a => if a.state == subnetCidrBlockStateCodeAssociated then
    { spec with ipv6CidrBlock := a.ipv6CidrBlock, isIPv6 := true } else spec) spec

/-- The body of the loop of `describeVpcSubnets`: the spec of one EC2 subnet. It is public when
tagged so or when its route table routes to an internet gateway. -/
def subnetSpecOf (routeTables : List (String × RouteTable)) (natGateways : List (String × NatGateway))
    (ec2sn : Ec2Subnet) : SubnetSpec :=
  let spec := withIpv6Associations ec2sn.ipv6CidrBlockAssociationSet
    { id := ec2sn.subnetId, availabilityZone := ec2sn.availabilityZone, tags := ec2sn.tags,
      cidrBlock := ec2sn.cidrBlock }
  let spec := if spec.tags.getRole == publicRoleTagValue then { spec with isPublic := true } else spec
  let rt := (routeTables.lookup ec2sn.subnetId).orElse fun _ => routeTables.lookup mainRouteTableInVPCKey
  let spec := match rt with
    | some rt =>
      let igw := rt.routes.any fun r => r.gatewayId.any (·.startsWith "igw")
      { spec with routeTableID := rt.routeTableId, isPublic := spec.isPublic || igw }
    | none => spec
  match natGateways.lookup ec2sn.subnetId with
  | some ngw => { spec with natGatewayID := ngw.natGatewayId }
  | none => spec

def describeVpcSubnets (s : Service) : Ec2 Subnets := do
  let sns ← describeSubnets s
  let routeTables ← describeVpcRouteTablesBySubnet
  let natGateways ← describeNatGatewaysBySubnet
  pure (sns.map (subnetSpecOf routeTables natGateways))

/-- What `createSubnet` writes into its argument before any call: `sn.IsIPv6 = true` when the
VPC has IPv6. It stays in the caller's list when the creation fails. -/
def markIPv6 (s : Service) (sn : SubnetSpec) : SubnetSpec :=
  if s.scope.vpc.isIPv6Enabled then { sn with isIPv6 := true } else sn

/-- A follow-up of `createSubnet`: set one attribute of the new subnet, retried while EC2 does
not find the subnet yet. The two follow-ups differ in the attribute and the error's text. -/
def setSubnetAttribute (id : String) (attr : SubnetAttribute) (what : String) : Ec2 Unit :=
  EStateM.adaptExcept (Fault.wrap ("failed to set subnet " ++ quote id ++ " attribute " ++ what))
    (waitForWithRetryable [subnetNotFound] (EC2Client.modifySubnetAttribute id attr) newBackoffSteps)

def createSubnet (s : Service) (sn : SubnetSpec) : Ec2 SubnetSpec := do
  let input : CreateSubnetInput :=
    { vpcId := s.scope.vpc.id, cidrBlock := sn.cidrBlock, availabilityZone := sn.availabilityZone,
      tags := build (getSubnetTagParams s false temporaryResourceID sn.isPublic sn.availabilityZone sn.tags),
      ipv6CidrBlock := if s.scope.vpc.isIPv6Enabled then some sn.ipv6CidrBlock else none }
  let sn := markIPv6 s sn
  let out ← EStateM.adaptExcept (Fault.wrap "failed to create subnet") (EC2Client.createSubnet input)
  EStateM.adaptExcept (Fault.wrap ("failed to wait for subnet " ++ quote out.subnetId))
    (EC2Client.waitUntilSubnetAvailable out.subnetId)
  (if sn.isIPv6 then
    setSubnetAttribute out.subnetId .assignIpv6AddressOnCreation "assign ipv6 address on creation"
  else pure ())
  (if sn.isPublic then
    setSubnetAttribute out.subnetId .mapPublicIpOnLaunch "assign ipv4 address on creation"
  else pure ())
  pure (withIpv6Associations out.ipv6CidrBlockAssociationSet
    { id := out.subnetId, availabilityZone := out.availabilityZone, cidrBlock := out.cidrBlock,
      isPublic := sn.isPublic })

def deleteSubnet (id : String) : Ec2 Unit :=
  EStateM.adaptExcept (Fault.wrap ("failed to delete subnet " ++ quote id)) (EC2Client.deleteSubnet id)

def deleteSubnets (s : Service) : Ec2 Unit := do
  if s.scope.vpc.isUnmanaged s.scope.name then return
  let existing ← describeSubnets s
  existing.forM fun sn => deleteSubnet sn.subnetId

-- ---------------------------------------------------------------------------
-- Default subnets
-- ---------------------------------------------------------------------------

/-- The loop of `getDefaultSubnets` over the zones: a public and a private subnet for the
`i`-th zone, from the `i`-th block of each list. -/
def zoneSubnets (ipv6 : Bool) (publics privates publicIPv6s privateIPv6s : List String) :
    Nat → List String → Ec2 Subnets
  | _, [] => pure []
  | i, zone :: zones => do
    let publicCidr ← index publics i
    let privateCidr ← index privates i
    let publicSubnet : SubnetSpec := { cidrBlock := publicCidr, availabilityZone := zone, isPublic := true }
    let privateSubnet : SubnetSpec := { cidrBlock := privateCidr, availabilityZone := zone, isPublic := false }
    let pair ← (if ipv6 then do
        let publicIPv6 ← index publicIPv6s i
        let privateIPv6 ← index privateIPv6s i
        pure ({ publicSubnet with ipv6CidrBlock := publicIPv6, isIPv6 := true },
          { privateSubnet with ipv6CidrBlock := privateIPv6, isIPv6 := true })
      else pure (publicSubnet, privateSubnet))
    let rest ← zoneSubnets ipv6 publics privates publicIPv6s privateIPv6s (i + 1) zones
    pure (pair.1 :: pair.2 :: rest)

/-- The most zones `getDefaultSubnets` uses: the VPC's usage limit, three when it has none. -/
def maxZones (s : Service) : Int := s.scope.vpc.availabilityZoneUsageLimit.getD defaultMaxNumAZs

/-- How `getDefaultSubnets` picks zones past the limit: the VPC's scheme, `Ordered` when it
has none. -/
def selectionScheme (s : Service) : AZSelectionScheme :=
  s.scope.vpc.availabilityZoneSelection.getD azSelectionSchemeOrdered

/-- The zones in the order `getDefaultSubnets` cuts them in: shuffled for `Random`, sorted for
`Ordered`, as given for any other scheme. -/
def orderZones (s : Service) (zones : List String) : List String :=
  let zones := if selectionScheme s == azSelectionSchemeRandom then s.shuffle.run zones else zones
  if selectionScheme s == azSelectionSchemeOrdered then sortStrings zones else zones

/-- The zones `getDefaultSubnets` uses: all of them, or, past the limit, a prefix of them in
the scheme's order. -/
def selectZones (s : Service) (zones : List String) : Ec2 (List String) :=
  if maxZones s < zones.length then sliceTo (orderZones s zones) (maxZones s)
  else pure zones

/-- The IPv6 half of `getDefaultSubnets`: the public blocks split from the last top-level
block, so that they do not collide with the private ones, which are the rest but the first. -/
def ipv6SubnetCIDRs (s : Service) (numSubnets : Int) (numZones : Nat) :
    Ec2 (List String × List String) :=
  match s.scope.vpc.ipv6 with
  | none => pure ([], [])
  | some ipv6 => do
    let ipv6SubnetCIDRs ← EStateM.adaptExcept
      (Fault.wrap ("failed splitting IPv6 VPC CIDR " ++ quote ipv6.cidrBlock ++ " into subnets"))
      (fromExcept (s.cidr.splitIntoSubnetsIPv6 ipv6.cidrBlock numSubnets))
    let last ← index ipv6SubnetCIDRs (ipv6SubnetCIDRs.length - 1)
    let publicIPv6SubnetCIDRs ← EStateM.adaptExcept
      (Fault.wrap ("failed splitting IPv6 CIDR " ++ quote last ++ " into public subnets"))
      (fromExcept (s.cidr.splitIntoSubnetsIPv6 last numZones))
    pure (publicIPv6SubnetCIDRs, ipv6SubnetCIDRs.drop 1)

def getDefaultSubnets (s : Service) : Ec2 Subnets := do
  let zones ← selectZones s (← getAvailableZones)
  let numSubnets : Int := zones.length + 1
  let vpcCidr := s.scope.vpc.cidrBlock
  let subnetCIDRs ← EStateM.adaptExcept
    (Fault.wrap ("failed splitting VPC CIDR " ++ quote vpcCidr ++ " into subnets"))
    (fromExcept (s.cidr.splitIntoSubnetsIPv4 vpcCidr numSubnets))
  let first ← index subnetCIDRs 0
  let publicSubnetCIDRs ← EStateM.adaptExcept
    (Fault.wrap ("failed splitting CIDR " ++ quote first ++ " into public subnets"))
    (fromExcept (s.cidr.splitIntoSubnetsIPv4 first zones.length))
  let privateSubnetCIDRs := subnetCIDRs.drop 1
  let ipv6 ← ipv6SubnetCIDRs s numSubnets zones.length
  zoneSubnets s.scope.vpc.isIPv6Enabled publicSubnetCIDRs privateSubnetCIDRs ipv6.1 ipv6.2 0 zones

-- ---------------------------------------------------------------------------
-- Reconciling subnets
-- ---------------------------------------------------------------------------

/-- How a loop over the local `subnets` of `reconcileSubnets` ended. -/
inductive Exit where
  | done
  | broke
  | failed (err : Fault)

/-- Go on after a loop, or return its error. -/
def Exit.resume : Exit → Ec2 Unit
  | .failed err => throw err
  | _ => pure ()

/-- Run a loop over the local `subnets` and store the list it leaves, which the deferred
`SetSubnets` persists however the function returns. -/
def runLoop (loop : Subnets → Ec2 (Subnets × Exit)) : Ec2 Unit := do
  let (subnets, exit) ← loop (← getSubnets)
  setSubnets subnets
  exit.resume

/-- The loop over the blocks of the secondary CIDR: a private subnet in the `i`-th zone for the
`i`-th block, appended unless an observed subnet equals it. -/
def appendSecondarySubnets (existing : Subnets) (zones : List String) :
    Nat → List String → Subnets → Subnets × Exit
  | _, [], subnets => (subnets, .done)
  | i, sub :: subs, subnets =>
    match zones[i]? with
    | none => (subnets, .failed (.panic "runtime error: index out of range"))
    | some zone =>
      let secondarySub : SubnetSpec :=
        { cidrBlock := sub, availabilityZone := zone, isPublic := false,
          tags := AList.singleton nameAWSSubnetAssociation secondarySubnetTagValue }
      let subnets := if (existing.findEqual secondarySub).isNone then subnets ++ [secondarySub]
        else subnets
      appendSecondarySubnets existing zones (i + 1) subs subnets

/-- The loop that matches the local `subnets` with the observed ones: a tagging error is the pass's
error on a managed VPC and a `break` on an unmanaged one. -/
def matchSubnets (s : Service) (unmanagedVPC : Bool) (existing : Subnets) :
    Subnets → Ec2 (Subnets × Exit)
  | [] => pure ([], .done)
  | sub :: rest =>
    match existing.findEqual sub with
    | some existingSubnet => do
      let subnetTags := sub.tags
      match ← attempt (waitForWithRetryable [subnetNotFound]
          (ensure (getSubnetTagParams s unmanagedVPC existingSubnet.id existingSubnet.isPublic
            existingSubnet.availabilityZone subnetTags) existingSubnet.tags) newBackoffSteps) with
      | .error err =>
        if !unmanagedVPC then
          pure (sub :: rest, .failed (err.wrap ("failed to ensure tags on subnet " ++ quote existingSubnet.id)))
        else pure (sub :: rest, .broke)
      | .ok () => do
        let (rest, exit) ← matchSubnets s unmanagedVPC existing rest
        pure (existingSubnet :: rest, exit)
    | none =>
      if unmanagedVPC then
        pure (sub :: rest, .failed (.error ("usign unmanaged vpc and subnet " ++ sub.id ++ " (cidr " ++
          sub.cidrBlock ++ ") specified but it doesn't exist in vpc " ++ s.scope.vpc.id)))
      else do
        let (rest, exit) ← matchSubnets s unmanagedVPC existing rest
        pure (sub :: rest, exit)

/-- The checks after matching: one private and one public subnet on a managed VPC, one subnet
on an unmanaged one. -/
def checkSubnets (unmanagedVPC : Bool) : Ec2 Unit := do
  let subnets ← getSubnets
  if !unmanagedVPC then
    if (Subnets.filterPrivate subnets).length < 1 then
      throw (.error "expected at least 1 private subnet but got 0")
    else if (Subnets.filterPublic subnets).length < 1 then
      throw (.error "expected at least 1 public subnet but got 0")
    else pure ()
  else if subnets.length < 1 then
    throw (.error "expected at least 1 subnet but got 0")
  else pure ()

/-- The loop that creates the subnets that have no ID and overwrites each with the result. -/
def createSubnets (s : Service) : Subnets → Ec2 (Subnets × Exit)
  | [] => pure ([], .done)
  | subnet :: rest =>
    if subnet.id != "" then do
      let (rest, exit) ← createSubnets s rest
      pure (subnet :: rest, exit)
    else do
      match ← attempt (createSubnet s subnet) with
      | .error err => pure (markIPv6 s subnet :: rest, .failed err)
      | .ok nsn => do
        let (rest, exit) ← createSubnets s rest
        pure (nsn :: rest, exit)

/-- With no subnets given: an error on an unmanaged VPC, the defaults on a managed one. -/
def setDefaultSubnets (s : Service) (unmanagedVPC : Bool) (subnets : Subnets) : Ec2 Unit :=
  if subnets.isEmpty then
    if unmanagedVPC then
      throw (.error "no subnets specified, you must specify the subnets when using an umanaged vpc")
    else do
      setSubnets (← EStateM.adaptExcept (Fault.wrap "failed getting default subnets") (getDefaultSubnets s))
      patchObject
  else pure ()

/-- With a secondary CIDR block: its blocks as private subnets, one per zone. -/
def appendSecondary (s : Service) (existing : Subnets) : Ec2 Unit :=
  match s.scope.secondaryCidrBlock with
  | none => pure ()
  | some secondary => do
    let limit ← deref s.scope.vpc.availabilityZoneUsageLimit
    let subnetCIDRs ← fromExcept (s.cidr.splitIntoSubnetsIPv4 secondary limit)
    let zones ← getAvailableZones
    runLoop fun subnets => pure (appendSecondarySubnets existing zones 0 subnetCIDRs subnets)

def reconcileSubnets (s : Service) : Ec2 Unit := do
  let subnets ← getSubnets
  let existing ← (if s.scope.tagUnmanagedNetworkResources then describeVpcSubnets s else pure [])
  let unmanagedVPC := s.scope.vpc.isUnmanaged s.scope.name
  setDefaultSubnets s unmanagedVPC subnets
  let existing ← (if !s.scope.tagUnmanagedNetworkResources then describeVpcSubnets s else pure existing)
  appendSecondary s existing
  runLoop (matchSubnets s unmanagedVPC existing)
  checkSubnets unmanagedVPC
  if !unmanagedVPC then runLoop (createSubnets s) else pure ()

end CapaSubnets
