import CapaSubnets.Convergence
import CapaSubnets.Duplicates
/-!
# The first pass on a new VPC

A cluster on a new managed VPC declares no subnets. Its first pass stores the default subnets, a
public and a private one for each zone it selects, finds none of them in the VPC, and creates
each. With an API that fails no call, the pass returns nil: the VPC then has one subnet for each
default, with its block and its role, and the stored list has their IDs. That world is `Ready`
(`Convergence`), so every later pass returns nil as well.

This assumes what the first pass needs to get through and what `Ready` asks of the subnets it
made: zones in the region and a usage limit of at least one, a split that keeps its contract, with
an address in each block, and returns for the two counts the defaults use (`DefaultsSplit`), a VPC
with an ID and no subnet yet, distinct subnet IDs in the cloud, no secondary block, and no route to
an internet gateway, which would have a private subnet observed as public. On a VPC with an IPv6
block the IPv6 split keeps its contract (`IPv6Splits`) and returns for the same counts:
`createSubnet` then asks for each default's IPv6 block, a describe reads it back from the subnet's
association, and the defaults' IPv6 blocks are distinct, so the keys of the subnets made stay
apart. Faults and a split that fails are not covered.
-/

namespace CapaSubnets

-- ---------------------------------------------------------------------------
-- The defaults, with an API that fails no call
-- ---------------------------------------------------------------------------

theorem index_succeeds {α : Type} {xs : List α} {i : Nat} (h : i < xs.length) : Succeeds (index xs i) :=
  fun w hw => ⟨xs[i], w, index_ok.mpr ⟨List.getElem?_eq_getElem h, rfl⟩, hw⟩

theorem selectZones_succeeds {s : Service} (hmz : 0 ≤ maxZones s) (zones : List String) :
    Succeeds (selectZones s zones) :=
  .ite (fun hlt w hw => ⟨_, w, sliceTo_ok.mpr ⟨⟨hmz, by rw [(orderZones_perm s zones).length_eq]; omega⟩,
    rfl, rfl⟩, hw⟩) fun _ => .pure _

theorem zoneSubnets_succeeds {ipv6 : Bool} {publics privates publicIPv6s privateIPv6s : List String} {i : Nat}
    {zones : List String} (hp : i + zones.length ≤ publics.length) (hq : i + zones.length ≤ privates.length)
    (h6 : ipv6 = true → i + zones.length ≤ publicIPv6s.length ∧ i + zones.length ≤ privateIPv6s.length) :
    Succeeds (zoneSubnets ipv6 publics privates publicIPv6s privateIPv6s i zones) := by
  induction zones generalizing i with
  | nil => exact .pure _
  | cons zone zones ih =>
    simp only [List.length_cons] at hp hq h6
    rw [zoneSubnets]
    exact (index_succeeds (by omega)).bind fun _ => (index_succeeds (by omega)).bind fun _ =>
      (Succeeds.ite (fun h => (index_succeeds (by have := h6 h; omega)).bind fun _ =>
          (index_succeeds (by have := h6 h; omega)).bind fun _ => .pure _) fun _ => .pure _).bind fun _ =>
        (ih (by omega) (by omega) fun h => by have := h6 h; omega).bind fun _ => .pure _

theorem adaptExcept_fromExcept_bind {α β : Type} (g : Fault → Fault) (a : α) (f : α → Ec2 β) :
    EStateM.adaptExcept g (fromExcept (.ok a)) >>= f = f a := rfl

theorem index_bind {α β : Type} {xs : List α} {i : Nat} {a : α} (h : xs[i]? = some a) (f : α → Ec2 β) :
    index xs i >>= f = f a := by
  rw [index, h]
  rfl

/-- What the first pass needs of the IPv6 side of the VPC: no IPv6 block, or an IPv6 split that
keeps its contract. -/
def IPv6Splits (s : Service) : Prop :=
  s.scope.vpc.ipv6 = none ∨ ∃ subnetId, s.cidr.SplitsIPv6 subnetId

/-- The number of zones `getDefaultSubnets` makes subnets in: the region's, at most the limit. -/
def zoneCount (s : Service) (zones : List String) : Nat := min zones.length (maxZones s).toNat

/-- The splits `getDefaultSubnets` makes for `m` zones return: the VPC's block into `m + 1` blocks
and the first of them into `m`, and the IPv6 block, if any, into `m + 1` and the last into `m`. -/
structure DefaultsSplit (s : Service) (m : Nat) : Prop where
  ipv4 : ∃ blocks, s.cidr.splitIntoSubnetsIPv4 s.scope.vpc.cidrBlock (m + 1) = .ok blocks ∧
    ∀ first, blocks[0]? = some first → ∃ publics, s.cidr.splitIntoSubnetsIPv4 first m = .ok publics
  ipv6 : ∀ ipv6, s.scope.vpc.ipv6 = some ipv6 →
    ∃ blocks, s.cidr.splitIntoSubnetsIPv6 ipv6.cidrBlock (m + 1) = .ok blocks ∧
      ∀ last, blocks[blocks.length - 1]? = some last → ∃ publics, s.cidr.splitIntoSubnetsIPv6 last m = .ok publics

theorem dottedSplit_defaultsSplit {s : Service} (h : s.cidr = dottedSplit) (m : Nat) : DefaultsSplit s m := by
  have h4 : ∀ c (k : Int), 0 ≤ k →
      dottedSplit.splitIntoSubnetsIPv4 c k = .ok ((List.range k.toNat).map (dottedBlock c)) := fun _ _ hk => if_pos hk
  have h6 : ∀ c (k : Int), 0 ≤ k →
      dottedSplit.splitIntoSubnetsIPv6 c k = .ok ((List.range k.toNat).map (dottedBlock c)) := fun _ _ hk => if_pos hk
  constructor <;> rw [h]
  · exact ⟨_, h4 _ _ (by omega), fun _ _ => ⟨_, h4 _ _ (by omega)⟩⟩
  · exact fun _ _ => ⟨_, h6 _ _ (by omega), fun _ _ => ⟨_, h6 _ _ (by omega)⟩⟩

theorem selectZones_length {s : Service} {zones zs : List String} {w w' : World} (hmz : 0 ≤ maxZones s)
    (h : selectZones s zones w = .ok zs w') : zs.length = zoneCount s zones := by
  obtain ⟨-, hfit, hcut⟩ := selectZones_ok h
  have hm := Int.toNat_of_nonneg hmz
  unfold zoneCount
  by_cases hlt : maxZones s < zones.length
  · rw [(hcut hlt).2, List.length_take, (orderZones_perm s zones).length_eq]
    omega
  · rw [hfit hlt]
    omega

theorem Cidr.SplitsIPv6.length_eq {cidr : Cidr} {subnetId : String → Int} (h : cidr.SplitsIPv6 subnetId)
    {c : String} {k : Int} {bs : List String} (hbs : cidr.splitIntoSubnetsIPv6 c k = .ok bs) : bs.length = k.toNat := by
  simpa using congrArg List.length (h.split c k bs hbs)

theorem ipv6SubnetCIDRs_succeeds {s : Service} (hv6 : IPv6Splits s) {m : Nat} (hsplit : DefaultsSplit s m) :
    ∃ r, ipv6SubnetCIDRs s (m + 1) m = pure r ∧
      (s.scope.vpc.isIPv6Enabled = true → m ≤ r.1.length ∧ m ≤ r.2.length) := by
  cases hv : s.scope.vpc.ipv6 with
  | none => exact ⟨([], []), by simp [ipv6SubnetCIDRs, hv], by simp [VPCSpec.isIPv6Enabled, hv]⟩
  | some ipv6 =>
    obtain ⟨subnetId, h6⟩ := hv6.resolve_left (by simp [hv])
    obtain ⟨blocks, hblocks, hlast'⟩ := hsplit.ipv6 ipv6 hv
    have hb : blocks.length = m + 1 := by rw [h6.length_eq hblocks]; omega
    obtain ⟨last, hlast⟩ : ∃ last, blocks[blocks.length - 1]? = some last :=
      ⟨_, List.getElem?_eq_getElem (by omega : blocks.length - 1 < blocks.length)⟩
    obtain ⟨publics, hpublics⟩ := hlast' last hlast
    have hp : publics.length = m := by rw [h6.length_eq hpublics]; omega
    refine ⟨(publics, blocks.drop 1), ?_, fun _ => ⟨by simp; omega, by simp; omega⟩⟩
    simp only [ipv6SubnetCIDRs, hv]
    rw [hblocks, adaptExcept_fromExcept_bind, index_bind hlast, hpublics, adaptExcept_fromExcept_bind]

theorem getDefaultSubnets_succeeds {s : Service} {Addr : Type} {mem : String → Addr → Prop}
    (h4 : s.cidr.SplitsIPv4 mem) (hmz : 0 ≤ maxZones s) (hv6 : IPv6Splits s) {w : World} (hf : FaultFree w)
    (hsplit : DefaultsSplit s (zoneCount s w.cloud.availabilityZones)) :
    ∃ l w', getDefaultSubnets s w = .ok l w' ∧ FaultFree w' := by
  obtain ⟨all, w₁, hall, hf₁⟩ : ∃ all w₁, getAvailableZones w = .ok all w₁ ∧ FaultFree w₁ :=
    (Succeeds.adaptExcept _ (.issue _ _) : Succeeds getAvailableZones) w hf
  obtain ⟨rfl, -, -⟩ := getAvailableZones_ok hall
  obtain ⟨zones, w₂, hzones, hf₂⟩ := selectZones_succeeds hmz _ w₁ hf₁
  rw [← selectZones_length hmz hzones] at hsplit
  obtain ⟨blocks, hblocks, hfirst'⟩ := hsplit.ipv4
  have hb := (h4.split _ _ _ hblocks).1
  obtain ⟨first, hfirst⟩ : ∃ first, blocks[0]? = some first :=
    ⟨_, List.getElem?_eq_getElem (by omega : 0 < blocks.length)⟩
  obtain ⟨publics, hpublics⟩ := hfirst' first hfirst
  have hp := (h4.split _ _ _ hpublics).1
  obtain ⟨r, hr, hr6⟩ := ipv6SubnetCIDRs_succeeds hv6 hsplit
  have hloop : Succeeds (zoneSubnets s.scope.vpc.isIPv6Enabled publics (blocks.drop 1) r.1 r.2 0 zones) :=
    zoneSubnets_succeeds (by omega) (by simp; omega) fun h => by have := hr6 h; omega
  obtain ⟨l, w₃, hloop, hf₃⟩ := hloop w₂ hf₂
  refine ⟨l, w₃, ?_, hf₃⟩
  rw [getDefaultSubnets, bind_of_ok hall, bind_of_ok hzones]
  dsimp only
  rw [hblocks, adaptExcept_fromExcept_bind, index_bind hfirst, hpublics, adaptExcept_fromExcept_bind, hr,
    pure_bind]
  exact hloop

theorem describeIf_ok {s : Service} {c : Bool} {ex ex' : Subnets} {w w' : World}
    (h : (if c = true then describeVpcSubnets s else pure ex) w = .ok ex' w') :
    w'.cloud = w.cloud ∧ w'.subnets = w.subnets := by
  cases c with
  | true => exact (describeVpcSubnets_ok h).2
  | false => cases h; exact ⟨rfl, rfl⟩

theorem observeStage_succeeds_of {s : Service} (hm : s.scope.vpc.isUnmanaged s.scope.name = false)
    {w : World} (hf : FaultFree w)
    (hdef : ∀ v, FaultFree v → v.cloud = w.cloud → ∃ l v', getDefaultSubnets s v = .ok l v' ∧ FaultFree v') :
    ∃ ex w', observeStage s w = .ok ex w' ∧ FaultFree w' := by
  have hdescribe : ∀ (c : Bool) ex, Succeeds (if c = true then describeVpcSubnets s else pure ex) :=
    fun _ _ => .ite (fun _ => describeVpcSubnets_succeeds s) fun _ => .pure _
  obtain ⟨ex, w₁, h₁, hf₁⟩ := hdescribe s.scope.tagUnmanagedNetworkResources [] w hf
  obtain ⟨w₂, h₂, hf₂⟩ : ∃ w₂, setDefaultSubnets s false w.subnets w₁ = .ok () w₂ ∧ FaultFree w₂ := by
    unfold setDefaultSubnets
    split
    · obtain ⟨l, v, hl, hfv⟩ := hdef w₁ hf₁ (describeIf_ok h₁).1
      obtain ⟨_, w₂, h, hf₂⟩ := (Succeeds.issue _ _ : Succeeds patchObject) { v with subnets := l } hfv
      exact ⟨w₂, by rw [if_neg Bool.false_ne_true, bind_of_ok (adaptExcept_ok.mpr hl)]; exact h, hf₂⟩
    · exact ⟨w₁, rfl, hf₁⟩
  obtain ⟨ex', w₃, h₃, hf₃⟩ := hdescribe (!s.scope.tagUnmanagedNetworkResources) ex w₂ hf₂
  refine ⟨ex', w₃, ?_, hf₃⟩
  rw [observeStage, bind_of_ok (rfl : getSubnets w = .ok w.subnets w), bind_of_ok h₁, hm, bind_of_ok h₂]
  exact h₃

theorem observeStage_defaults {s : Service} (hm : s.scope.vpc.isUnmanaged s.scope.name = false)
    {ex : Subnets} {w w' : World} (hempty : w.subnets = []) (h : observeStage s w = .ok ex w') :
    ∃ v v', v.cloud = w.cloud ∧ getDefaultSubnets s v = .ok w'.subnets v' := by
  obtain ⟨_, _, h₀, h₁⟩ := bind_ok.mp h
  cases h₀
  obtain ⟨_, w₁, hd₁, h₂⟩ := bind_ok.mp h₁
  obtain ⟨_, w₂, hdef, hd₂⟩ := bind_ok.mp h₂
  rw [hm, hempty] at hdef
  simp only [setDefaultSubnets, List.isEmpty_nil, if_true, Bool.false_eq_true, if_false] at hdef
  obtain ⟨ds, v', hds, h₃⟩ := bind_ok.mp hdef
  obtain ⟨_, w₃, h₄, h₅⟩ := bind_ok.mp h₃
  cases h₄
  obtain ⟨-, -, rfl⟩ := issue_ok h₅
  refine ⟨w₁, v', (describeIf_ok hd₁).1, ?_⟩
  rw [(describeIf_ok hd₂).2]
  exact adaptExcept_ok.mp hds

theorem getDefaultSubnets_roles {s : Service} (hmz : 1 ≤ maxZones s) {l : Subnets} {w w' : World}
    (hz : w.cloud.availabilityZones ≠ []) (h : getDefaultSubnets s w = .ok l w') :
    (∃ e ∈ l, e.isPublic = false) ∧ ∃ e ∈ l, e.isPublic = true := by
  obtain ⟨zones, _, _, _, _, w₁, -, hzones, -, -, -, -, hloop⟩ := getDefaultSubnets_ok h
  obtain ⟨-, -, hroles, -, -⟩ := zoneSubnets_ok hloop
  obtain ⟨-, hfit, hcut⟩ := selectZones_ok hzones
  have hne : zones ≠ [] := by
    by_cases hlt : maxZones s < w.cloud.availabilityZones.length
    · rw [(hcut hlt).2]
      intro hnil
      rcases List.take_eq_nil_iff.mp hnil with h0 | h0
      · omega
      · exact hz (List.eq_nil_of_length_eq_zero (by rw [← (orderZones_perm s _).length_eq, h0]; rfl))
    · rw [hfit hlt]
      exact hz
  obtain ⟨z, zs, rfl⟩ := List.exists_cons_of_ne_nil hne
  have hrole : ∀ b, ∃ e ∈ l, e.isPublic = b := fun b => by
    have hmem : (z, b) ∈ l.map fun e => (e.availabilityZone, e.isPublic) := by
      rw [hroles]
      cases b <;> simp
    obtain ⟨e, he, hzb⟩ := List.mem_map.mp hmem
    exact ⟨e, he, congrArg Prod.snd hzb⟩
  exact ⟨hrole false, hrole true⟩

-- ---------------------------------------------------------------------------
-- The subnets the creation loop makes
-- ---------------------------------------------------------------------------

def SubnetSpec.keyRole (x : SubnetSpec) : (String × String × String) × Bool := (x.key, x.isPublic)

def Cloud.keyRoles (s : Service) (c : Cloud) : List ((String × String × String) × Bool) :=
  (observedSubnets s c).map SubnetSpec.keyRole

def Cloud.NoInternetRoute (c : Cloud) : Prop :=
  ∀ rt ∈ c.routeTables, (rt.2.routes.any fun r => r.gatewayId.any (·.startsWith "igw")) = false

theorem lookup_any_false {l : List (String × RouteTable)} {g : RouteTable → Bool} (h : ∀ p ∈ l, g p.2 = false)
    (k : String) : (l.lookup k).any g = false := by
  cases hl : l.lookup k with
  | none => rfl
  | some v =>
    obtain ⟨l₁, l₂, rfl, -⟩ := List.lookup_eq_some_iff.mp hl
    exact h (k, v) (by simp)

theorem subnetSpecOf_isPublic_of_noRoute {c : Cloud} (h : c.NoInternetRoute) (sn : Ec2Subnet) :
    (subnetSpecOf c.routeTables c.natGateways sn).isPublic = (sn.tags.getRole == publicRoleTagValue) := by
  rw [subnetSpecOf_isPublic]
  cases hrt : (c.routeTables.lookup sn.subnetId).orElse fun _ => c.routeTables.lookup mainRouteTableInVPCKey with
  | none => simp
  | some rt =>
    have hfalse := lookup_any_false (g := fun rt => rt.routes.any fun r => r.gatewayId.any (·.startsWith "igw"))
      (fun p hp => h p hp)
    cases hsn : c.routeTables.lookup sn.subnetId with
    | none =>
      rw [hsn] at hrt
      have := hfalse mainRouteTableInVPCKey
      simp_all
    | some rt' =>
      rw [hsn] at hrt
      have := hfalse sn.subnetId
      simp_all

section
variable {s : Service}

theorem observedSubnets_append (hvpc : s.scope.vpc.id ≠ "") (c : Cloud) {sn : Ec2Subnet}
    (hv : sn.vpcId = s.scope.vpc.id) :
    observedSubnets s { c with subnets := c.subnets ++ [sn] } =
      observedSubnets s c ++ [subnetSpecOf c.routeTables c.natGateways sn] := by
  have hfilter : describeSubnetsFilter s sn = true := by simp [describeSubnetsFilter, hvpc, hv]
  simp [observedSubnets, List.filter_append, hfilter]

theorem observedSubnets_set (c : Cloud) (id : String) (attr : SubnetAttribute) :
    observedSubnets s { c with subnets := c.subnets.map fun sn => if sn.subnetId = id then attr.set sn else sn } =
      observedSubnets s c := by
  have hf : ∀ sn : Ec2Subnet, describeSubnetsFilter s (if sn.subnetId = id then attr.set sn else sn) =
      describeSubnetsFilter s sn := fun sn => by
    split
    · cases attr <;> rfl
    · rfl
  simp only [observedSubnets, List.filter_map, List.map_map, Function.comp_def, hf]
  exact List.map_congr_left fun sn _ => by split <;> simp

def sameObserved (s : Service) : Guarantee where
  rel w w' := observedSubnets s w'.cloud = observedSubnets s w.cloud ∧ w'.cloud.subnetIds = w.cloud.subnetIds ∧
    w'.cloud.routeTables = w.cloud.routeTables
  refl _ := ⟨rfl, rfl, rfl⟩
  trans h h' := ⟨h'.1.trans h.1, h'.2.1.trans h.2.1, h'.2.2.trans h.2.2⟩

theorem sameObserved_issue {α : Type} {call : Call} {effect : Cloud → α × Cloud}
    (h : ∀ c, (sameObserved s).rel ⟨c, [], [], fun _ => none⟩ ⟨(effect c).2, [], [], fun _ => none⟩) :
    (sameObserved s).Holds (issue call effect) := fun w _ => by
  refine ⟨?_, trivial⟩
  simp only [after, issue]
  cases w.fault w.calls.length with
  | some _ => exact (sameObserved s).refl _
  | none => exact h w.cloud

theorem sameObserved_setSubnetAttribute (id : String) (attr : SubnetAttribute) (what : String) :
    (sameObserved s).Holds (setSubnetAttribute id attr what) :=
  .adaptExcept _ (waitForWithRetryable_inv _ (sameObserved_issue fun c =>
    ⟨observedSubnets_set c id attr, Cloud.subnetIds_map c fun sn => by split <;> simp, rfl⟩) _)

variable (hvpc : s.scope.vpc.id ≠ "")

include hvpc in
theorem createSubnetCall_keyRoles {input : CreateSubnetInput} (hv : input.vpcId = s.scope.vpc.id) {b : Bool}
    (hrole : input.tags.lookup nameAWSClusterAPIRole = some (if b then publicRoleTagValue else privateRoleTagValue))
    {w w₁ : World} {out : Ec2Subnet} (hnr : w.cloud.NoInternetRoute)
    (h : EC2Client.createSubnet input w = .ok out w₁) :
    w₁.cloud.keyRoles s =
        w.cloud.keyRoles s ++ [((w.cloud.freshSubnetId, input.cidrBlock, input.ipv6CidrBlock.getD ""), b)] ∧
      w₁.cloud.subnetIds = w.cloud.subnetIds ++ [w.cloud.freshSubnetId] ∧ w₁.cloud.routeTables = w.cloud.routeTables ∧
      out.subnetId = w.cloud.freshSubnetId ∧ out.cidrBlock = input.cidrBlock ∧
      out.ipv6CidrBlockAssociationSet = input.ipv6CidrBlock.toList.map fun b => ⟨b, subnetCidrBlockStateCodeAssociated⟩ := by
  obtain ⟨-, rfl, rfl⟩ := issue_ok h
  refine ⟨?_, by simp [Cloud.subnetIds], rfl, rfl, rfl, rfl⟩
  rw [Cloud.keyRoles, Cloud.keyRoles, observedSubnets_append hvpc _ hv, List.map_append]
  simp only [List.map_cons, List.map_nil, SubnetSpec.keyRole, SubnetSpec.key, subnetSpecOf_id,
    subnetSpecOf_cidrBlock, subnetSpecOf_ipv6CidrBlock, subnetSpecOf_isPublic_of_noRoute hnr, Tags.getRole, hrole]
  cases input.ipv6CidrBlock <;> cases b <;> simp [publicRoleTagValue, privateRoleTagValue]

include hvpc

theorem createSubnet_observed {e nsn : SubnetSpec} {w w' : World} (hnr : w.cloud.NoInternetRoute)
    (h : createSubnet s e w = .ok nsn w') :
    (observedSubnets s w'.cloud).map SubnetSpec.keyRole = (observedSubnets s w.cloud).map SubnetSpec.keyRole ++
        [nsn.keyRole] ∧
      w'.cloud.subnetIds = w.cloud.subnetIds ++ [nsn.id] ∧ w'.cloud.routeTables = w.cloud.routeTables ∧
      nsn.id = w.cloud.freshSubnetId ∧ nsn.cidrBlock = e.cidrBlock ∧ nsn.isPublic = e.isPublic ∧
      nsn.ipv6CidrBlock = if s.scope.vpc.isIPv6Enabled then e.ipv6CidrBlock else "" := by
  obtain ⟨out, w₁, h₁, hr₁⟩ := bind_ok.mp h
  obtain ⟨hK, hids₁, hrt₁, hid, hcidr, hassoc⟩ := createSubnetCall_keyRoles hvpc rfl
    (build_role s temporaryResourceID e.isPublic e.availabilityZone e.tags) hnr (adaptExcept_ok.mp h₁)
  obtain ⟨hobs, hids, hrt⟩ := ((createSubnet_rest_holds (G := sameObserved s) (markIPv6 s e) out
    (sameObserved_issue fun _ => (sameObserved s).refl _) fun _ _ => sameObserved_setSubnetAttribute _ _ _).of_ok
    trivial hr₁).1
  obtain ⟨_, w₂, -, hr₂⟩ := bind_ok.mp hr₁
  obtain ⟨_, w₃, -, hr₃⟩ := bind_ok.mp hr₂
  obtain ⟨_, w₄, -, h₅⟩ := bind_ok.mp hr₃
  cases h₅
  have hpub := (markIPv6_keeps s e).2.2
  have h6 : (withIpv6Associations out.ipv6CidrBlockAssociationSet
      { id := out.subnetId, availabilityZone := out.availabilityZone, cidrBlock := out.cidrBlock,
        isPublic := (markIPv6 s e).isPublic }).ipv6CidrBlock =
      if s.scope.vpc.isIPv6Enabled then e.ipv6CidrBlock else "" := by
    rw [withIpv6Associations_ipv6CidrBlock, hassoc]
    split <;> simp [subnetCidrBlockStateCodeAssociated]
  refine ⟨?_, by rw [hids, hids₁, withIpv6Associations_id, hid], hrt.trans hrt₁, by simp [hid], by simp [hcidr],
    by simp [hpub], h6⟩
  have hkey : (withIpv6Associations out.ipv6CidrBlockAssociationSet
      { id := out.subnetId, availabilityZone := out.availabilityZone, cidrBlock := out.cidrBlock,
        isPublic := (markIPv6 s e).isPublic }).keyRole =
      ((w.cloud.freshSubnetId, e.cidrBlock, if s.scope.vpc.isIPv6Enabled then e.ipv6CidrBlock else ""), e.isPublic) := by
    simp only [SubnetSpec.keyRole, SubnetSpec.key]
    rw [h6]
    simp [hid, hcidr, hpub]
  rw [hobs, hkey]
  refine hK.trans ?_
  split <;> rfl

theorem createSubnets_observed {L : Subnets} (hL : ∀ e ∈ L, e.id = "") {w : World} (hf : FaultFree w)
    (hnr : w.cloud.NoInternetRoute) (hids : w.cloud.subnetIds.Nodup) :
    ∃ L' w', createSubnets s L w = .ok (L', .done) w' ∧ FaultFree w' ∧ w'.cloud.NoInternetRoute ∧
      w'.cloud.subnetIds.Nodup ∧
      (observedSubnets s w'.cloud).map SubnetSpec.keyRole =
        (observedSubnets s w.cloud).map SubnetSpec.keyRole ++ L'.map SubnetSpec.keyRole ∧
      L'.map (fun e => (e.cidrBlock, e.isPublic)) = L.map (fun e => (e.cidrBlock, e.isPublic)) ∧
      L'.map (·.ipv6CidrBlock) = L.map (fun e => if s.scope.vpc.isIPv6Enabled then e.ipv6CidrBlock else "") ∧
      ∀ e ∈ L', e.id ≠ "" := by
  induction L generalizing w with
  | nil => exact ⟨[], w, rfl, hf, hnr, hids, by simp, rfl, rfl, nofun⟩
  | cons e L ih =>
    obtain ⟨nsn, w₁, h₁, hf₁⟩ := createSubnet_succeeds s e w hf
    obtain ⟨hobs₁, hids₁, hrt₁, hid, hcidr, hpub, h6⟩ := createSubnet_observed hvpc hnr h₁
    have hnd₁ : w₁.cloud.subnetIds.Nodup := by
      rw [hids₁, hid, List.nodup_append_comm]
      exact List.nodup_cons.mpr ⟨w.cloud.freshSubnetId_fresh, hids⟩
    obtain ⟨L', w', h', hf', hnr', hnd', hobs', hcr', h6', hL'⟩ :=
      ih (fun e he => hL e (List.mem_cons_of_mem _ he)) hf₁ (fun rt h => hnr rt (hrt₁ ▸ h)) hnd₁
    refine ⟨nsn :: L', w', ?_, hf', hnr', hnd', by simp [hobs', hobs₁], by simp [hcidr, hpub, hcr'],
      by simp [h6, h6'], List.forall_mem_cons.mpr ⟨hid ▸ w.cloud.freshSubnetId_ne, hL'⟩⟩
    rw [createSubnets, if_neg (by simp [hL e (List.mem_cons_self _ _)]), bind_of_ok (attempt_of_ok h₁)]
    simp only
    rw [bind_of_ok h']
    rfl

end

-- ---------------------------------------------------------------------------
-- The first pass
-- ---------------------------------------------------------------------------

theorem matchSubnets_none (s : Service) (l : Subnets) (w : World) :
    matchSubnets s false [] l w = .ok (l, .done) w := by
  induction l with
  | nil => rfl
  | cons e l ih =>
    simp only [matchSubnets, Subnets.findEqual_nil, Bool.false_eq_true, if_false]
    rw [bind_of_ok ih]
    rfl

theorem keysApart_of_nodup {l : Subnets} (hid : (l.map (·.id)).Nodup) (hcidr : (l.map (·.cidrBlock)).Nodup)
    (h6 : (∀ e ∈ l, e.ipv6CidrBlock = "") ∨ (l.map (·.ipv6CidrBlock)).Nodup) :
    (l.map SubnetSpec.key).Pairwise KeysApart := by
  have hboth := (List.pairwise_map.mp hid).and (List.pairwise_map.mp hcidr)
  rw [List.pairwise_map]
  rcases h6 with h6 | h6
  · exact hboth.imp_of_mem fun ha _ h => ⟨h.1, h.2, fun _ => h6 _ ha⟩
  · exact (hboth.and (List.pairwise_map.mp h6)).imp fun h => ⟨h.1.1, h.1.2, fun he => absurd he h.2⟩

theorem observedSubnets_ids_nodup {s : Service} {c : Cloud} (h : c.subnetIds.Nodup) :
    ((observedSubnets s c).map (·.id)).Nodup := by
  have hsub := ((List.filter_sublist c.subnets (p := describeSubnetsFilter s)).map Ec2Subnet.subnetId).nodup h
  simpa [observedSubnets, Function.comp_def] using hsub

theorem exists_of_map {L L' : Subnets}
    (h : L'.map (fun e => (e.cidrBlock, e.isPublic)) = L.map fun e => (e.cidrBlock, e.isPublic)) {e : SubnetSpec}
    (he : e ∈ L) : ∃ e' ∈ L', e'.cidrBlock = e.cidrBlock ∧ e'.isPublic = e.isPublic := by
  have hmem : (e.cidrBlock, e.isPublic) ∈ L'.map fun e => (e.cidrBlock, e.isPublic) := h ▸ List.mem_map_of_mem _ he
  obtain ⟨e', he', hee⟩ := List.mem_map.mp hmem
  exact ⟨e', he', congrArg Prod.fst hee, congrArg Prod.snd hee⟩

theorem exists_role_of_map {L L' : Subnets}
    (h : L'.map (fun e => (e.cidrBlock, e.isPublic)) = L.map fun e => (e.cidrBlock, e.isPublic)) {b : Bool}
    (hb : ∃ e ∈ L, e.isPublic = b) : ∃ e ∈ L', e.isPublic = b :=
  let ⟨_, he, hb⟩ := hb
  let ⟨e', he', _, hr⟩ := exists_of_map h he
  ⟨e', he', hr.trans hb⟩

theorem ready_of_observed {s : Service} {w : World} (hf : FaultFree w) (hids : w.cloud.subnetIds.Nodup)
    (hobs : (observedSubnets s w.cloud).map SubnetSpec.keyRole = w.subnets.map SubnetSpec.keyRole)
    (hcidr : (w.subnets.map (·.cidrBlock)).Nodup) (hL : ∀ e ∈ w.subnets, e.id ≠ "")
    (h6 : (∀ e ∈ w.subnets, e.ipv6CidrBlock = "") ∨ (w.subnets.map (·.ipv6CidrBlock)).Nodup)
    (hpriv : ∃ e ∈ w.subnets, e.isPublic = false) (hpub : ∃ e ∈ w.subnets, e.isPublic = true) : Ready s w := by
  have hkeys : (observedSubnets s w.cloud).map SubnetSpec.key = w.subnets.map SubnetSpec.key := by
    have h := congrArg (List.map Prod.fst) hobs
    rwa [List.map_map, List.map_map] at h
  have hid : (w.subnets.map (·.id)).Nodup := by
    have h := congrArg (List.map Prod.fst) hkeys
    rw [List.map_map, List.map_map] at h
    rw [← show (observedSubnets s w.cloud).map (·.id) = w.subnets.map (·.id) from h]
    exact observedSubnets_ids_nodup hids
  refine ⟨hf, hids, ?_, fun e he => ⟨hL e he, ?_⟩, hpriv, hpub⟩
  · rw [hkeys]
    exact keysApart_of_nodup hid hcidr h6
  · have hmem : e.keyRole ∈ (observedSubnets s w.cloud).map SubnetSpec.keyRole := by
      rw [hobs]
      exact List.mem_map_of_mem _ he
    obtain ⟨x, hx, hxe⟩ := List.mem_map.mp hmem
    exact ⟨x, hx, congrArg Prod.fst hxe, congrArg Prod.snd hxe⟩

theorem zoneSubnets_noIPv6 {publics privates publicIPv6s privateIPv6s : List String} {i : Nat}
    {zones : List String} {l : Subnets} {w w' : World}
    (h : zoneSubnets false publics privates publicIPv6s privateIPv6s i zones w = .ok l w') :
    ∀ e ∈ l, e.ipv6CidrBlock = "" := by
  induction zones generalizing i l w with
  | nil =>
    cases h
    nofun
  | cons zone zones ih =>
    rw [zoneSubnets] at h
    obtain ⟨_, w₁, -, h⟩ := bind_ok.mp h
    obtain ⟨_, w₂, -, h⟩ := bind_ok.mp h
    obtain ⟨pair, w₃, hpair, h⟩ := bind_ok.mp h
    obtain ⟨rest, w₄, hrest, h⟩ := bind_ok.mp h
    cases h
    cases hpair
    simpa using ih hrest

theorem getDefaultSubnets_ipv6 {s : Service} {Addr : Type} {mem : String → Addr → Prop} (h4 : s.cidr.SplitsIPv4 mem)
    (hv6 : IPv6Splits s) {l : Subnets} {v v' : World} (h : getDefaultSubnets s v = .ok l v') :
    (s.scope.vpc.isIPv6Enabled = false → ∀ e ∈ l, e.ipv6CidrBlock = "") ∧
      (s.scope.vpc.isIPv6Enabled = true → (l.map (·.ipv6CidrBlock)).Nodup) := by
  refine ⟨fun hen => ?_, fun hen => ?_⟩
  · obtain ⟨_, _, _, _, _, _, -, -, -, -, -, -, hloop⟩ := getDefaultSubnets_ok h
    rw [hen] at hloop
    exact zoneSubnets_noIPv6 hloop
  · obtain ⟨subnetId, h6⟩ := hv6.resolve_left fun hnone => by simp [VPCSpec.isIPv6Enabled, hnone] at hen
    exact (getDefaultSubnets_blocks s mem subnetId h4 h6 h).2.2 hen

theorem created_ipv6 {s : Service} {L L' : Subnets}
    (h : L'.map (·.ipv6CidrBlock) = L.map fun e => if s.scope.vpc.isIPv6Enabled then e.ipv6CidrBlock else "")
    (hno6 : s.scope.vpc.isIPv6Enabled = false → ∀ e ∈ L, e.ipv6CidrBlock = "")
    (hnd6 : s.scope.vpc.isIPv6Enabled = true → (L.map (·.ipv6CidrBlock)).Nodup) :
    L'.map (·.ipv6CidrBlock) = L.map (·.ipv6CidrBlock) ∧
      ((∀ e ∈ L', e.ipv6CidrBlock = "") ∨ (L'.map (·.ipv6CidrBlock)).Nodup) := by
  rw [h]
  cases hen : s.scope.vpc.isIPv6Enabled
  · refine ⟨List.map_congr_left fun e he => (hno6 hen e he).symm, .inl fun e he => ?_⟩
    have hmem := List.mem_map_of_mem SubnetSpec.ipv6CidrBlock he
    rw [h, hen] at hmem
    obtain ⟨_, -, hae⟩ := List.mem_map.mp hmem
    exact hae.symm
  · exact ⟨rfl, .inr (hnd6 hen)⟩

section
variable {s : Service} (hm : s.scope.vpc.isUnmanaged s.scope.name = false) (hvpc : s.scope.vpc.id ≠ "")
  (hsec : s.scope.secondaryCidrBlock = none) (hv6 : IPv6Splits s) {Addr : Type}
  {mem : String → Addr → Prop} (h4 : s.cidr.SplitsIPv4 mem)
  (hocc : ∀ c k bs, s.cidr.splitIntoSubnetsIPv4 c k = .ok bs → ∀ b ∈ bs, ∃ a, mem b a) (hmz : 1 ≤ maxZones s)
include hm hvpc hsec hv6 h4 hocc hmz

/-- With an API that fails no call, the first pass on a new VPC returns nil and leaves a `Ready`
world whose VPC has one subnet for each default, with its blocks and its role. -/
theorem new_vpc_pass {w : World} (hf : FaultFree w) (hz : w.cloud.availabilityZones ≠ [])
    (hsplit : DefaultsSplit s (zoneCount s w.cloud.availabilityZones)) (hempty : w.subnets = [])
    (hfresh : ∀ sn ∈ w.cloud.subnets, sn.vpcId ≠ s.scope.vpc.id) (hids : w.cloud.subnetIds.Nodup)
    (hnr : w.cloud.NoInternetRoute) :
    ∃ w', reconcileSubnets s w = .ok () w' ∧ Ready s w' ∧
      ∃ v l v', v.cloud = w.cloud ∧ getDefaultSubnets s v = .ok l v' ∧
        (observedSubnets s w'.cloud).map (fun x => (x.cidrBlock, x.isPublic)) =
          l.map (fun e => (e.cidrBlock, e.isPublic)) ∧
        (observedSubnets s w'.cloud).map (·.ipv6CidrBlock) = l.map (·.ipv6CidrBlock) := by
  -- the stages before the loops store the defaults and observe no subnet
  obtain ⟨ex, w₁, hobs, hf₁⟩ := observeStage_succeeds_of hm hf fun v hv hc =>
    getDefaultSubnets_succeeds h4 (by omega) hv6 hv (by rw [hc]; exact hsplit)
  obtain ⟨rfl, hc₁, hs₁⟩ := observeStage_ok hobs
  obtain ⟨v, v', hv, hds⟩ := observeStage_defaults hm hempty hobs
  have hnone : observedSubnets s w.cloud = [] := by
    simpa [observedSubnets, describeSubnetsFilter, hvpc] using hfresh
  have hno : ∀ e ∈ w₁.subnets, e.id = "" := by
    rcases hs₁ with h | ⟨-, -, h⟩
    · simp [h, hempty]
    · exact h
  have hcidrs : (w₁.subnets.map (·.cidrBlock)).Nodup := by
    have hpend := getDefaultSubnets_pending h4 hocc hds
    rwa [Subnets.pending, List.filter_eq_self.mpr fun e he => by simp [hno e he]] at hpend
  obtain ⟨hpriv, hpub⟩ := getDefaultSubnets_roles hmz (by rw [hv]; exact hz) hds
  obtain ⟨hno6, hnd6⟩ := getDefaultSubnets_ipv6 h4 hv6 hds
  -- the creation loop makes them all, each with the IPv6 block of its default
  obtain ⟨L', w₂, hcreate, hf₂, -, hids₂, hobs₂, hcr, h6', hL'⟩ :=
    createSubnets_observed hvpc hno hf₁ (by rw [hc₁]; exact hnr) (by rw [hc₁]; exact hids)
  obtain ⟨h6L, h6⟩ := created_ipv6 h6' hno6 hnd6
  have hobs' : (observedSubnets s w₂.cloud).map SubnetSpec.keyRole = L'.map SubnetSpec.keyRole := by
    rw [hobs₂, hc₁, hnone]
    rfl
  have hblocks := congrArg (List.map fun kr : (String × String × String) × Bool => (kr.1.2.1, kr.2)) hobs'
  rw [List.map_map, List.map_map] at hblocks
  have hipv6s := congrArg (List.map fun kr : (String × String × String) × Bool => kr.1.2.2) hobs'
  rw [List.map_map, List.map_map] at hipv6s
  have hcidr : (L'.map (·.cidrBlock)).Nodup := by
    have h := congrArg (List.map Prod.fst) hcr
    rw [List.map_map, List.map_map] at h
    rw [show L'.map (·.cidrBlock) = w₁.subnets.map (·.cidrBlock) from h]
    exact hcidrs
  refine ⟨{ w₂ with subnets := L' }, ?_, ready_of_observed hf₂ hids₂ hobs' hcidr hL' h6 (exists_role_of_map hcr hpriv)
    (exists_role_of_map hcr hpub), v, w₁.subnets, v', hv, hds, hblocks.trans hcr, hipv6s.trans h6L⟩
  obtain ⟨e₀, he₀, hp₀⟩ := hpriv
  obtain ⟨e₁, he₁, hp₁⟩ := hpub
  have hpriv' : ¬(Subnets.filterPrivate w₁.subnets).length < 1 := filter_length_pos he₀ (by simp [hp₀])
  have hpub' : ¬(Subnets.filterPublic w₁.subnets).length < 1 := filter_length_pos he₁ hp₁
  rw [reconcileSubnets_eq, bind_of_ok hobs]
  simp only [hm, appendSecondary_none hsec, pure_bind, Bool.not_false, if_true, hnone]
  rw [bind_of_ok (runLoop_done (matchSubnets_none s _ _)), checkSubnets_false_bind]
  dsimp only
  rw [if_neg hpriv', if_neg hpub']
  exact runLoop_done hcreate

end

/-- On a new managed VPC without IPv6, with an API that fails no call, the first pass from an empty
list creates a subnet for each default, and every pass of the run returns nil. -/
theorem new_vpc_runPasses_ok (s : Service) (hm : s.scope.vpc.isUnmanaged s.scope.name = false)
    (hvpc : s.scope.vpc.id ≠ "") (hsec : s.scope.secondaryCidrBlock = none) (hv6 : s.scope.vpc.ipv6 = none)
    {Addr : Type} (mem : String → Addr → Prop) (h4 : s.cidr.SplitsIPv4 mem)
    (hocc : ∀ c k bs, s.cidr.splitIntoSubnetsIPv4 c k = .ok bs → ∀ b ∈ bs, ∃ a, mem b a) (hmz : 1 ≤ maxZones s)
    {w : World} (hf : ∀ n, w.fault n = none) (hz : w.cloud.availabilityZones ≠ [])
    (hsplit : DefaultsSplit s (zoneCount s w.cloud.availabilityZones)) (hempty : w.subnets = [])
    (hfresh : ∀ sn ∈ w.cloud.subnets, sn.vpcId ≠ s.scope.vpc.id) (hids : w.cloud.subnetIds.Nodup)
    (hnr : w.cloud.NoInternetRoute) :
    (∃ v l v', v.cloud = w.cloud ∧ getDefaultSubnets s v = .ok l v' ∧
        (observedSubnets s (runPasses s 1 w).cloud).map (fun x => (x.cidrBlock, x.isPublic)) =
          l.map fun e => (e.cidrBlock, e.isPublic)) ∧
      ∀ n, ∃ w', reconcileSubnets s (runPasses s n w) = .ok () w' := by
  obtain ⟨w₁, h₁, hr, v, l, v', hv, hl, hdef, -⟩ :=
    new_vpc_pass hm hvpc hsec (.inl hv6) h4 hocc hmz hf hz hsplit hempty hfresh hids hnr
  have hrun : runPasses s 1 w = w₁ := by rw [runPasses, after_of_ok h₁]; rfl
  exact ⟨⟨v, l, v', hv, hl, by rw [hrun]; exact hdef⟩, runPasses_ok_of_first_pass hm hvpc hsec h₁ hr⟩

/-- The owned VPC of the fixtures, with the dotted split and no IPv6 block. -/
def newVpcService : Service := { ownedVpcService with cidr := dottedSplit }

/-- A region with the zones `a` and `b`, no subnet, and an empty stored list. -/
def newVpcWorld : World := { zonesWorld ["a", "b"] with subnets := [] }

theorem new_vpc_runPasses_ok_newVpcWorld :
    newVpcService.scope.vpc.isUnmanaged newVpcService.scope.name = false ∧ newVpcService.scope.vpc.id ≠ "" ∧
      newVpcService.scope.secondaryCidrBlock = none ∧ newVpcService.scope.vpc.ipv6 = none ∧
      newVpcService.cidr.SplitsIPv4 (fun b (a : List Char) => List.IsPrefix b.data a) ∧
      (∀ c k bs, newVpcService.cidr.splitIntoSubnetsIPv4 c k = .ok bs → ∀ b ∈ bs,
        ∃ a : List Char, List.IsPrefix b.data a) ∧
      1 ≤ maxZones newVpcService ∧ (∀ n, newVpcWorld.fault n = none) ∧ newVpcWorld.cloud.availabilityZones ≠ [] ∧
      DefaultsSplit newVpcService (zoneCount newVpcService newVpcWorld.cloud.availabilityZones) ∧
      newVpcWorld.subnets = [] ∧
      (∀ sn ∈ newVpcWorld.cloud.subnets, sn.vpcId ≠ newVpcService.scope.vpc.id) ∧
      newVpcWorld.cloud.subnetIds.Nodup ∧ newVpcWorld.cloud.NoInternetRoute ∧
      (∃ v l v', v.cloud = newVpcWorld.cloud ∧ getDefaultSubnets newVpcService v = .ok l v' ∧
        (observedSubnets newVpcService (runPasses newVpcService 1 newVpcWorld).cloud).map
          (fun x => (x.cidrBlock, x.isPublic)) = l.map fun e => (e.cidrBlock, e.isPublic)) ∧
      ∀ n, ∃ w', reconcileSubnets newVpcService (runPasses newVpcService n newVpcWorld) = .ok () w' :=
  ⟨by decide, by decide, rfl, rfl, dottedSplit_splitsIPv4, fun _ _ _ _ b _ => ⟨b.data, List.prefix_refl _⟩,
    by decide, fun _ => rfl, by decide, dottedSplit_defaultsSplit rfl _, rfl, (fun _ h => nomatch h), by decide,
    (fun _ h => nomatch h),
    new_vpc_runPasses_ok newVpcService (by decide) (by decide) rfl rfl _ dottedSplit_splitsIPv4
      (fun _ _ _ _ b _ => ⟨b.data, List.prefix_refl _⟩) (by decide) (fun _ => rfl) (by decide)
      (dottedSplit_defaultsSplit rfl _) rfl (fun _ h => nomatch h) (by decide) (fun _ h => nomatch h)⟩

/-- As `new_vpc_runPasses_ok`, with or without an IPv6 block, the IPv6 split keeping its contract:
the first pass creates a subnet with the block, the IPv6 block and the role of each default. -/
theorem new_vpc_runPasses_ipv6 (s : Service) (hm : s.scope.vpc.isUnmanaged s.scope.name = false)
    (hvpc : s.scope.vpc.id ≠ "") (hsec : s.scope.secondaryCidrBlock = none)
    {Addr : Type} (mem : String → Addr → Prop) (h4 : s.cidr.SplitsIPv4 mem)
    (hocc : ∀ c k bs, s.cidr.splitIntoSubnetsIPv4 c k = .ok bs → ∀ b ∈ bs, ∃ a, mem b a)
    (subnetId : String → Int) (h6 : s.cidr.SplitsIPv6 subnetId) (hmz : 1 ≤ maxZones s)
    {w : World} (hf : ∀ n, w.fault n = none) (hz : w.cloud.availabilityZones ≠ [])
    (hsplit : DefaultsSplit s (zoneCount s w.cloud.availabilityZones)) (hempty : w.subnets = [])
    (hfresh : ∀ sn ∈ w.cloud.subnets, sn.vpcId ≠ s.scope.vpc.id) (hids : w.cloud.subnetIds.Nodup)
    (hnr : w.cloud.NoInternetRoute) :
    (∃ v l v', v.cloud = w.cloud ∧ getDefaultSubnets s v = .ok l v' ∧
        (observedSubnets s (runPasses s 1 w).cloud).map (fun x => (x.cidrBlock, x.isPublic)) =
          l.map (fun e => (e.cidrBlock, e.isPublic)) ∧
        (observedSubnets s (runPasses s 1 w).cloud).map (·.ipv6CidrBlock) = l.map (·.ipv6CidrBlock)) ∧
      ∀ n, ∃ w', reconcileSubnets s (runPasses s n w) = .ok () w' := by
  obtain ⟨w₁, h₁, hr, hdef⟩ :=
    new_vpc_pass hm hvpc hsec (.inr ⟨subnetId, h6⟩) h4 hocc hmz hf hz hsplit hempty hfresh hids hnr
  have hrun : runPasses s 1 w = w₁ := by rw [runPasses, after_of_ok h₁]; rfl
  exact ⟨by rw [hrun]; exact hdef, runPasses_ok_of_first_pass hm hvpc hsec h₁ hr⟩

theorem new_vpc_runPasses_ipv6_dottedService :
    dottedService.scope.vpc.isUnmanaged dottedService.scope.name = false ∧ dottedService.scope.vpc.id ≠ "" ∧
      dottedService.scope.secondaryCidrBlock = none ∧
      dottedService.cidr.SplitsIPv4 (fun b (a : List Char) => List.IsPrefix b.data a) ∧
      (∀ c k bs, dottedService.cidr.splitIntoSubnetsIPv4 c k = .ok bs → ∀ b ∈ bs,
        ∃ a : List Char, List.IsPrefix b.data a) ∧
      dottedService.cidr.SplitsIPv6 (fun b => (b.length : Int)) ∧ 1 ≤ maxZones dottedService ∧
      (∀ n, newVpcWorld.fault n = none) ∧ newVpcWorld.cloud.availabilityZones ≠ [] ∧
      DefaultsSplit dottedService (zoneCount dottedService newVpcWorld.cloud.availabilityZones) ∧
      newVpcWorld.subnets = [] ∧
      (∀ sn ∈ newVpcWorld.cloud.subnets, sn.vpcId ≠ dottedService.scope.vpc.id) ∧
      newVpcWorld.cloud.subnetIds.Nodup ∧ newVpcWorld.cloud.NoInternetRoute ∧
      (∃ v l v', v.cloud = newVpcWorld.cloud ∧ getDefaultSubnets dottedService v = .ok l v' ∧
        (observedSubnets dottedService (runPasses dottedService 1 newVpcWorld).cloud).map
          (fun x => (x.cidrBlock, x.isPublic)) = l.map (fun e => (e.cidrBlock, e.isPublic)) ∧
        (observedSubnets dottedService (runPasses dottedService 1 newVpcWorld).cloud).map (·.ipv6CidrBlock) =
          l.map (·.ipv6CidrBlock)) ∧
      ∀ n, ∃ w', reconcileSubnets dottedService (runPasses dottedService n newVpcWorld) = .ok () w' :=
  ⟨by decide, by decide, rfl, dottedSplit_splitsIPv4, fun _ _ _ _ b _ => ⟨b.data, List.prefix_refl _⟩,
    dottedSplit_splitsIPv6, by decide, fun _ => rfl, by decide, dottedSplit_defaultsSplit rfl _, rfl,
    (fun _ h => nomatch h), by decide, (fun _ h => nomatch h),
    new_vpc_runPasses_ipv6 dottedService (by decide) (by decide) rfl _ dottedSplit_splitsIPv4
      (fun _ _ _ _ b _ => ⟨b.data, List.prefix_refl _⟩) _ dottedSplit_splitsIPv6 (by decide) (w := newVpcWorld)
      (fun _ => rfl) (by decide) (dottedSplit_defaultsSplit rfl _) rfl (fun _ h => nomatch h) (by decide)
      (fun _ h => nomatch h)⟩

end CapaSubnets
