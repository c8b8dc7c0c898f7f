import CapaSubnets.Pass

/-!
# A pass on an unmanaged VPC

On a VPC the cluster does not own, a pass of `reconcileSubnets` makes describe calls and tag
writes only: it creates, deletes and modifies no subnet. Its tag writes go to subnets it
observed, only when the scope asks for unmanaged resources to be tagged, and carry only the
scope's additional tags, the ELB role tags and the cloud provider's shared tag: never the
`Name`, role or ownership tags of a managed subnet. `deleteSubnets` makes no call at all.

A successful pass stores the list it started from matched entry by entry up to the first entry
whose tagging failed, and as it was from there on: the `break` of the matching loop leaves the
entries after that one unchecked, so an entry that no observed subnet equals need not make the
pass fail.
-/

namespace CapaSubnets

def observedIds (s : Service) (c : Cloud) : List String :=
  (c.subnets.filter (describeSubnetsFilter s)).map (·.subnetId)

theorem observedSubnets_id_mem_observedIds {s : Service} {c : Cloud} {x : SubnetSpec}
    (h : x ∈ observedSubnets s c) : x.id ∈ observedIds s c := by
  obtain ⟨sn, hsn, rfl⟩ := List.mem_map.mp h
  rw [subnetSpecOf_id]
  exact List.mem_map_of_mem _ hsn

theorem observedIds_map {s : Service} (hid : s.scope.vpc.id ≠ "") (c : Cloud)
    (f : Ec2Subnet → Ec2Subnet) (hf : ∀ sn, (f sn).subnetId = sn.subnetId ∧ (f sn).vpcId = sn.vpcId) :
    observedIds s { c with subnets := c.subnets.map f } = observedIds s c := by
  have hfilter : describeSubnetsFilter s = fun sn => sn.vpcId == s.scope.vpc.id := by
    funext sn
    simp [describeSubnetsFilter, hid]
  simp [observedIds, hfilter, List.filter_map, Function.comp_def, hf]

-- ---------------------------------------------------------------------------
-- The calls of a pass
-- ---------------------------------------------------------------------------

/-- The tags a pass may write on a subnet of an unmanaged VPC: the scope's additional tags, an
ELB role tag with the value `1`, and the cloud provider's tag with the value `shared`. -/
def UnmanagedTag (s : Service) (k v : String) : Prop :=
  k ∈ s.scope.additionalTags ∨ (k = externalLoadBalancerTag ∧ v = "1") ∨
    (k = internalLoadBalancerTag ∧ v = "1") ∨
    (k = clusterAWSCloudProviderTagKey s.scope.kubernetesClusterName ∧ v = resourceLifecycleShared)

/-- The calls a pass on an unmanaged VPC may make: describes and, when the scope asks for it,
`UnmanagedTag` writes on the observed subnets `ids`. -/
def UnmanagedCall (s : Service) (ids : List String) : Call → Prop
  | .createTags r t => s.scope.tagUnmanagedNetworkResources = true ∧ r ∈ ids ∧
      ∀ k v, t.lookup k = some v → UnmanagedTag s k v
  | call => call.isDescribe = true

def unmanagedCalls (s : Service) (ids : List String) : Guarantee := .callsOnly (UnmanagedCall s ids)

section
variable {s : Service} {ids : List String}

theorem unmanagedCalls_issue {α : Type} {call : Call} {effect : Cloud → α × Cloud}
    (hcall : UnmanagedCall s ids call) (heffect : ∀ c, observedIds s c = ids → observedIds s (effect c).2 = ids) :
    (unmanagedCalls s ids).Inv (fun w => observedIds s w.cloud = ids) (issue call effect) :=
  Guarantee.callsOnly_issue hcall (fun _ hw => heffect _ hw) fun _ hw => hw

theorem unmanagedCalls_reads : (unmanagedCalls s ids).Reads fun w => observedIds s w.cloud = ids where
  describe call _ h := unmanagedCalls_issue (by cases call <;> simp_all [UnmanagedCall, Call.isDescribe])
    fun _ h => h
  getSubnets _ hw := ⟨⟨[], rfl, nofun⟩, hw⟩
  setSubnets _ _ hw := ⟨⟨[], rfl, nofun⟩, hw⟩

theorem unmanagedTag_of_lookup (isPublic : Bool) {k v : String}
    (h : ((if isPublic then s.scope.additionalTags.insert externalLoadBalancerTag "1"
        else s.scope.additionalTags.insert internalLoadBalancerTag "1").insert
        (clusterAWSCloudProviderTagKey s.scope.kubernetesClusterName) resourceLifecycleShared).lookup k =
      some v) : UnmanagedTag s k v := by
  by_cases hcp : k = clusterAWSCloudProviderTagKey s.scope.kubernetesClusterName
  · subst hcp
    rw [AList.lookup_insert] at h
    exact .inr (.inr (.inr ⟨rfl, (Option.some.inj h).symm⟩))
  rw [AList.lookup_insert_ne hcp] at h
  have hmem : ∀ {key : String}, k ≠ key → s.scope.additionalTags.lookup k = some v → UnmanagedTag s k v :=
    fun _ ha => .inl (AList.lookup_isSome.mp (by simp [ha]))
  cases isPublic with
  | true =>
    by_cases he : k = externalLoadBalancerTag
    · subst he
      rw [if_pos rfl, AList.lookup_insert] at h
      exact .inr (.inl ⟨rfl, (Option.some.inj h).symm⟩)
    · rw [if_pos rfl, AList.lookup_insert_ne he] at h
      exact hmem he h
  | false =>
    by_cases hi : k = internalLoadBalancerTag
    · subst hi
      rw [if_neg Bool.false_ne_true, AList.lookup_insert] at h
      exact .inr (.inr (.inl ⟨rfl, (Option.some.inj h).symm⟩))
    · rw [if_neg Bool.false_ne_true, AList.lookup_insert_ne hi] at h
      exact hmem hi h

theorem unmanagedCalls_ensure (hid : s.scope.vpc.id ≠ "") {x : SubnetSpec} (hx : x.id ∈ ids) (t : Tags) :
    (unmanagedCalls s ids).Inv (fun w => observedIds s w.cloud = ids)
      (ensure (getSubnetTagParams s true x.id x.isPublic x.availabilityZone t) x.tags) := by
  have hb := build_additional (getSubnetTagParams s true x.id x.isPublic x.availabilityZone t) rfl rfl rfl
  refine Guarantee.Inv.ite (fun hwrite => unmanagedCalls_issue ?_ fun c hc => ?_) fun _ => .pure ()
  · cases htag : s.scope.tagUnmanagedNetworkResources
    · simp [getSubnetTagParams, htag, build] at hwrite
    · refine ⟨htag, hx, fun k v hkv => unmanagedTag_of_lookup x.isPublic ?_⟩
      simpa [hb, getSubnetTagParams, htag] using hkv
  · rw [← hc]
    exact observedIds_map hid c _ fun sn => by constructor <;> (dsimp only; split <;> rfl)

end

/-- On an unmanaged VPC, a pass makes only `UnmanagedCall`s, for the subnets observed when it
starts, however its calls fail; and `deleteSubnets` makes no call and changes nothing. -/
theorem unmanaged_pass_calls (s : Service) (hu : s.scope.vpc.isUnmanaged s.scope.name = true) (w : World) :
    (∃ new, (after (reconcileSubnets s) w).calls = new ++ w.calls ∧
      ∀ c ∈ new, UnmanagedCall s (observedIds s w.cloud) c) ∧
      deleteSubnets s w = .ok () w := by
  refine ⟨(reconcileSubnets_inv unmanagedCalls_reads s (R := fun ex => ∀ x ∈ ex, x.id ∈ observedIds s w.cloud)
    ?_ (fun h => by simp [hu] at h) ?_ (fun h => by simp [hu] at h) w rfl).1, by simp [deleteSubnets, hu]⟩
  · intro v ex v' hv hd x hx
    rw [(observeStage_ok hd).1] at hx
    exact hv ▸ observedSubnets_id_mem_observedIds hx
  · intro ex hex x hx t
    rw [hu]
    exact unmanagedCalls_ensure (VPCSpec.id_ne_of_isUnmanaged hu) (hex x hx) t

-- ---------------------------------------------------------------------------
-- What a pass stores
-- ---------------------------------------------------------------------------

/-- On an unmanaged VPC, a successful pass stores the starting list with the secondary entries
appended, matched up to some `k` and as it was after, stopping only at an entry a subnet equals. -/
theorem reconcileSubnets_ok_unmanaged (s : Service) (hu : s.scope.vpc.isUnmanaged s.scope.name = true)
    {w w' : World} (h : reconcileSubnets s w = .ok () w') :
    ∃ extra k, w'.subnets = ((w.subnets ++ extra).take k).map (matchedEntry (observedSubnets s w.cloud)) ++
        (w.subnets ++ extra).drop k ∧
      (s.scope.secondaryCidrBlock = none → extra = []) ∧ (∀ e ∈ extra, SecondaryEntry s (observedSubnets s w.cloud) e) ∧
      (∀ sec limit blocks, s.scope.secondaryCidrBlock = some sec →
        s.scope.vpc.availabilityZoneUsageLimit = some limit → s.cidr.splitIntoSubnetsIPv4 sec limit = .ok blocks →
        ∀ b ∈ blocks, (∃ x ∈ observedSubnets s w.cloud, x.cidrBlock = b) ∨ ∃ e ∈ extra, e.cidrBlock = b) ∧
      (∀ e ∈ (w.subnets ++ extra).take k, ((observedSubnets s w.cloud).findEqual e).isSome) ∧
      (k < (w.subnets ++ extra).length → ∃ e rest, (w.subnets ++ extra).drop k = e :: rest ∧
        ((observedSubnets s w.cloud).findEqual e).isSome) := by
  obtain ⟨l₁, extra, l₃, exit, w₁, w₃, hdef, hextra, hblocks, hloop, hexit, -, hlast⟩ := reconcileSubnets_ok h
  have hl₁ : l₁ = w.subnets := hdef.resolve_right fun ⟨_, hm, _⟩ => by simp [hu] at hm
  subst hl₁
  rw [hu] at hloop
  obtain ⟨k, -, hl₃, hfound, hdone, hbroke⟩ := matchSubnets_ok hloop
  have hstored : w'.subnets = l₃ := hlast.elim (·.2) fun h' => absurd h'.1 (by simp [hu])
  -- every appended entry comes from the secondary block's split
  have hnone : s.scope.secondaryCidrBlock = none → extra = [] := fun hn =>
    List.eq_nil_iff_forall_not_mem.mpr fun e he => by
      obtain ⟨_, _, _, hsec, -⟩ := (hextra e he).split
      simp [hn] at hsec
  refine ⟨extra, k, hstored.trans hl₃, hnone, hextra, hblocks, hfound rfl, fun hk => ?_⟩
  cases exit with
  | done => exact absurd (hdone rfl) (Nat.ne_of_lt hk)
  | broke => exact (hbroke rfl).2
  | failed e => exact absurd rfl (hexit e)

/-- A cluster `c` in the VPC `vpc-1`, which it does not own, asking for unmanaged resources to be
tagged. -/
def userVpcService : Service where
  scope := { name := "c", kubernetesClusterName := "c", vpc := { id := "vpc-1" },
             tagUnmanagedNetworkResources := true }
  cidr := numberedSplit
  shuffle := keepOrder

/-- The subnet `s-1` of the VPC, a declared entry equal to it and one that no subnet equals, and
an API that refuses the fourth call: the tag write on `s-1`. -/
def tagFailureWorld : World where
  cloud := { subnets := [{ subnetId := "s-1", vpcId := "vpc-1", cidrBlock := "10.0.1.0/24",
                           availabilityZone := "a" }] }
  subnets := [{ cidrBlock := "10.0.1.0/24" }, { cidrBlock := "10.0.2.0/24" }]
  fault n := if n = 3 then some ⟨"UnauthorizedOperation", "not authorized"⟩ else none

theorem unmanaged_pass_calls_tagFailureWorld :
    (∃ new, (after (reconcileSubnets userVpcService) tagFailureWorld).calls = new ++ tagFailureWorld.calls ∧
      ∀ c ∈ new, UnmanagedCall userVpcService (observedIds userVpcService tagFailureWorld.cloud) c) ∧
      deleteSubnets userVpcService tagFailureWorld = .ok () tagFailureWorld :=
  unmanaged_pass_calls userVpcService (by decide) tagFailureWorld

theorem reconcileSubnets_ok_unmanaged_tagFailureWorld :
    ∃ extra k, (after (reconcileSubnets userVpcService) tagFailureWorld).subnets =
        ((tagFailureWorld.subnets ++ extra).take k).map
          (matchedEntry (observedSubnets userVpcService tagFailureWorld.cloud)) ++
        (tagFailureWorld.subnets ++ extra).drop k ∧
      (userVpcService.scope.secondaryCidrBlock = none → extra = []) ∧
      (∀ e ∈ extra, SecondaryEntry userVpcService (observedSubnets userVpcService tagFailureWorld.cloud) e) ∧
      (∀ sec limit blocks, userVpcService.scope.secondaryCidrBlock = some sec →
        userVpcService.scope.vpc.availabilityZoneUsageLimit = some limit →
        userVpcService.cidr.splitIntoSubnetsIPv4 sec limit = .ok blocks → ∀ b ∈ blocks,
          (∃ x ∈ observedSubnets userVpcService tagFailureWorld.cloud, x.cidrBlock = b) ∨ ∃ e ∈ extra, e.cidrBlock = b) ∧
      (∀ e ∈ (tagFailureWorld.subnets ++ extra).take k,
        ((observedSubnets userVpcService tagFailureWorld.cloud).findEqual e).isSome) ∧
      (k < (tagFailureWorld.subnets ++ extra).length → ∃ e rest, (tagFailureWorld.subnets ++ extra).drop k = e :: rest ∧
        ((observedSubnets userVpcService tagFailureWorld.cloud).findEqual e).isSome) :=
  reconcileSubnets_ok_unmanaged userVpcService (by decide) rfl

/-- The pass returns nil and stores both declared entries as they were: the failed tag write on
`s-1` broke the loop before the second entry, which equals no observed subnet. -/
theorem tagFailureWorld_skips_unmatched :
    reconcileSubnets userVpcService tagFailureWorld =
      .ok () (after (reconcileSubnets userVpcService) tagFailureWorld) ∧
    (∃ e ∈ tagFailureWorld.subnets, (observedSubnets userVpcService tagFailureWorld.cloud).findEqual e = none) ∧
    (after (reconcileSubnets userVpcService) tagFailureWorld).subnets.map (·.id) = ["", ""] :=
  ⟨rfl, by decide, by decide⟩

end CapaSubnets
