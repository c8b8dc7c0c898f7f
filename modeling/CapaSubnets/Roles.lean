import CapaSubnets.Tagging
/-!
# A subnet stays public or private

`describeVpcSubnets` reports a subnet public when its role tag says `public` or when its route
table, its own or else the VPC's main one, routes to an internet gateway. On a managed VPC the
only tag writes a pass makes on a subnet that exists are those of the matching loop, and each
writes the role the describe reported for that subnet, over any manual tag of that key. So no
pass changes whether a describe reports a subnet public, however its calls fail, and neither does
a run of passes: a private subnet is never tagged public, nor the reverse. `createSubnet` tags
only the subnet it makes, and the attribute calls touch no tag.

This needs the IDs of the cloud's subnets to be distinct, as EC2 keeps them and every pass does:
with two subnets of one ID, a tag write meant for one lands on both.
-/

namespace CapaSubnets

-- ---------------------------------------------------------------------------
-- What a describe reports of a subnet
-- ---------------------------------------------------------------------------

theorem subnetSpecOf_isPublic (routeTables : List (String × RouteTable))
    (natGateways : List (String × NatGateway)) (sn : Ec2Subnet) :
    (subnetSpecOf routeTables natGateways sn).isPublic = (sn.tags.getRole == publicRoleTagValue ||
      ((routeTables.lookup sn.subnetId).orElse fun _ => routeTables.lookup mainRouteTableInVPCKey).any
        fun rt => rt.routes.any fun r => r.gatewayId.any (·.startsWith "igw")) := by
  unfold subnetSpecOf
  cases (routeTables.lookup sn.subnetId).orElse fun _ => routeTables.lookup mainRouteTableInVPCKey <;>
    cases natGateways.lookup sn.subnetId <;> by_cases hrole : sn.tags.getRole = publicRoleTagValue <;> simp [hrole]

theorem subnetSpecOf_isPublic_retag (routeTables : List (String × RouteTable))
    (natGateways : List (String × NatGateway)) (sn : Ec2Subnet) {t : Tags} {b : Bool}
    (hsn : (subnetSpecOf routeTables natGateways sn).isPublic = b)
    (ht : t.lookup nameAWSClusterAPIRole = some (if b then publicRoleTagValue else privateRoleTagValue)) :
    (subnetSpecOf routeTables natGateways { sn with tags := t ∪ sn.tags }).isPublic = b := by
  have hrole : Tags.getRole (t ∪ sn.tags) = if b then publicRoleTagValue else privateRoleTagValue := by
    rw [Tags.getRole, AList.lookup_union_left (AList.lookup_isSome.mp (by simp [ht])), ht]
    rfl
  rw [subnetSpecOf_isPublic] at hsn ⊢
  cases b <;> simp_all [publicRoleTagValue, privateRoleTagValue]

/-- Whether a describe reports the subnet with the ID public: the first one, if the ID is not
unique. -/
def Cloud.isPublic (c : Cloud) (id : String) : Option Bool :=
  (c.subnets.find? fun sn => sn.subnetId == id).map fun sn => (subnetSpecOf c.routeTables c.natGateways sn).isPublic

theorem Cloud.isPublic_isSome {c : Cloud} {id : String} : (c.isPublic id).isSome ↔ id ∈ c.subnetIds := by
  simp [Cloud.isPublic, Cloud.subnetIds, List.find?_isSome]

theorem Cloud.isPublic_map (c : Cloud) {f : Ec2Subnet → Ec2Subnet} (hid : ∀ sn, (f sn).subnetId = sn.subnetId)
    (id : String) : ({ c with subnets := c.subnets.map f } : Cloud).isPublic id =
      (c.subnets.find? fun sn => sn.subnetId == id).map
        fun sn => (subnetSpecOf c.routeTables c.natGateways (f sn)).isPublic := by
  simp [Cloud.isPublic, List.find?_map, Function.comp_def, hid]

theorem Cloud.subnetIds_map (c : Cloud) {f : Ec2Subnet → Ec2Subnet} (hid : ∀ sn, (f sn).subnetId = sn.subnetId) :
    ({ c with subnets := c.subnets.map f } : Cloud).subnetIds = c.subnetIds := by
  simp [Cloud.subnetIds, Function.comp_def, hid]

@[simp] theorem SubnetAttribute.set_subnetId (attr : SubnetAttribute) (sn : Ec2Subnet) :
    (attr.set sn).subnetId = sn.subnetId := by
  cases attr <;> rfl

/-- An attribute is nothing a describe reads. -/
@[simp] theorem subnetSpecOf_set (routeTables : List (String × RouteTable))
    (natGateways : List (String × NatGateway)) (attr : SubnetAttribute) (sn : Ec2Subnet) :
    subnetSpecOf routeTables natGateways (attr.set sn) = subnetSpecOf routeTables natGateways sn := by
  cases attr <;> rfl

theorem find?_subnetId {c : Cloud} (hids : c.subnetIds.Nodup) {sn : Ec2Subnet} (hsn : sn ∈ c.subnets) :
    c.subnets.find? (fun x => x.subnetId == sn.subnetId) = some sn := by
  have hfound : (c.subnets.find? fun x => x.subnetId == sn.subnetId).isSome :=
    List.find?_isSome.mpr ⟨sn, hsn, by simp⟩
  obtain ⟨x, hx⟩ := Option.isSome_iff_exists.mp hfound
  have hxid : x.subnetId = sn.subnetId := by simpa using List.find?_some hx
  rw [hx, List.inj_on_of_nodup_map hids (List.mem_of_find?_eq_some hx) hsn hxid]

-- ---------------------------------------------------------------------------
-- Every subnet keeps its role
-- ---------------------------------------------------------------------------

/-- Every subnet of `c` is in `c'`, and reported public there exactly when it is in `c`. -/
def Cloud.SameRoles (c c' : Cloud) : Prop := ∀ id ∈ c.subnetIds, c'.isPublic id = c.isPublic id

namespace Cloud.SameRoles

variable {c c' c'' : Cloud}

theorem refl (c : Cloud) : c.SameRoles c := fun _ _ => rfl

theorem mem {id : String} (h : c.SameRoles c') (hid : id ∈ c.subnetIds) : id ∈ c'.subnetIds := by
  rw [← Cloud.isPublic_isSome, h id hid, Cloud.isPublic_isSome]
  exact hid

theorem trans (h : c.SameRoles c') (h' : c'.SameRoles c'') : c.SameRoles c'' :=
  fun id hid => (h' id (h.mem hid)).trans (h id hid)

theorem append (sn : Ec2Subnet) : c.SameRoles { c with subnets := c.subnets ++ [sn] } := by
  intro id hid
  obtain ⟨x, hx, hxid⟩ : ∃ x ∈ c.subnets, x.subnetId = id := by simpa [Cloud.subnetIds] using hid
  have hfound : (c.subnets.find? fun sn => sn.subnetId == id).isSome := List.find?_isSome.mpr ⟨x, hx, by simp [hxid]⟩
  obtain ⟨y, hy⟩ := Option.isSome_iff_exists.mp hfound
  simp [Cloud.isPublic, List.find?_append, hy]

theorem set (id : String) (attr : SubnetAttribute) :
    c.SameRoles { c with subnets := c.subnets.map fun sn => if sn.subnetId = id then attr.set sn else sn } := by
  intro i _
  rw [Cloud.isPublic_map c (fun sn => by split <;> simp)]
  simp only [Cloud.isPublic, apply_ite (subnetSpecOf c.routeTables c.natGateways), subnetSpecOf_set, ite_self]

theorem createTags {x : SubnetSpec} (hx : c.isPublic x.id = some x.isPublic) {t : Tags}
    (ht : t.lookup nameAWSClusterAPIRole = some (if x.isPublic then publicRoleTagValue else privateRoleTagValue)) :
    c.SameRoles { c with subnets := c.subnets.map fun sn =>
      if sn.subnetId = x.id then { sn with tags := t ∪ sn.tags } else sn } := by
  intro i _
  rw [Cloud.isPublic_map c (fun sn => by split <;> rfl)]
  cases hf : c.subnets.find? (fun sn => sn.subnetId == i) with
  | none => simp [Cloud.isPublic, hf]
  | some sn =>
    have hsn : sn.subnetId = i := by simpa using List.find?_some hf
    by_cases hi : i = x.id
    · subst hi
      have hflag : (subnetSpecOf c.routeTables c.natGateways sn).isPublic = x.isPublic := by
        simpa [Cloud.isPublic, hf] using hx
      simp only [Cloud.isPublic, hf, Option.map_some', if_pos hsn, subnetSpecOf_isPublic_retag _ _ sn hflag ht, hflag]
    · simp [Cloud.isPublic, hf, hsn, hi]

end Cloud.SameRoles

/-- The subnets `existing` are reported as the cloud reports them. -/
def Cloud.Reports (c : Cloud) (existing : Subnets) : Prop := ∀ x ∈ existing, c.isPublic x.id = some x.isPublic

theorem Cloud.Reports.sameRoles {c c' : Cloud} {existing : Subnets} (h : c.Reports existing) (hc : c.SameRoles c') :
    c'.Reports existing := fun x hx =>
  (hc x.id (Cloud.isPublic_isSome.mp (by simp [h x hx]))).trans (h x hx)

theorem Cloud.reports_observed {c : Cloud} (hids : c.subnetIds.Nodup) (s : Service) :
    c.Reports (observedSubnets s c) := by
  intro x hx
  obtain ⟨sn, hsn, rfl⟩ := List.mem_map.mp hx
  simp [Cloud.isPublic, find?_subnetId hids (List.mem_filter.mp hsn).1]

-- ---------------------------------------------------------------------------
-- The calls of a pass
-- ---------------------------------------------------------------------------

def roles : Guarantee where
  rel w w' := w.cloud.SameRoles w'.cloud ∧ (w.cloud.subnetIds.Nodup → w'.cloud.subnetIds.Nodup)
  refl _ := ⟨Cloud.SameRoles.refl _, id⟩
  trans h h' := ⟨h.1.trans h'.1, h'.2 ∘ h.2⟩

/-- Distinct IDs, and the subnets `existing` reported as the cloud reports them: what the tag
writes of a pass that observed `existing` need. -/
def RolesOf (existing : Subnets) (w : World) : Prop := w.cloud.subnetIds.Nodup ∧ w.cloud.Reports existing

theorem rolesOf_stable {existing : Subnets} {w w' : World} (hw : RolesOf existing w) (h : roles.rel w w') :
    RolesOf existing w' :=
  ⟨h.2 hw.1, hw.2.sameRoles h.1⟩

theorem Guarantee.Inv.of_holds {α : Type} {G : Guarantee} {P : World → Prop} {x : Ec2 α}
    (hP : ∀ w w', P w → G.rel w w' → P w') (h : G.Holds x) : G.Inv P x := fun w hw =>
  let ⟨hr, _⟩ := h w trivial
  ⟨hr, hP _ _ hw hr⟩

theorem roles_issue_of {α : Type} {P : World → Prop} {call : Call} {effect : Cloud → α × Cloud}
    (hP : ∀ w w', P w → roles.rel w w' → P w')
    (h : ∀ w, P w → w.cloud.SameRoles (effect w.cloud).2 ∧ (w.cloud.subnetIds.Nodup → (effect w.cloud).2.subnetIds.Nodup)) :
    roles.Inv P (issue call effect) := fun w hw => by
  have hrel : roles.rel w (after (issue call effect) w) := by
    simp only [after, issue]
    cases w.fault w.calls.length with
    | some _ => exact roles.refl w
    | none => exact h w hw
  exact ⟨hrel, hP _ _ hw hrel⟩

theorem roles_issue {α : Type} {call : Call} {effect : Cloud → α × Cloud}
    (h : ∀ c : Cloud, c.SameRoles (effect c).2 ∧ (c.subnetIds.Nodup → (effect c).2.subnetIds.Nodup)) :
    roles.Holds (issue call effect) :=
  roles_issue_of (fun _ _ _ _ => trivial) fun w _ => h w.cloud

theorem roles_read {α : Type} {call : Call} {read : Cloud → α} : roles.Holds (issue call fun c => (read c, c)) :=
  roles_issue fun c => ⟨Cloud.SameRoles.refl c, id⟩

theorem roles_reads (existing : Subnets) : roles.Reads (RolesOf existing) where
  describe _ _ _ := .of_holds (fun _ _ => rolesOf_stable) roles_read
  getSubnets _ hw := ⟨roles.refl _, hw⟩
  setSubnets _ _ hw := ⟨roles.refl _, hw⟩

theorem roles_reads_nodup : roles.Reads fun w => w.cloud.subnetIds.Nodup where
  describe _ _ _ := .of_holds (fun _ _ hw h => h.2 hw) roles_read
  getSubnets _ hw := ⟨roles.refl _, hw⟩
  setSubnets _ _ hw := ⟨roles.refl _, hw⟩

theorem roles_createSubnet (s : Service) (sn : SubnetSpec) : roles.Holds (createSubnet s sn) := by
  refine (Guarantee.Inv.adaptExcept _ (roles_issue fun c => ⟨.append _, fun h => ?_⟩)).bind fun out =>
    createSubnet_rest_holds _ out roles_read fun _ _ => .adaptExcept _ (waitForWithRetryable_inv _
      (roles_issue fun c => ⟨.set _ _, fun h => by rwa [Cloud.subnetIds_map c fun sn => by split <;> simp]⟩) _)
  simp only [Cloud.subnetIds] at h
  simpa [Cloud.subnetIds, List.nodup_append, h] using c.freshSubnetId_fresh

theorem roles_ensure {existing : Subnets} {x : SubnetSpec} (hx : x ∈ existing) (s : Service) (t : Tags) :
    roles.Inv (RolesOf existing) (ensure (getSubnetTagParams s false x.id x.isPublic x.availabilityZone t) x.tags) :=
  .ite (fun _ => roles_issue_of (fun _ _ => rolesOf_stable) fun w hw =>
    ⟨.createTags (hw.2 x hx) (build_role s x.id x.isPublic x.availabilityZone t),
      fun h => by rwa [Cloud.subnetIds_map w.cloud fun sn => by split <;> rfl]⟩) fun _ => .pure ()

-- ---------------------------------------------------------------------------
-- A pass and a run
-- ---------------------------------------------------------------------------

theorem Guarantee.Inv.bind_with {α β : Type} {G : Guarantee} {P : World → Prop} {Q : α → World → Prop}
    {x : Ec2 α} {f : α → Ec2 β} (hx : G.Inv P x) (hq : ∀ w a w', P w → x w = .ok a w' → Q a w')
    (hf : ∀ a, G.Inv (Q a) (f a)) (hQP : ∀ a w, Q a w → P w) : G.Inv P (x >>= f) := by
  intro w hw
  obtain ⟨hg, hp⟩ := hx w hw
  rw [after_bind]
  cases hxw : x w with
  | ok a w' =>
    rw [after_of_ok hxw] at hg
    obtain ⟨hg', hq'⟩ := hf a w' (hq w a w' hw hxw)
    exact ⟨G.trans hg hg', hQP a _ hq'⟩
  | error e w' =>
    rw [after_of_error hxw] at hg hp
    exact ⟨hg, hp⟩

/-- On a managed VPC, a pass keeps the role of every subnet and keeps IDs distinct, however its
calls fail: it tags only subnets it observed, each with its observed role. -/
theorem roles_reconcileSubnets {s : Service} (hm : s.scope.vpc.isUnmanaged s.scope.name = false) :
    roles.Inv (fun w => w.cloud.subnetIds.Nodup) (reconcileSubnets s) := by
  rw [reconcileSubnets_eq, hm]
  refine (observeStage_inv roles_reads_nodup.toDescribes s (Q := fun _ => True) (fun _ _ => trivial)
    fun l _ => setDefaultSubnets_inv roles_reads_nodup s (fun _ => .of_holds (fun _ _ hw h => h.2 hw) roles_read) l).bind_with
    (Q := RolesOf) (fun w ex w' hw h => ?_) (fun ex => ?_) fun _ _ h => h.1
  · obtain ⟨rfl, hc, -⟩ := observeStage_ok h
    rw [RolesOf, hc]
    exact ⟨hw, Cloud.reports_observed hw s⟩
  · exact (appendSecondary_inv (roles_reads ex) s ex).bind fun _ =>
      (runLoop_inv (roles_reads ex) (matchSubnets_inv s fun x hx t => roles_ensure hx s t)).bind fun _ =>
        (checkSubnets_inv (roles_reads ex).toDescribes _).bind fun _ =>
          .ite (fun _ => runLoop_inv (roles_reads ex) (createSubnets_inv s
            fun sn => .of_holds (fun _ _ => rolesOf_stable) (roles_createSubnet s sn))) fun _ => .pure ()

/-- On a managed VPC, no run of passes, however its calls fail, removes a subnet or changes whether
a describe reports it public. -/
theorem managed_runPasses_isPublic (s : Service) (hm : s.scope.vpc.isUnmanaged s.scope.name = false)
    {w : World} (hids : w.cloud.subnetIds.Nodup) (n : Nat) :
    ∀ id ∈ w.cloud.subnetIds, (runPasses s n w).cloud.isPublic id = w.cloud.isPublic id :=
  (runPasses_inv (roles_reconcileSubnets hm) hids n).1.1

/-- The subnet `s-1` of `vpc-1`, with no role tag but routed to an internet gateway by the main
route table, and a declared private entry with its block. -/
def igwWorld : World where
  cloud := { subnets := [{ subnetId := "s-1", vpcId := "vpc-1", cidrBlock := "10.0.1.0/24", availabilityZone := "a" }],
             routeTables := [(mainRouteTableInVPCKey, { routes := [{ gatewayId := some "igw-1" }] })] }
  subnets := [{ cidrBlock := "10.0.1.0/24", availabilityZone := "a" }]

theorem managed_runPasses_isPublic_igwWorld :
    ownedVpcService.scope.vpc.isUnmanaged ownedVpcService.scope.name = false ∧ igwWorld.cloud.subnetIds.Nodup ∧
      "s-1" ∈ igwWorld.cloud.subnetIds ∧
      (runPasses ownedVpcService 2 igwWorld).cloud.isPublic "s-1" = igwWorld.cloud.isPublic "s-1" :=
  ⟨by decide, by decide, by decide,
    managed_runPasses_isPublic ownedVpcService (by decide) (by decide) 2 "s-1" (by decide)⟩

end CapaSubnets
