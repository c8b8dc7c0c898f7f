import CapaSubnets.Stages

/-!
# What a call keeps

`keeps p` is the guarantee that every subnet of the cloud whose ID satisfies `p` is still
there afterwards, with the same `MapPublicIpOnLaunch` and `AssignIpv6AddressOnCreation`. Every
EC2 call the service makes keeps all subnets, except `ModifySubnetAttribute`, which keeps all
but its target. `createSubnet` modifies only the subnet its `CreateSubnet` call has just made,
whose ID is fresh, so it too keeps every subnet that was there before it; so do the loops and
the whole pass.
-/

namespace CapaSubnets

def subnetAttributes (sn : Ec2Subnet) : Bool × Bool :=
  (sn.mapPublicIpOnLaunch, sn.assignIpv6AddressOnCreation)

/-- The attributes of the subnet with the ID, the first one if the ID is not unique. -/
def Cloud.attributes (c : Cloud) (id : String) : Option (Bool × Bool) :=
  (c.subnets.find? fun sn => sn.subnetId == id).map subnetAttributes

theorem Cloud.attributes_isSome {c : Cloud} {id : String} :
    (c.attributes id).isSome ↔ id ∈ c.subnetIds := by
  simp [Cloud.attributes, Cloud.subnetIds, List.find?_isSome]

/-- Every subnet of `c` whose ID satisfies `p` is in `c'` with the same attributes. -/
def Cloud.Keeps (p : String → Prop) (c c' : Cloud) : Prop :=
  ∀ id ∈ c.subnetIds, p id → c'.attributes id = c.attributes id

namespace Cloud.Keeps

variable {p : String → Prop} {c c' c'' : Cloud}

theorem refl (c : Cloud) : c.Keeps p c := fun _ _ _ => rfl

theorem mem {sid : String} (h : c.Keeps p c') (hid : sid ∈ c.subnetIds) (hp : p sid) :
    sid ∈ c'.subnetIds := by
  rw [← Cloud.attributes_isSome, h sid hid hp, Cloud.attributes_isSome]
  exact hid

theorem trans (h : c.Keeps p c') (h' : c'.Keeps p c'') : c.Keeps p c'' :=
  fun sid hid hp => (h' sid (h.mem hid hp) hp).trans (h sid hid hp)

theorem map (f : Ec2Subnet → Ec2Subnet) (hid : ∀ sn, (f sn).subnetId = sn.subnetId)
    (hattr : ∀ sn, p sn.subnetId → subnetAttributes (f sn) = subnetAttributes sn) :
    c.Keeps p { c with subnets := c.subnets.map f } := by
  intro sid _ hp
  simp only [Cloud.attributes, List.find?_map, Function.comp_def, hid]
  cases hf : c.subnets.find? fun sn => sn.subnetId == sid with
  | none => rfl
  | some sn =>
    have hsn : sn.subnetId = sid := by simpa using List.find?_some hf
    simp [hattr sn (hsn ▸ hp)]

theorem append (sn : Ec2Subnet) : c.Keeps p { c with subnets := c.subnets ++ [sn] } := by
  intro sid hid _
  obtain ⟨x, hx⟩ := Option.isSome_iff_exists.mp (Cloud.attributes_isSome.mpr hid)
  simp only [Cloud.attributes, Option.map_eq_some'] at hx
  obtain ⟨y, hy, -⟩ := hx
  simp [Cloud.attributes, List.find?_append, hy]

end Cloud.Keeps

def SubnetAttribute.setAttributes : SubnetAttribute → Bool × Bool → Bool × Bool
  | .assignIpv6AddressOnCreation, (m, _) => (m, true)
  | .mapPublicIpOnLaunch, (_, a) => (true, a)

theorem Cloud.attributes_set (c : Cloud) (id : String) (attr : SubnetAttribute) :
    ({ c with subnets := c.subnets.map fun sn => if sn.subnetId = id then attr.set sn else sn } : Cloud).attributes id =
      (c.attributes id).map attr.setAttributes := by
  have hid : ∀ sn : Ec2Subnet, (if sn.subnetId = id then attr.set sn else sn).subnetId = sn.subnetId := by
    intro sn
    split
    · cases attr <;> rfl
    · rfl
  simp only [Cloud.attributes, List.find?_map, Function.comp_def, hid]
  cases hf : c.subnets.find? fun sn => sn.subnetId == id with
  | none => rfl
  | some sn =>
    have hsn : sn.subnetId = id := by simpa using List.find?_some hf
    cases attr <;> simp [hsn, SubnetAttribute.set, SubnetAttribute.setAttributes, subnetAttributes]

theorem Cloud.attributes_append_fresh (c : Cloud) (sn : Ec2Subnet) (hfresh : sn.subnetId ∉ c.subnetIds) :
    ({ c with subnets := c.subnets ++ [sn] } : Cloud).attributes sn.subnetId = some (subnetAttributes sn) := by
  have hnone : (c.subnets.find? fun x => x.subnetId == sn.subnetId) = none := by
    rw [List.find?_eq_none]
    intro x hx hxid
    exact hfresh (by simpa [Cloud.subnetIds] using ⟨x, hx, by simpa using hxid⟩)
  simp [Cloud.attributes, List.find?_append, hnone]

def keeps (p : String → Prop) : Guarantee where
  rel w w' := w.cloud.Keeps p w'.cloud
  refl w := Cloud.Keeps.refl w.cloud
  trans h h' := h.trans h'

theorem keeps_of {α : Type} {p : String → Prop} {x : Ec2 α}
    (h : ∀ w : World, w.cloud.Keeps p (after x w).cloud) : (keeps p).Holds x :=
  fun w _ => ⟨h w, trivial⟩

-- ---------------------------------------------------------------------------
-- The calls
-- ---------------------------------------------------------------------------

section
variable {α : Type} {p : String → Prop}

theorem keeps_issue {call : Call} {effect : Cloud → α × Cloud} (h : ∀ c : Cloud, c.Keeps p (effect c).2) :
    (keeps p).Holds (issue call effect) := keeps_of fun w => by
  simp only [after, issue]
  cases w.fault w.calls.length with
  | some f => exact Cloud.Keeps.refl _
  | none => exact h w.cloud

theorem keeps_read {call : Call} {read : Cloud → α} :
    (keeps p).Holds (issue call fun c => (read c, c)) :=
  keeps_issue fun c => Cloud.Keeps.refl c

theorem keeps_reads : (keeps p).Reads fun _ => True where
  describe _ _ _ := keeps_read
  getSubnets := keeps_of fun w => Cloud.Keeps.refl w.cloud
  setSubnets _ := keeps_of fun w => Cloud.Keeps.refl w.cloud

theorem keeps_createTags (r : String) (t : Tags) : (keeps p).Holds (EC2Client.createTags r t) :=
  keeps_issue fun _ => Cloud.Keeps.map (fun sn => if sn.subnetId = r then { sn with tags := t ∪ sn.tags } else sn)
    (fun sn => by dsimp only; split <;> rfl) (fun sn _ => by dsimp only; split <;> rfl)

theorem keeps_createSubnetCall (input : CreateSubnetInput) :
    (keeps p).Holds (EC2Client.createSubnet input) :=
  keeps_issue fun _ => Cloud.Keeps.append _

theorem keeps_modifySubnetAttribute (id : String) (attr : SubnetAttribute) :
    (keeps (· ≠ id)).Holds (EC2Client.modifySubnetAttribute id attr) := by
  apply keeps_issue
  intro c
  apply Cloud.Keeps.map (fun sn => if sn.subnetId = id then attr.set sn else sn)
  · intro sn
    split
    · cases attr <;> rfl
    · rfl
  · intro sn hne
    simp [hne]

theorem keeps_ensure (params : BuildParams) (current : Tags) : (keeps p).Holds (ensure params current) :=
  Guarantee.Inv.ite (fun _ => keeps_createTags _ _) fun _ => .pure ()

end

-- ---------------------------------------------------------------------------
-- Creating a subnet
-- ---------------------------------------------------------------------------

theorem createSubnetCall_ok {input : CreateSubnetInput} {w w' : World} {out : Ec2Subnet}
    (h : EC2Client.createSubnet input w = .ok out w') :
    out.subnetId = w.cloud.freshSubnetId ∧ out.vpcId = input.vpcId ∧ out.cidrBlock = input.cidrBlock ∧
      out.availabilityZone = input.availabilityZone ∧
      out.mapPublicIpOnLaunch = false ∧ out.assignIpv6AddressOnCreation = false ∧
      w'.cloud = { w.cloud with subnets := w.cloud.subnets ++ [out] } ∧ w'.subnets = w.subnets := by
  simp only [EC2Client.createSubnet, issue] at h
  split at h
  · cases h
  · cases h
    exact ⟨rfl, rfl, rfl, rfl, rfl, rfl, rfl, rfl⟩

theorem keeps_setSubnetAttribute (id : String) (attr : SubnetAttribute) (what : String) :
    (keeps (· ≠ id)).Holds (setSubnetAttribute id attr what) :=
  .adaptExcept _ (waitForWithRetryable_inv _ (keeps_modifySubnetAttribute id attr) _)

theorem createSubnet_rest_holds {G : Guarantee} (sn : SubnetSpec) (out : Ec2Subnet)
    (hwait : G.Holds (EC2Client.waitUntilSubnetAvailable out.subnetId))
    (hset : ∀ attr what, G.Holds (setSubnetAttribute out.subnetId attr what)) :
    G.Holds (do
      EStateM.adaptExcept (Fault.wrap ("failed to wait for subnet " ++ quote out.subnetId))
        (EC2Client.waitUntilSubnetAvailable out.subnetId)
      (if sn.isIPv6 then
        setSubnetAttribute out.subnetId .assignIpv6AddressOnCreation "assign ipv6 address on creation"
      else pure ())
      (if sn.isPublic then
        setSubnetAttribute out.subnetId .mapPublicIpOnLaunch "assign ipv4 address on creation"
      else pure ())
      pure (withIpv6Associations out.ipv6CidrBlockAssociationSet
        { id := out.subnetId, availabilityZone := out.availabilityZone, cidrBlock := out.cidrBlock,
          isPublic := sn.isPublic } : SubnetSpec)) :=
  (Guarantee.Inv.adaptExcept _ hwait).bind fun _ =>
    (Guarantee.Inv.ite (fun _ => hset _ _) fun _ => .pure ()).bind fun _ =>
      (Guarantee.Inv.ite (fun _ => hset _ _) fun _ => .pure ()).bind fun _ => .pure _

theorem keeps_createSubnet (s : Service) (sn : SubnetSpec) {p : String → Prop} :
    (keeps p).Holds (createSubnet s sn) := keeps_of fun w => by
  simp only [createSubnet]
  rw [after_bind]
  cases h : EStateM.adaptExcept _ (EC2Client.createSubnet _) w with
  | error e w₁ => exact ((Guarantee.Inv.adaptExcept _ (keeps_createSubnetCall _)).of_error trivial h).1
  | ok out w₁ =>
    obtain ⟨hid, -, -, -, -, -, hc, -⟩ := createSubnetCall_ok (adaptExcept_ok.mp h)
    have hrest := (createSubnet_rest_holds (G := keeps (· ≠ out.subnetId)) (markIPv6 s sn) out
      keeps_read (fun _ _ => keeps_setSubnetAttribute _ _ _) w₁ trivial).1
    intro sid hsid hp
    have hne : sid ≠ out.subnetId := fun he => w.cloud.freshSubnetId_fresh (hid ▸ he ▸ hsid)
    have h₁ : w.cloud.Keeps p w₁.cloud := hc ▸ Cloud.Keeps.append out
    exact (hrest sid (h₁.mem hsid hp) hne).trans (h₁ sid hsid hp)

/-- A pass keeps every subnet there before it, with its attributes. -/
theorem keeps_reconcileSubnets (s : Service) {p : String → Prop} :
    (keeps p).Holds (reconcileSubnets s) :=
  reconcileSubnets_inv keeps_reads s (R := fun _ => True) (fun _ _ _ _ _ => trivial)
    (fun _ => keeps_read) (fun _ _ _ _ _ => keeps_ensure _ _) fun _ sn => keeps_createSubnet s sn

end CapaSubnets
