import CapaSubnets.Defaults
import CapaSubnets.Frame

/-!
# What the stages of a pass return

One spec lemma per stage of `reconcileSubnets`, saying what the stage returns when it returns:
the subnets a describe observes, the list each of the three loops leaves and how it ended, the
subnet `createSubnet` makes and the attributes it sets, and the checks. The results about a
whole pass (`Pass`, `Unmanaged`) and about runs of passes (`Runs`) are assembled from them.
-/

namespace CapaSubnets

-- ---------------------------------------------------------------------------
-- Observed subnets
-- ---------------------------------------------------------------------------

theorem withIpv6Associations_eq (set : List Ipv6CidrBlockAssociation) (spec : SubnetSpec) :
    ∃ b i, withIpv6Associations set spec = { spec with ipv6CidrBlock := b, isIPv6 := i } := by
  induction set generalizing spec with
  | nil => exact ⟨spec.ipv6CidrBlock, spec.isIPv6, rfl⟩
  | cons a set ih =>
    obtain ⟨b, i, h⟩ := ih (if a.state == subnetCidrBlockStateCodeAssociated then
      { spec with ipv6CidrBlock := a.ipv6CidrBlock, isIPv6 := true } else spec)
    refine ⟨b, i, ?_⟩
    show withIpv6Associations set _ = _
    rw [h]
    split <;> rfl

section
variable {set : List Ipv6CidrBlockAssociation} {spec : SubnetSpec}

@[simp] theorem withIpv6Associations_id : (withIpv6Associations set spec).id = spec.id := by
  obtain ⟨b, i, h⟩ := withIpv6Associations_eq set spec
  rw [h]

@[simp] theorem withIpv6Associations_isPublic :
    (withIpv6Associations set spec).isPublic = spec.isPublic := by
  obtain ⟨b, i, h⟩ := withIpv6Associations_eq set spec
  rw [h]

@[simp] theorem withIpv6Associations_tags : (withIpv6Associations set spec).tags = spec.tags := by
  obtain ⟨b, i, h⟩ := withIpv6Associations_eq set spec
  rw [h]

@[simp] theorem withIpv6Associations_cidrBlock :
    (withIpv6Associations set spec).cidrBlock = spec.cidrBlock := by
  obtain ⟨b, i, h⟩ := withIpv6Associations_eq set spec
  rw [h]

end

theorem withIpv6Associations_ipv6CidrBlock (set : List Ipv6CidrBlockAssociation) (spec : SubnetSpec) :
    (withIpv6Associations set spec).ipv6CidrBlock = set.foldl (fun b a =>
      if a.state == subnetCidrBlockStateCodeAssociated then a.ipv6CidrBlock else b) spec.ipv6CidrBlock := by
  induction set generalizing spec with
  | nil => rfl
  | cons a set ih =>
    show (withIpv6Associations set _).ipv6CidrBlock = _
    rw [ih, List.foldl_cons]
    by_cases ha : a.state == subnetCidrBlockStateCodeAssociated <;> simp [ha]

@[simp] theorem subnetSpecOf_id (routeTables : List (String × RouteTable))
    (natGateways : List (String × NatGateway)) (sn : Ec2Subnet) :
    (subnetSpecOf routeTables natGateways sn).id = sn.subnetId := by
  simp only [subnetSpecOf]
  repeat' split
  all_goals simp

@[simp] theorem subnetSpecOf_tags (routeTables : List (String × RouteTable))
    (natGateways : List (String × NatGateway)) (sn : Ec2Subnet) :
    (subnetSpecOf routeTables natGateways sn).tags = sn.tags := by
  simp only [subnetSpecOf]
  repeat' split
  all_goals simp

@[simp] theorem subnetSpecOf_cidrBlock (routeTables : List (String × RouteTable))
    (natGateways : List (String × NatGateway)) (sn : Ec2Subnet) :
    (subnetSpecOf routeTables natGateways sn).cidrBlock = sn.cidrBlock := by
  simp only [subnetSpecOf]
  repeat' split
  all_goals simp

@[simp] theorem subnetSpecOf_ipv6CidrBlock (routeTables : List (String × RouteTable))
    (natGateways : List (String × NatGateway)) (sn : Ec2Subnet) :
    (subnetSpecOf routeTables natGateways sn).ipv6CidrBlock = sn.ipv6CidrBlockAssociationSet.foldl (fun b a =>
      if a.state == subnetCidrBlockStateCodeAssociated then a.ipv6CidrBlock else b) "" := by
  simp only [subnetSpecOf]
  repeat' split
  all_goals simp [withIpv6Associations_ipv6CidrBlock]

/-- The subnets a describe of the VPC's subnets observes on the cloud `c`. -/
def observedSubnets (s : Service) (c : Cloud) : Subnets :=
  (c.subnets.filter (describeSubnetsFilter s)).map (subnetSpecOf c.routeTables c.natGateways)

theorem observedSubnets_id_mem {s : Service} {c : Cloud} {x : SubnetSpec}
    (h : x ∈ observedSubnets s c) : x.id ∈ c.subnetIds := by
  obtain ⟨sn, hsn, rfl⟩ := List.mem_map.mp h
  rw [subnetSpecOf_id]
  exact List.mem_map_of_mem _ (List.mem_filter.mp hsn).1

theorem describeVpcSubnets_ok {s : Service} {existing : Subnets} {w w' : World}
    (h : describeVpcSubnets s w = .ok existing w') :
    existing = observedSubnets s w.cloud ∧ w'.cloud = w.cloud ∧ w'.subnets = w.subnets := by
  obtain ⟨sns, w₁, h₁, h'⟩ := bind_ok.mp h
  obtain ⟨routeTables, w₂, h₂, h''⟩ := bind_ok.mp h'
  obtain ⟨natGateways, w₃, h₃, h₄⟩ := bind_ok.mp h''
  obtain ⟨-, rfl, rfl⟩ := issue_ok (adaptExcept_ok.mp h₁)
  obtain ⟨-, rfl, rfl⟩ := issue_ok h₂
  obtain ⟨-, rfl, rfl⟩ := issue_ok h₃
  cases h₄
  exact ⟨rfl, rfl, rfl⟩

-- ---------------------------------------------------------------------------
-- The loops over the local subnets
-- ---------------------------------------------------------------------------

theorem findEqual_cidrBlock {existing : Subnets} {spec x : SubnetSpec} (hid : spec.id = "")
    (hv6 : spec.ipv6CidrBlock = "") (h : existing.findEqual spec = some x) : x.cidrBlock = spec.cidrBlock := by
  have hx := List.find?_some h
  simp only [hid, hv6, bne_self_eq_false, Bool.false_and, Bool.false_or, Bool.or_false, beq_iff_eq] at hx
  exact hx.symm

theorem appendSecondarySubnets_append (existing : Subnets) (zones : List String) (i : Nat)
    (subs : List String) (subnets : Subnets) :
    ∃ extra, (appendSecondarySubnets existing zones i subs subnets).1 = subnets ++ extra ∧
      (∀ e ∈ extra, e.id = "" ∧ existing.findEqual e = none ∧ e.isPublic = false ∧ e.cidrBlock ∈ subs) ∧
      ((∀ err, (appendSecondarySubnets existing zones i subs subnets).2 ≠ .failed err) →
        ∀ b ∈ subs, (∃ x ∈ existing, x.cidrBlock = b) ∨ ∃ e ∈ extra, e.cidrBlock = b) := by
  induction subs generalizing i subnets with
  | nil => exact ⟨[], by simp [appendSecondarySubnets]⟩
  | cons sub subs ih =>
    rw [appendSecondarySubnets]
    split
    · exact ⟨[], by simp, by simp, fun h => absurd rfl (h _)⟩
    · next zone _ =>
      dsimp only
      split
      · next hnone =>
        obtain ⟨extra, h, hextra, hblocks⟩ := ih (i + 1) (subnets ++ [_])
        refine ⟨_ :: extra, by rw [h, List.append_assoc]; rfl, ?_, fun hx b hb => ?_⟩
        · rintro e (_ | ⟨_, he⟩)
          · exact ⟨rfl, Option.isNone_iff_eq_none.mp hnone, rfl, List.mem_cons_self _ _⟩
          · obtain ⟨hid, hno, hpriv, hsub⟩ := hextra e he
            exact ⟨hid, hno, hpriv, List.mem_cons_of_mem _ hsub⟩
        · rcases List.mem_cons.mp hb with rfl | hb
          · exact .inr ⟨_, List.mem_cons_self _ _, rfl⟩
          · rcases hblocks hx b hb with hobs | ⟨e, he, heb⟩
            · exact .inl hobs
            · exact .inr ⟨e, List.mem_cons_of_mem _ he, heb⟩
      · next hsome =>
        obtain ⟨extra, h, hextra, hblocks⟩ := ih (i + 1) subnets
        refine ⟨extra, h, fun e he => ?_, fun hx b hb => ?_⟩
        · obtain ⟨hid, hno, hpriv, hsub⟩ := hextra e he
          exact ⟨hid, hno, hpriv, List.mem_cons_of_mem _ hsub⟩
        rcases List.mem_cons.mp hb with rfl | hb
        · -- the observed subnet equal to the secondary entry has its block
          obtain ⟨x, hx'⟩ := Option.ne_none_iff_exists'.mp (by simpa using hsome)
          exact .inl ⟨x, Subnets.findEqual_mem hx', findEqual_cidrBlock rfl rfl hx'⟩
        · exact hblocks hx b hb

/-- What the matching loop makes of an entry it gets past: the observed subnet equal to it, or
the entry itself when there is none. -/
def matchedEntry (existing : Subnets) (sub : SubnetSpec) : SubnetSpec := (existing.findEqual sub).getD sub

theorem matchSubnets_ok {s : Service} {u : Bool} {existing : Subnets} {subnets l : Subnets}
    {exit : Exit} {w w' : World} (h : matchSubnets s u existing subnets w = .ok (l, exit) w') :
    ∃ k ≤ subnets.length, l = (subnets.take k).map (matchedEntry existing) ++ subnets.drop k ∧
      (u = true → ∀ e ∈ subnets.take k, (existing.findEqual e).isSome) ∧
      (exit = .done → k = subnets.length) ∧
      (exit = .broke → u = true ∧ ∃ e rest, subnets.drop k = e :: rest ∧ (existing.findEqual e).isSome) := by
  induction subnets generalizing l exit w with
  | nil =>
    cases h
    exact ⟨0, le_rfl, rfl, by simp, fun _ => rfl, nofun⟩
  | cons sub rest ih =>
    rw [matchSubnets] at h
    cases hx : existing.findEqual sub with
    | some x =>
      simp only [hx] at h
      obtain ⟨r, w₁, -, h₁⟩ := bind_ok.mp h
      cases r with
      | error err =>
        -- the tagging failed: the loop stops at this entry
        refine ⟨0, Nat.zero_le _, ?_⟩
        cases u <;> simp only [Bool.not_false, Bool.not_true, if_true, Bool.false_eq_true, if_false,
          pure_apply, EStateM.Result.ok.injEq, Prod.mk.injEq] at h₁ <;> obtain ⟨⟨rfl, rfl⟩, rfl⟩ := h₁
        · exact ⟨rfl, by simp, nofun, nofun⟩
        · exact ⟨rfl, by simp, nofun, fun _ => ⟨rfl, sub, rest, rfl, by simp [hx]⟩⟩
      | ok =>
        obtain ⟨r', w₂, h₂, h₃⟩ := bind_ok.mp h₁
        cases h₃
        obtain ⟨k, hk, hl, hfound, hdone, hbroke⟩ := ih h₂
        refine ⟨k + 1, by simpa using hk, by simp [hl, matchedEntry, hx], ?_, ?_, by simpa using hbroke⟩
        · intro hu e he
          simp only [List.take_succ_cons, List.mem_cons] at he
          rcases he with rfl | he
          · simp [hx]
          · exact hfound hu e he
        · intro he
          simpa using hdone he
    | none =>
      simp only [hx] at h
      split at h
      · cases h
        exact ⟨0, Nat.zero_le _, rfl, by simp, nofun, nofun⟩
      · next hu =>
        obtain ⟨r', w₂, h₂, h₃⟩ := bind_ok.mp h
        cases h₃
        obtain ⟨k, hk, hl, -, hdone, hbroke⟩ := ih h₂
        refine ⟨k + 1, by simpa using hk, by simp [hl, matchedEntry, hx], fun h => absurd h hu, ?_, ?_⟩
        · intro he
          simpa using hdone he
        · intro he
          exact absurd (hbroke he).1 hu

-- ---------------------------------------------------------------------------
-- Creating a subnet
-- ---------------------------------------------------------------------------

theorem waitForWithRetryable_ok {retryable : List String} {condition : Ec2 Unit}
    (hfail : ∀ w e w', condition w = .error e w' → w'.cloud = w.cloud ∧ w'.subnets = w.subnets)
    {steps : Nat} {w w' : World} (h : waitForWithRetryable retryable condition steps w = .ok () w') :
    ∃ w₀ : World, w₀.cloud = w.cloud ∧ w₀.subnets = w.subnets ∧ condition w₀ = .ok () w' := by
  induction steps generalizing w with
  | zero => cases h
  | succ steps ih =>
    rw [waitForWithRetryable] at h
    obtain ⟨r, w₁, hr, hrest⟩ := bind_ok.mp h
    cases hc : condition w with
    | ok _ w₂ =>
      rw [attempt_of_ok hc] at hr
      cases hr
      cases hrest
      exact ⟨w, rfl, rfl, hc⟩
    | error e w₂ =>
      rw [attempt_of_error hc] at hr
      cases hr
      obtain ⟨hcloud, hsubnets⟩ := hfail w e _ hc
      simp only at hrest
      split at hrest
      · obtain ⟨w₀, h₀c, h₀s, h₀⟩ := ih hrest
        exact ⟨w₀, h₀c.trans hcloud, h₀s.trans hsubnets, h₀⟩
      · cases hrest

theorem setSubnetAttribute_ok {id : String} {attr : SubnetAttribute} {what : String} {w w' : World}
    (h : setSubnetAttribute id attr what w = .ok () w') :
    w'.cloud.attributes id = (w.cloud.attributes id).map attr.setAttributes ∧ w'.subnets = w.subnets := by
  have hfail : ∀ w e w', EC2Client.modifySubnetAttribute id attr w = .error e w' →
      w'.cloud = w.cloud ∧ w'.subnets = w.subnets := fun w e w' he => by
    obtain ⟨-, rfl⟩ := issue_error he
    exact ⟨rfl, rfl⟩
  obtain ⟨w₀, hc, hs, h₀⟩ := waitForWithRetryable_ok hfail (adaptExcept_ok.mp h)
  obtain ⟨-, -, rfl⟩ := issue_ok h₀
  exact ⟨by rw [Cloud.attributes_set, hc], hs⟩

theorem setSubnetAttributeIf_ok {c : Bool} {id : String} {attr : SubnetAttribute} {what : String}
    {w w' : World} (h : (if c = true then setSubnetAttribute id attr what else pure ()) w = .ok () w') :
    w'.cloud.attributes id = (if c then (w.cloud.attributes id).map attr.setAttributes
      else w.cloud.attributes id) ∧ w'.subnets = w.subnets := by
  cases c with
  | false =>
    cases h
    exact ⟨rfl, rfl⟩
  | true => exact setSubnetAttribute_ok h

theorem createSubnet_ok {s : Service} {sn nsn : SubnetSpec} {w w' : World}
    (h : createSubnet s sn w = .ok nsn w') :
    nsn.id = w.cloud.freshSubnetId ∧ nsn.isPublic = sn.isPublic ∧ nsn.tags = ∅ ∧
      w'.cloud.attributes nsn.id = some (sn.isPublic, (markIPv6 s sn).isIPv6) ∧
      w'.subnets = w.subnets := by
  obtain ⟨out, w₁, h₁, hr₁⟩ := bind_ok.mp h
  obtain ⟨_, w₂, h₂, hr₂⟩ := bind_ok.mp hr₁
  obtain ⟨_, w₃, h₃, hr₃⟩ := bind_ok.mp hr₂
  obtain ⟨_, w₄, h₄, h₅⟩ := bind_ok.mp hr₃
  cases h₅
  obtain ⟨hid, -, -, -, hm, ha, hc₁, hs₁⟩ := createSubnetCall_ok (adaptExcept_ok.mp h₁)
  obtain ⟨-, -, rfl⟩ := issue_ok (adaptExcept_ok.mp h₂)
  obtain ⟨ha₃, hs₃⟩ := setSubnetAttributeIf_ok h₃
  obtain ⟨ha₄, hs₄⟩ := setSubnetAttributeIf_ok h₄
  have ha₁ : w₁.cloud.attributes out.subnetId = some (false, false) := by
    rw [hc₁, Cloud.attributes_append_fresh _ _ (hid ▸ w.cloud.freshSubnetId_fresh)]
    simp [subnetAttributes, hm, ha]
  have hpub : (markIPv6 s sn).isPublic = sn.isPublic := by
    unfold markIPv6
    split <;> rfl
  refine ⟨by simpa using hid, by simpa using hpub, by simp, ?_, by simp [hs₄, hs₃, hs₁]⟩
  simp only [withIpv6Associations_id]
  rw [ha₄, ha₃]
  simp only at ha₁
  rw [ha₁, hpub]
  cases sn.isPublic <;> cases (markIPv6 s sn).isIPv6 <;> rfl

-- ---------------------------------------------------------------------------
-- The creation loop
-- ---------------------------------------------------------------------------

/-- How the creation loop leaves an entry, in the cloud `c` it ends with: as it was when it has an
ID, and otherwise the spec `createSubnet` returned, whose subnet has the entry's attributes. -/
inductive Created (s : Service) (c : Cloud) : SubnetSpec → SubnetSpec → Prop
  | kept {a : SubnetSpec} : a.id ≠ "" → Created s c a a
  | made {a b : SubnetSpec} : a.id = "" → b.isPublic = a.isPublic → b.tags = ∅ →
      c.attributes b.id = some (a.isPublic, (markIPv6 s a).isIPv6) → Created s c a b

theorem Created.isPublic {s : Service} {c : Cloud} {a b : SubnetSpec} (h : Created s c a b) :
    b.isPublic = a.isPublic := by
  cases h with
  | kept => rfl
  | made _ hp => exact hp

theorem Created.keeps {s : Service} {c c' : Cloud} {a b : SubnetSpec} (h : Created s c a b)
    (hk : c.Keeps (fun _ => True) c') : Created s c' a b := by
  cases h with
  | kept hid => exact .kept hid
  | made hid hp ht ha =>
    have hmem : b.id ∈ c.subnetIds := Cloud.attributes_isSome.mp (by simp [ha])
    exact .made hid hp ht ((hk _ hmem trivial).trans ha)

theorem createSubnets_ok {s : Service} {subnets l : Subnets} {w w' : World}
    (h : createSubnets s subnets w = .ok (l, .done) w') : List.Forall₂ (Created s w'.cloud) subnets l := by
  induction subnets generalizing l w with
  | nil =>
    cases h
    exact .nil
  | cons sub rest ih =>
    rw [createSubnets] at h
    split at h
    · next hid =>
      obtain ⟨⟨l', exit'⟩, w₁, h₁, h₂⟩ := bind_ok.mp h
      cases h₂
      exact .cons (.kept (by simpa using hid)) (ih h₁)
    · next hid =>
      obtain ⟨r, w₁, h₁, h₂⟩ := bind_ok.mp h
      cases hc : createSubnet s sub w with
      | error e w₂ =>
        rw [attempt_of_error hc] at h₁
        cases h₁
        cases h₂
      | ok nsn w₂ =>
        rw [attempt_of_ok hc] at h₁
        cases h₁
        obtain ⟨⟨l', exit'⟩, w₃, h₃, h₄⟩ := bind_ok.mp h₂
        cases h₄
        obtain ⟨-, hp, ht, ha, -⟩ := createSubnet_ok hc
        have hk : w₁.cloud.Keeps (fun _ => True) w'.cloud :=
          ((createSubnets_inv s (fun sn => keeps_createSubnet s sn) rest).of_ok trivial h₃).1
        exact .cons ((Created.made (by simpa using hid) hp ht ha).keeps hk) (ih h₃)

theorem createSubnets_not_broke {s : Service} {subnets l : Subnets} {exit : Exit} {w w' : World}
    (h : createSubnets s subnets w = .ok (l, exit) w') : exit ≠ .broke := by
  induction subnets generalizing l exit w with
  | nil =>
    cases h
    nofun
  | cons sub rest ih =>
    rw [createSubnets] at h
    split at h
    · obtain ⟨⟨l', exit'⟩, w₁, h₁, h₂⟩ := bind_ok.mp h
      cases h₂
      exact ih h₁
    · obtain ⟨r, w₁, -, h₂⟩ := bind_ok.mp h
      cases r with
      | error => cases h₂; nofun
      | ok =>
        obtain ⟨⟨l', exit'⟩, w₃, h₃, h₄⟩ := bind_ok.mp h₂
        cases h₄
        exact ih h₃

-- ---------------------------------------------------------------------------
-- The other stages
-- ---------------------------------------------------------------------------

theorem resume_ok {exit : Exit} {w w' : World} (h : exit.resume w = .ok () w') :
    (∀ e, exit ≠ .failed e) ∧ w' = w := by
  cases exit <;> cases h <;> exact ⟨nofun, rfl⟩

theorem runLoop_ok {loop : Subnets → Ec2 (Subnets × Exit)} {w w' : World}
    (h : runLoop loop w = .ok () w') :
    ∃ l exit w₁, loop w.subnets w = .ok (l, exit) w₁ ∧ (∀ e, exit ≠ .failed e) ∧
      w' = { w₁ with subnets := l } := by
  obtain ⟨l₀, w₀, h₀, h₁⟩ := bind_ok.mp h
  cases h₀
  obtain ⟨⟨l, exit⟩, w₁, h₂, h₃⟩ := bind_ok.mp h₁
  obtain ⟨_, w₂, h₄, h₅⟩ := bind_ok.mp h₃
  cases h₄
  obtain ⟨hexit, rfl⟩ := resume_ok h₅
  exact ⟨l, exit, w₁, h₂, hexit, rfl⟩

theorem checkSubnets_ok {u : Bool} {w w' : World} (h : checkSubnets u w = .ok () w') :
    w' = w ∧ (u = false → (∃ e ∈ w.subnets, e.isPublic = false) ∧ ∃ e ∈ w.subnets, e.isPublic = true) ∧
      (u = true → w.subnets ≠ []) := by
  obtain ⟨l, w₁, h₁, h₂⟩ := bind_ok.mp h
  cases h₁
  cases u with
  | false =>
    simp only [Bool.not_false, if_true] at h₂
    split at h₂
    · cases h₂
    · next hpriv =>
      split at h₂
      · cases h₂
      · next hpub =>
        cases h₂
        obtain ⟨e, he⟩ := List.exists_mem_of_length_pos (by omega : 0 < (Subnets.filterPrivate w.subnets).length)
        obtain ⟨e', he'⟩ := List.exists_mem_of_length_pos (by omega : 0 < (Subnets.filterPublic w.subnets).length)
        simp only [Subnets.filterPrivate, Subnets.filterPublic, List.mem_filter] at he he'
        exact ⟨rfl, fun _ => ⟨⟨e, he.1, by simpa using he.2⟩, ⟨e', he'.1, he'.2⟩⟩, nofun⟩
  | true =>
    simp only [Bool.not_true, Bool.false_eq_true, if_false] at h₂
    split at h₂
    · cases h₂
    · next hne =>
      cases h₂
      exact ⟨rfl, nofun, fun _ hnil => hne (by simp [hnil])⟩

def sameCloud : Guarantee where
  rel w w' := w'.cloud = w.cloud
  refl _ := rfl
  trans h h' := h'.trans h

theorem sameCloud_reads : sameCloud.Reads fun _ => True where
  describe _ _ _ w _ := ⟨by simp only [after, issue]; cases w.fault w.calls.length <;> rfl, trivial⟩
  getSubnets _ _ := ⟨rfl, trivial⟩
  setSubnets _ _ _ := ⟨rfl, trivial⟩

theorem setDefaultSubnets_ok {s : Service} {u : Bool} {subnets : Subnets} {w w' : World}
    (h : setDefaultSubnets s u subnets w = .ok () w') :
    w'.cloud = w.cloud ∧ ((subnets ≠ [] ∧ w' = w) ∨ (subnets = [] ∧ u = false ∧ ∀ e ∈ w'.subnets, e.id = "")) := by
  unfold setDefaultSubnets at h
  split at h
  · next hempty =>
    split at h
    · cases h
    · next hu =>
      obtain ⟨ds, w₁, h₁, h₂⟩ := bind_ok.mp h
      obtain ⟨_, w₂, h₃, h₄⟩ := bind_ok.mp h₂
      cases h₃
      obtain ⟨-, -, rfl⟩ := issue_ok h₄
      have hcloud := ((getDefaultSubnets_inv sameCloud_reads.toDescribes s).of_ok trivial (adaptExcept_ok.mp h₁)).1
      exact ⟨hcloud, .inr ⟨by simpa using hempty, by simpa using hu,
        getDefaultSubnets_ids (adaptExcept_ok.mp h₁)⟩⟩
  · next hne =>
    cases h
    exact ⟨rfl, .inl ⟨fun h => hne (by simp [h]), rfl⟩⟩

theorem observeStage_ok {s : Service} {existing : Subnets} {w w' : World} (h : observeStage s w = .ok existing w') :
    existing = observedSubnets s w.cloud ∧ w'.cloud = w.cloud ∧
      (w'.subnets = w.subnets ∨
        (w.subnets = [] ∧ s.scope.vpc.isUnmanaged s.scope.name = false ∧ ∀ e ∈ w'.subnets, e.id = "")) := by
  obtain ⟨_, _, h₀, h₁⟩ := bind_ok.mp h
  cases h₀
  obtain ⟨ex₁, w₁, hd₁, h₂⟩ := bind_ok.mp h₁
  obtain ⟨_, w₂, hdef, hd₂⟩ := bind_ok.mp h₂
  -- a describe stage reads the subnets observed on the cloud, and changes neither it nor the list
  have hdescribe : ∀ {c : Bool} {ex₀ ex' : Subnets} {v v' : World},
      (if c = true then describeVpcSubnets s else pure ex₀) v = .ok ex' v' →
      v'.cloud = v.cloud ∧ v'.subnets = v.subnets ∧ (c = true → ex' = observedSubnets s v.cloud) ∧
        (c = false → ex' = ex₀) := by
    intro c ex₀ ex' v v' hd
    cases c with
    | true =>
      obtain ⟨rfl, hc, hs⟩ := describeVpcSubnets_ok hd
      exact ⟨hc, hs, fun _ => rfl, nofun⟩
    | false =>
      cases hd
      exact ⟨rfl, rfl, nofun, fun _ => rfl⟩
  obtain ⟨hc₁, hs₁, ht₁, -⟩ := hdescribe hd₁
  obtain ⟨hc₂, hdef'⟩ := setDefaultSubnets_ok hdef
  obtain ⟨hc₃, hs₃, ht₃, hf₃⟩ := hdescribe hd₂
  refine ⟨?_, by rw [hc₃, hc₂, hc₁], ?_⟩
  · cases htag : s.scope.tagUnmanagedNetworkResources
    · rw [ht₃ (by simp [htag]), hc₂, hc₁]
    · rw [hf₃ (by simp [htag]), ht₁ htag]
  · rcases hdef' with ⟨-, rfl⟩ | ⟨hnil, hu, hids⟩
    · exact .inl (hs₃.trans hs₁)
    · exact .inr ⟨hnil, hu, hs₃ ▸ hids⟩

/-- An entry the secondary stage appends: private, with no ID, with a block of the secondary
block's split, and equal to no observed subnet. -/
structure SecondaryEntry (s : Service) (existing : Subnets) (e : SubnetSpec) : Prop where
  noId : e.id = ""
  unmatched : existing.findEqual e = none
  isPrivate : e.isPublic = false
  split : ∃ sec limit blocks, s.scope.secondaryCidrBlock = some sec ∧
    s.scope.vpc.availabilityZoneUsageLimit = some limit ∧ s.cidr.splitIntoSubnetsIPv4 sec limit = .ok blocks ∧
    e.cidrBlock ∈ blocks

theorem appendSecondary_ok {s : Service} {existing : Subnets} {w w' : World}
    (h : appendSecondary s existing w = .ok () w') :
    w'.cloud = w.cloud ∧ ∃ extra, w'.subnets = w.subnets ++ extra ∧ (∀ e ∈ extra, SecondaryEntry s existing e) ∧
      ∀ sec limit blocks, s.scope.secondaryCidrBlock = some sec →
        s.scope.vpc.availabilityZoneUsageLimit = some limit → s.cidr.splitIntoSubnetsIPv4 sec limit = .ok blocks →
        ∀ b ∈ blocks, (∃ x ∈ existing, x.cidrBlock = b) ∨ ∃ e ∈ extra, e.cidrBlock = b := by
  unfold appendSecondary at h
  cases hsec : s.scope.secondaryCidrBlock with
  | none =>
    simp only [hsec] at h
    cases h
    exact ⟨rfl, [], by simp, by simp, fun _ _ _ h => nomatch h⟩
  | some secondary =>
    simp only [hsec] at h
    obtain ⟨limit, w₁, h₁, h₂⟩ := bind_ok.mp h
    obtain ⟨blocks, w₂, h₃, h₄⟩ := bind_ok.mp h₂
    obtain ⟨zones, w₃, h₅, h₆⟩ := bind_ok.mp h₄
    obtain ⟨hlimit, rfl⟩ := deref_ok.mp h₁
    obtain ⟨hblocks, rfl⟩ := fromExcept_ok.mp h₃
    obtain ⟨-, hcloud, hsubnets⟩ := getAvailableZones_ok h₅
    obtain ⟨l, exit, w₄, h₇, hexit, rfl⟩ := runLoop_ok h₆
    simp only [pure_apply, EStateM.Result.ok.injEq, Prod.ext_iff] at h₇
    obtain ⟨⟨hl, hx⟩, rfl⟩ := h₇
    obtain ⟨extra, hextra', hextra, hcover⟩ :=
      appendSecondarySubnets_append existing zones 0 blocks w₃.subnets
    refine ⟨hcloud, extra, ?_, fun e he => ?_, fun sec limit' blocks' hsec' hlimit' hblocks' => ?_⟩
    · show l = _
      rw [← hsubnets, ← hextra', hl]
    · obtain ⟨hid, hno, hpriv, hb⟩ := hextra e he
      exact ⟨hid, hno, hpriv, secondary, limit, blocks, hsec, hlimit, hblocks, hb⟩
    · cases hsec'
      rw [hlimit] at hlimit'
      cases hlimit'
      rw [hblocks] at hblocks'
      cases hblocks'
      exact hcover (hx ▸ hexit)

end CapaSubnets
