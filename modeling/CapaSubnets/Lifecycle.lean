import CapaSubnets.Runs
import CapaSubnets.Unmanaged
/-!
# The subnets over the life of a cluster

`deleteSubnets` on a managed VPC removes the VPC's subnets and no others; however its calls
fail, it removes those of a prefix of the IDs it observed, and no other subnet. Passes of
`reconcileSubnets` never remove a subnet nor move one to another VPC or block. Once a pass on a
managed VPC that has an ID returns nil, the cloud has settled: from the world it leaves, no later
pass issues a `CreateSubnet` or changes anything of the cloud but the tags of its subnets,
however the later passes end. The world it leaves is `Settled`: every stored entry has an ID,
and every block of the secondary split is in the VPC. A pass keeps a settled world settled,
since the matching loop puts only observed subnets in the list and nothing is appended to it,
and from a settled world the creation loop skips every entry; this is proved once for every
guarantee that the describe calls and the tag writes keep. On an unmanaged VPC passes change
only tags from the start.

Tags do not settle the same way; `Runs` has a run where they never do.
-/

namespace CapaSubnets

-- ---------------------------------------------------------------------------
-- Deleting the subnets
-- ---------------------------------------------------------------------------

theorem forM_deleteSubnet_ok {sns : List Ec2Subnet} {w w' : World}
    (h : sns.forM (fun sn => deleteSubnet sn.subnetId) w = .ok () w') :
    w'.cloud.subnets = w.cloud.subnets.filter fun sn => sn.subnetId ∉ sns.map (·.subnetId) := by
  induction sns generalizing w with
  | nil =>
    cases h
    simp
  | cons sn sns ih =>
    obtain ⟨_, w₁, h₁, h₂⟩ := bind_ok.mp (by simpa only [List.forM_cons] using h)
    obtain ⟨-, -, rfl⟩ := issue_ok (adaptExcept_ok.mp h₁)
    rw [ih h₂, List.filter_filter]
    congr 1
    funext x
    simp [Bool.and_comm]
    rfl

/-- On a managed VPC, a `deleteSubnets` that returns removes exactly the subnets it observed in the
VPC and keeps the others in order. -/
theorem deleteSubnets_ok (s : Service) (hm : s.scope.vpc.isUnmanaged s.scope.name = false)
    {w w' : World} (h : deleteSubnets s w = .ok () w') :
    w'.cloud.subnets = w.cloud.subnets.filter (fun sn => sn.subnetId ∉ observedIds s w.cloud) ∧
      ∀ sn ∈ w'.cloud.subnets, describeSubnetsFilter s sn = false := by
  simp only [deleteSubnets, hm, Bool.false_eq_true, if_false] at h
  obtain ⟨_, w₀, h₀, h'⟩ := bind_ok.mp h
  cases h₀
  obtain ⟨sns, w₁, h₁, h₂⟩ := bind_ok.mp h'
  obtain ⟨-, rfl, rfl⟩ := issue_ok (adaptExcept_ok.mp h₁)
  have hsub := forM_deleteSubnet_ok h₂
  refine ⟨hsub, fun sn hsn => ?_⟩
  rw [hsub] at hsn
  obtain ⟨hmem, hnot⟩ := List.mem_filter.mp hsn
  cases hf : describeSubnetsFilter s sn
  · rfl
  · exact absurd (List.mem_map_of_mem _ (List.mem_filter.mpr ⟨hmem, hf⟩)) (by simpa using hnot)

/-- Two subnets of the VPC `vpc-1` and one of another VPC. -/
def twoVpcWorld : World where
  cloud := { subnets := [{ subnetId := "s-1", vpcId := "vpc-1" }, { subnetId := "s-2", vpcId := "vpc-2" },
                         { subnetId := "s-3", vpcId := "vpc-1" }] }
  subnets := []

theorem deleteSubnets_ok_twoVpcWorld :
    ∃ w', deleteSubnets ownedVpcService twoVpcWorld = .ok () w' ∧
      w'.cloud.subnets = twoVpcWorld.cloud.subnets.filter
        (fun sn => sn.subnetId ∉ observedIds ownedVpcService twoVpcWorld.cloud) ∧
      ∀ sn ∈ w'.cloud.subnets, describeSubnetsFilter ownedVpcService sn = false :=
  ⟨_, rfl, deleteSubnets_ok ownedVpcService (by decide) rfl⟩

/-- How many of `n` calls issued from call number `start` on get through before the first one
the API refuses. -/
def callsBeforeRefusal (fault : Nat → Option AwsError) (start : Nat) : Nat → Nat
  | 0 => 0
  | n + 1 => if (fault start).isSome then 0 else callsBeforeRefusal fault (start + 1) n + 1

theorem forM_deleteSubnet_after (sns : List Ec2Subnet) (w : World) :
    (after (sns.forM fun sn => deleteSubnet sn.subnetId) w).cloud.subnets =
      w.cloud.subnets.filter fun sn =>
        sn.subnetId ∉ (sns.take (callsBeforeRefusal w.fault w.calls.length sns.length)).map (·.subnetId) := by
  induction sns generalizing w with
  | nil => simp
  | cons sn sns ih =>
    have hcons : (sn :: sns).forM (fun sn => deleteSubnet sn.subnetId) =
        deleteSubnet sn.subnetId >>= fun _ => sns.forM fun sn => deleteSubnet sn.subnetId := rfl
    rw [hcons, after_bind, List.length_cons, callsBeforeRefusal]
    cases h : deleteSubnet sn.subnetId w with
    | error _ w₁ =>
      obtain ⟨_, h₀⟩ := adaptExcept_error h
      obtain ⟨⟨_, hfault, -⟩, rfl⟩ := issue_error h₀
      simp [hfault]
    | ok _ w₁ =>
      obtain ⟨hfault, -, rfl⟩ := issue_ok (adaptExcept_ok.mp h)
      rw [ih, hfault]
      simp [List.filter_filter, Bool.and_comm]
      rfl

/-- A `deleteSubnets`, however its calls fail, removes the subnets of the first `k` IDs it observed
and keeps the others in order, `k` counting the `DeleteSubnet` calls before the first refused. -/
theorem deleteSubnets_after (s : Service) (w : World) :
    (after (deleteSubnets s) w).cloud.subnets = w.cloud.subnets.filter fun sn => sn.subnetId ∉
      (observedIds s w.cloud).take
        (if s.scope.vpc.isUnmanaged s.scope.name = true ∨ (w.fault w.calls.length).isSome = true then 0
          else callsBeforeRefusal w.fault (w.calls.length + 1) (observedIds s w.cloud).length) := by
  cases hu : s.scope.vpc.isUnmanaged s.scope.name
  · simp only [deleteSubnets, hu, Bool.false_eq_true, if_false, false_or]
    rw [pure_bind, after_bind]
    cases h : describeSubnets s w with
    | error _ w₁ =>
      obtain ⟨_, h₀⟩ := adaptExcept_error h
      obtain ⟨⟨_, hfault, -⟩, rfl⟩ := issue_error h₀
      simp [hfault]
    | ok sns w₁ =>
      obtain ⟨hfault, rfl, rfl⟩ := issue_ok (adaptExcept_ok.mp h)
      rw [forM_deleteSubnet_after, hfault]
      simp [observedIds, List.map_take]
  · simp [deleteSubnets, hu]

-- ---------------------------------------------------------------------------
-- Subnets keep their VPC and block
-- ---------------------------------------------------------------------------

def Cloud.Named (c : Cloud) : Prop := ∀ id ∈ c.subnetIds, id ≠ ""

def Cloud.HasBlock (c : Cloud) (vpc b : String) : Prop :=
  ∃ sn ∈ c.subnets, sn.vpcId = vpc ∧ sn.cidrBlock = b

/-- Every block of every VPC of `c` is in `c'`, and if the subnets of `c` all have IDs, so do
those of `c'`. -/
def Cloud.Placed (c c' : Cloud) : Prop :=
  (∀ vpc b, c.HasBlock vpc b → c'.HasBlock vpc b) ∧ (c.Named → c'.Named)

def Ec2Subnet.untagged (sn : Ec2Subnet) : Ec2Subnet := { sn with tags := ∅ }

@[simp] theorem Ec2Subnet.untagged_subnetId (sn : Ec2Subnet) : sn.untagged.subnetId = sn.subnetId := rfl

@[simp] theorem Ec2Subnet.untagged_vpcId (sn : Ec2Subnet) : sn.untagged.vpcId = sn.vpcId := rfl

@[simp] theorem Ec2Subnet.untagged_cidrBlock (sn : Ec2Subnet) : sn.untagged.cidrBlock = sn.cidrBlock := rfl

/-- The cloud without the tags of its subnets: what a tag write leaves as it is. -/
def Cloud.untagged (c : Cloud) : Cloud := { c with subnets := c.subnets.map Ec2Subnet.untagged }

theorem Cloud.untagged_map (c : Cloud) {f : Ec2Subnet → Ec2Subnet} (hf : ∀ sn, (f sn).untagged = sn.untagged) :
    { c with subnets := c.subnets.map f }.untagged = c.untagged := by
  unfold Cloud.untagged
  congr 1
  rw [List.map_map]
  exact List.map_congr_left fun sn _ => hf sn

theorem Cloud.Placed.of_untagged {c c' : Cloud} (h : c'.untagged = c.untagged) : c.Placed c' := by
  have hsub : c'.subnets.map Ec2Subnet.untagged = c.subnets.map Ec2Subnet.untagged := congrArg Cloud.subnets h
  have hids : c'.subnetIds = c.subnetIds := by
    simpa [Cloud.subnetIds, Function.comp_def] using congrArg (List.map Ec2Subnet.subnetId) hsub
  refine ⟨fun vpc b ⟨sn, hsn, hv, hb⟩ => ?_, fun hn id hid => hn id (hids ▸ hid)⟩
  obtain ⟨sn', hsn', heq⟩ := List.mem_map.mp (hsub ▸ List.mem_map_of_mem Ec2Subnet.untagged hsn)
  exact ⟨sn', hsn', by simpa [hv] using congrArg Ec2Subnet.vpcId heq,
    by simpa [hb] using congrArg Ec2Subnet.cidrBlock heq⟩

namespace Cloud.Placed

variable {c c' c'' : Cloud}

theorem refl (c : Cloud) : c.Placed c := ⟨fun _ _ h => h, id⟩

theorem trans (h : c.Placed c') (h' : c'.Placed c'') : c.Placed c'' :=
  ⟨fun vpc b hb => h'.1 vpc b (h.1 vpc b hb), h'.2 ∘ h.2⟩

theorem map (f : Ec2Subnet → Ec2Subnet) (hid : ∀ sn, (f sn).subnetId = sn.subnetId)
    (hvpc : ∀ sn, (f sn).vpcId = sn.vpcId) (hb : ∀ sn, (f sn).cidrBlock = sn.cidrBlock) :
    c.Placed { c with subnets := c.subnets.map f } := by
  refine ⟨fun vpc b ⟨sn, hsn, hv, hbl⟩ => ⟨f sn, List.mem_map_of_mem _ hsn, (hvpc sn).trans hv,
    (hb sn).trans hbl⟩, fun hn id hmem => hn id ?_⟩
  simpa [Cloud.subnetIds, Function.comp_def, hid] using hmem

theorem append (sn : Ec2Subnet) (hsn : sn.subnetId ≠ "") :
    c.Placed { c with subnets := c.subnets ++ [sn] } := by
  refine ⟨fun vpc b ⟨x, hx, hv, hb⟩ => ⟨x, List.mem_append_left _ hx, hv, hb⟩, fun hn id hmem => ?_⟩
  simp only [Cloud.subnetIds, List.map_append, List.map_cons, List.map_nil, List.mem_append,
    List.mem_singleton] at hmem
  rcases hmem with hmem | rfl
  · exact hn id hmem
  · exact hsn

end Cloud.Placed

def placed : Guarantee where
  rel w w' := w.cloud.Placed w'.cloud
  refl w := Cloud.Placed.refl w.cloud
  trans h h' := h.trans h'

theorem placed_issue {α : Type} {call : Call} {effect : Cloud → α × Cloud}
    (h : ∀ c : Cloud, c.Placed (effect c).2) : placed.Holds (issue call effect) := fun w _ => by
  refine ⟨?_, trivial⟩
  simp only [after, issue]
  cases w.fault w.calls.length with
  | some _ => exact Cloud.Placed.refl _
  | none => exact h w.cloud

theorem placed_read {α : Type} {call : Call} {read : Cloud → α} :
    placed.Holds (issue call fun c => (read c, c)) :=
  placed_issue Cloud.Placed.refl

theorem placed_reads : placed.Reads fun _ => True where
  describe _ _ _ := placed_read
  getSubnets _ _ := ⟨Cloud.Placed.refl _, trivial⟩
  setSubnets _ _ _ := ⟨Cloud.Placed.refl _, trivial⟩

theorem Cloud.Placed.createTags (c : Cloud) (r : String) (t : Tags) :
    c.Placed { c with subnets := c.subnets.map fun sn =>
      if sn.subnetId = r then { sn with tags := t ∪ sn.tags } else sn } :=
  Cloud.Placed.of_untagged (c.untagged_map fun sn => by split <;> rfl)

theorem placed_createTags (r : String) (t : Tags) : placed.Holds (EC2Client.createTags r t) :=
  placed_issue fun c => Cloud.Placed.createTags c r t

theorem placed_ensure (params : BuildParams) (current : Tags) : placed.Holds (ensure params current) :=
  Guarantee.Inv.ite (fun _ => placed_createTags _ _) fun _ => .pure ()

theorem placed_setSubnetAttribute (id : String) (attr : SubnetAttribute) (what : String) :
    placed.Holds (setSubnetAttribute id attr what) := by
  have hkeep : ∀ sn : Ec2Subnet, (if sn.subnetId = id then attr.set sn else sn).subnetId = sn.subnetId ∧
      (if sn.subnetId = id then attr.set sn else sn).vpcId = sn.vpcId ∧
      (if sn.subnetId = id then attr.set sn else sn).cidrBlock = sn.cidrBlock := by
    intro sn
    split
    · cases attr <;> exact ⟨rfl, rfl, rfl⟩
    · exact ⟨rfl, rfl, rfl⟩
  exact .adaptExcept _ (waitForWithRetryable_inv _ (placed_issue fun _ =>
    Cloud.Placed.map _ (fun sn => (hkeep sn).1) (fun sn => (hkeep sn).2.1) fun sn => (hkeep sn).2.2) _)

theorem Cloud.freshSubnetId_ne (c : Cloud) : c.freshSubnetId ≠ "" := fun h => by
  have h7 : "subnet-".length = 7 := rfl
  have := congrArg String.length h
  simp [Cloud.freshSubnetId, h7] at this

theorem placed_createSubnet (s : Service) (sn : SubnetSpec) : placed.Holds (createSubnet s sn) :=
  (Guarantee.Inv.adaptExcept _ (placed_issue fun c => Cloud.Placed.append _ c.freshSubnetId_ne)).bind
    fun out => createSubnet_rest_holds _ out placed_read fun _ _ => placed_setSubnetAttribute _ _ _

theorem placed_reconcileSubnets (s : Service) : placed.Holds (reconcileSubnets s) :=
  reconcileSubnets_inv placed_reads s (R := fun _ => True) (fun _ _ _ _ _ => trivial)
    (fun _ => placed_read) (fun _ _ _ _ _ => placed_ensure _ _) fun _ sn => placed_createSubnet s sn

-- ---------------------------------------------------------------------------
-- A successful pass leaves a settled world
-- ---------------------------------------------------------------------------

theorem createSubnet_hasBlock {s : Service} {sn nsn : SubnetSpec} {w w' : World}
    (h : createSubnet s sn w = .ok nsn w') : w'.cloud.HasBlock s.scope.vpc.id sn.cidrBlock := by
  obtain ⟨out, w₁, h₁, h₂⟩ := bind_ok.mp h
  obtain ⟨-, hvpc, hcidr, -, -, -, hc, -⟩ := createSubnetCall_ok (adaptExcept_ok.mp h₁)
  have hrest := ((createSubnet_rest_holds (G := placed) (markIPv6 s sn) out placed_read
    fun _ _ => placed_setSubnetAttribute _ _ _).of_ok trivial h₂).1
  exact hrest.1 _ _ ⟨out, by rw [hc]; exact List.mem_append_right _ (List.mem_singleton_self _), hvpc, hcidr⟩

theorem createSubnets_hasBlock {s : Service} {subnets l : Subnets} {w w' : World}
    (h : createSubnets s subnets w = .ok (l, .done) w') :
    ∀ a ∈ subnets, a.id = "" → w'.cloud.HasBlock s.scope.vpc.id a.cidrBlock := by
  induction subnets generalizing l w with
  | nil => nofun
  | cons sub rest ih =>
    rw [createSubnets] at h
    split at h
    · next hid =>
      obtain ⟨⟨l', exit'⟩, w₁, h₁, h₂⟩ := bind_ok.mp h
      cases h₂
      rintro a (_ | ⟨_, ha⟩) hnil
      · exact absurd hnil (by simpa using hid)
      · exact ih h₁ a ha hnil
    · obtain ⟨r, w₁, h₁, h₂⟩ := bind_ok.mp h
      cases hc : createSubnet s sub w with
      | error e w₂ =>
        rw [attempt_of_error hc] at h₁
        cases h₁
        cases h₂
      | ok nsn w₂ =>
        rw [attempt_of_ok hc] at h₁
        cases h₁
        obtain ⟨⟨l', exit'⟩, w₃, h₃, h₄⟩ := bind_ok.mp h₂
        cases h₄
        rintro a (_ | ⟨_, ha⟩) hnil
        · exact ((createSubnets_inv s (fun sn => placed_createSubnet s sn) rest).of_ok trivial h₃).1.1 _ _
            (createSubnet_hasBlock hc)
        · exact ih h₃ a ha hnil

/-- A world from which no pass creates a subnet: a non-empty list of entries with IDs, subnets with
IDs, and the blocks of the secondary split in the VPC. -/
structure Settled (s : Service) (w : World) : Prop where
  nonempty : w.subnets ≠ []
  ids : ∀ e ∈ w.subnets, e.id ≠ ""
  named : w.cloud.Named
  secondary : ∀ sec limit blocks, s.scope.secondaryCidrBlock = some sec →
    s.scope.vpc.availabilityZoneUsageLimit = some limit → s.cidr.splitIntoSubnetsIPv4 sec limit = .ok blocks →
    ∀ b ∈ blocks, w.cloud.HasBlock s.scope.vpc.id b

theorem observedSubnets_hasBlock {s : Service} (hvpc : s.scope.vpc.id ≠ "") {c : Cloud} {b : String} :
    (∃ x ∈ observedSubnets s c, x.cidrBlock = b) ↔ c.HasBlock s.scope.vpc.id b := by
  have hfilter : ∀ sn, describeSubnetsFilter s sn = true ↔ sn.vpcId = s.scope.vpc.id := by
    simp [describeSubnetsFilter, hvpc]
  constructor
  · rintro ⟨x, hx, rfl⟩
    obtain ⟨sn, hsn, rfl⟩ := List.mem_map.mp hx
    obtain ⟨hmem, hf⟩ := List.mem_filter.mp hsn
    exact ⟨sn, hmem, (hfilter sn).mp hf, (subnetSpecOf_cidrBlock _ _ sn).symm⟩
  · rintro ⟨sn, hsn, hv, rfl⟩
    exact ⟨_, List.mem_map_of_mem _ (List.mem_filter.mpr ⟨hsn, (hfilter sn).mpr hv⟩), subnetSpecOf_cidrBlock _ _ sn⟩

theorem reconcileSubnets_ok_settled {s : Service} (hm : s.scope.vpc.isUnmanaged s.scope.name = false)
    (hvpc : s.scope.vpc.id ≠ "") {w w' : World} (hnamed : w.cloud.Named)
    (h : reconcileSubnets s w = .ok () w') : Settled s w' := by
  have hplaced : w.cloud.Placed w'.cloud := by
    simpa [after_of_ok h] using (placed_reconcileSubnets s w trivial).1
  obtain ⟨hpers, -, e, he, -⟩ := reconcileSubnets_ok_managed hm h
  obtain ⟨l₁, extra, w₃, w₄, -, hextra, hblocks, -, hcreate, hcloud⟩ := reconcileSubnets_ok_loops hm h
  refine ⟨List.ne_nil_of_mem he, fun e he => ?_, hplaced.2 hnamed,
    fun sec limit blocks hsec hlimit hsplit b hb => ?_⟩
  · cases hpers e he with
    | observed ho => exact hnamed _ (observedSubnets_id_mem ho)
    | created hid _ => exact hplaced.2 hnamed _ hid
    | stale _ hid _ => exact hid
  · rcases hblocks sec limit blocks hsec hlimit hsplit b hb with hobs | ⟨x, hx, rfl⟩
    · exact hplaced.1 _ _ ((observedSubnets_hasBlock hvpc).mp hobs)
    · -- an appended secondary entry matched no observed subnet, so the creation loop made it
      have hmem : x ∈ (l₁ ++ extra).map (matchedEntry (observedSubnets s w.cloud)) := by
        refine List.mem_map.mpr ⟨x, List.mem_append_right _ hx, ?_⟩
        rw [matchedEntry, (hextra x hx).unmatched]
        rfl
      rw [hcloud]
      exact createSubnets_hasBlock hcreate x hmem (hextra x hx).noId

-- ---------------------------------------------------------------------------
-- A pass from a settled world
-- ---------------------------------------------------------------------------

/-- What a describe of a settled VPC returns: subnets with IDs, among them one with each block
of the secondary split. -/
def Observed (s : Service) (existing : Subnets) : Prop :=
  (∀ x ∈ existing, x.id ≠ "") ∧ ∀ sec limit blocks, s.scope.secondaryCidrBlock = some sec →
    s.scope.vpc.availabilityZoneUsageLimit = some limit → s.cidr.splitIntoSubnetsIPv4 sec limit = .ok blocks →
    ∀ b ∈ blocks, ∃ x ∈ existing, x.cidrBlock = b

theorem appendSecondarySubnets_found {existing : Subnets} {zones subs : List String}
    (h : ∀ b ∈ subs, ∃ x ∈ existing, x.cidrBlock = b) (i : Nat) (subnets : Subnets) :
    (appendSecondarySubnets existing zones i subs subnets).1 = subnets := by
  induction subs generalizing i with
  | nil => rfl
  | cons sub subs ih =>
    rw [appendSecondarySubnets]
    split
    · rfl
    · obtain ⟨x, hx, hcidr⟩ := h sub (List.mem_cons_self _ _)
      dsimp only
      rw [if_neg]
      · exact ih (fun b hb => h b (List.mem_cons_of_mem _ hb)) _
      · simp only [Subnets.findEqual, Option.isNone_iff_eq_none, List.find?_eq_none]
        exact fun hall => hall x hx (by simp [hcidr])

theorem createSubnets_of_ids (s : Service) {subnets : Subnets} (hids : ∀ e ∈ subnets, e.id ≠ "")
    (w : World) : createSubnets s subnets w = .ok (subnets, .done) w := by
  induction subnets with
  | nil => rfl
  | cons sub rest ih =>
    have hsub : (sub.id != "") = true := by simpa using hids sub (List.mem_cons_self _ _)
    rw [createSubnets, if_pos hsub, bind_of_ok (ih fun e he => hids e (List.mem_cons_of_mem _ he))]
    rfl

section
variable {s : Service}

theorem Settled.placed {w : World} (h : Settled s w) {c : Cloud} (hc : w.cloud.Placed c) (l : List Call) :
    Settled s { w with cloud := c, calls := l } :=
  ⟨h.nonempty, h.ids, hc.2 h.named, fun sec limit blocks h₁ h₂ h₃ b hb =>
    hc.1 _ _ (h.secondary sec limit blocks h₁ h₂ h₃ b hb)⟩

theorem observed_of_settled (hvpc : s.scope.vpc.id ≠ "") {w w' : World} {existing : Subnets}
    (hw : Settled s w) (h : observeStage s w = .ok existing w') : Observed s existing := by
  rw [(observeStage_ok h).1]
  exact ⟨fun x hx => hw.named _ (observedSubnets_id_mem hx), fun sec limit blocks h₁ h₂ h₃ b hb =>
    (observedSubnets_hasBlock hvpc).mpr (hw.secondary sec limit blocks h₁ h₂ h₃ b hb)⟩

end

section
variable {s : Service} {G : Guarantee} (hD : G.Describes (Settled s))
  (hset : ∀ (w : World) l, G.rel w { w with subnets := l })
include hD hset

theorem runLoop_settled {loop : Subnets → Ec2 (Subnets × Exit)}
    (hloop : ∀ l, l ≠ [] → (∀ e ∈ l, e.id ≠ "") → G.Inv (Settled s) (loop l))
    (hout : ∀ l w r w', l ≠ [] → (∀ e ∈ l, e.id ≠ "") → loop l w = .ok r w' →
      r.1 ≠ [] ∧ ∀ e ∈ r.1, e.id ≠ "") :
    G.Inv (Settled s) (runLoop loop) :=
  runLoop_inv_of hD (Q := fun l => l ≠ [] ∧ ∀ e ∈ l, e.id ≠ "") (R := fun l => l ≠ [] ∧ ∀ e ∈ l, e.id ≠ "")
    (fun _ hw => ⟨hw.nonempty, hw.ids⟩) (fun l hl => hloop l hl.1 hl.2)
    (fun l w r w' hl _ h => hout l w r w' hl.1 hl.2 h)
    fun w l hw hl => ⟨hset w l, hl.1, hl.2, hw.named, hw.secondary⟩

theorem appendSecondary_settled {existing : Subnets} (hex : Observed s existing) :
    G.Inv (Settled s) (appendSecondary s existing) :=
  appendSecondary_inv_of hD s (Q := fun l => l ≠ [] ∧ ∀ e ∈ l, e.id ≠ "")
    (R := fun l => l ≠ [] ∧ ∀ e ∈ l, e.id ≠ "") (fun _ hw => ⟨hw.nonempty, hw.ids⟩)
    (fun secondary limit blocks _ l hsec hlimit hblocks hl => by
      rwa [appendSecondarySubnets_found (hex.2 secondary limit blocks hsec hlimit hblocks)])
    fun w l hw hl => ⟨hset w l, hl.1, hl.2, hw.named, hw.secondary⟩

theorem matchSubnets_settled (hensure : ∀ params current, G.Inv (Settled s) (ensure params current))
    {u : Bool} {existing : Subnets} (hex : Observed s existing) :
    G.Inv (Settled s) (runLoop (matchSubnets s u existing)) := by
  refine runLoop_settled hD hset (fun l _ _ => matchSubnets_inv s (fun _ _ _ => hensure _ _) l)
    fun l w r w' hne hids h => ?_
  obtain ⟨k, hk, hl, -⟩ := matchSubnets_ok h
  refine ⟨?_, fun e he => ?_⟩
  · intro hnil
    have hlen := congrArg List.length hl
    simp only [hnil, List.length_nil, List.length_append, List.length_map, List.length_take,
      List.length_drop] at hlen
    exact hne (List.eq_nil_of_length_eq_zero (by omega))
  · rw [hl] at he
    rcases List.mem_append.mp he with he | he
    · obtain ⟨x, hx, rfl⟩ := List.mem_map.mp he
      cases hfx : existing.findEqual x with
      | some y => simpa [matchedEntry, hfx] using hex.1 y (Subnets.findEqual_mem hfx)
      | none => simpa [matchedEntry, hfx] using hids x (List.mem_of_mem_take hx)
    · exact hids e (List.mem_of_mem_drop he)

theorem createSubnets_settled : G.Inv (Settled s) (runLoop (createSubnets s)) :=
  runLoop_settled hD hset (fun l _ hids w hw => by
      simpa [after_of_ok (createSubnets_of_ids s hids w)] using (⟨G.refl w, hw⟩ : G.rel w w ∧ Settled s w))
    fun l w r w' hne hids h => by
      rw [createSubnets_of_ids s hids w] at h
      cases h
      exact ⟨hne, hids⟩

theorem reconcileSubnets_settled (hvpc : s.scope.vpc.id ≠ "")
    (hensure : ∀ params current, G.Inv (Settled s) (ensure params current)) :
    G.Inv (Settled s) (reconcileSubnets s) :=
  reconcileSubnets_inv_of_stages hD s (Q := fun l => l ≠ []) (fun _ hw => hw.nonempty)
    (fun _ _ _ hw h => observed_of_settled hvpc hw h)
    (fun _ hl => .ite (fun h => absurd (List.isEmpty_iff.mp h) hl) fun _ => .pure ())
    (fun _ hex => appendSecondary_settled hD hset hex) (fun _ hex => matchSubnets_settled hD hset hensure hex)
    fun _ => createSubnets_settled hD hset

end

-- ---------------------------------------------------------------------------
-- No later pass creates a subnet
-- ---------------------------------------------------------------------------

def Call.isCreateSubnet : Call → Bool
  | .createSubnet _ => true
  | _ => false

def noCreation : Guarantee := .callsOnly fun c => c.isCreateSubnet = false

section
variable {s : Service}

theorem noCreation_describes : noCreation.Describes (Settled s) where
  describe call _ h := Guarantee.callsOnly_issue (by cases call <;> simp_all [Call.isDescribe, Call.isCreateSubnet])
    (fun _ hw => hw.placed (Cloud.Placed.refl _) _) fun _ hw => hw.placed (Cloud.Placed.refl _) _
  getSubnets _ hw := ⟨noCreation.refl _, hw⟩

theorem noCreation_ensure (params : BuildParams) (current : Tags) :
    noCreation.Inv (Settled s) (ensure params current) :=
  Guarantee.Inv.ite (fun _ => Guarantee.callsOnly_issue rfl (fun _ hw => hw.placed (Cloud.Placed.createTags _ _ _) _)
    fun _ hw => hw.placed (Cloud.Placed.refl _) _) fun _ => .pure ()

end

/-- On a managed VPC with an ID whose subnets all have IDs, once a pass returns nil no later pass
creates a subnet, however the later passes end. -/
theorem reconcileSubnets_ok_creation_settles (s : Service)
    (hm : s.scope.vpc.isUnmanaged s.scope.name = false) (hvpc : s.scope.vpc.id ≠ "") {w w' : World}
    (hnamed : w.cloud.Named) (h : reconcileSubnets s w = .ok () w') (n : Nat) :
    ∃ new, (runPasses s n w').calls = new ++ w'.calls ∧ ∀ c ∈ new, c.isCreateSubnet = false :=
  (runPasses_inv (reconcileSubnets_settled noCreation_describes (fun _ _ => noCreation.refl _) hvpc
    noCreation_ensure)
    (reconcileSubnets_ok_settled hm hvpc hnamed h) n).1

theorem reconcileSubnets_ok_creation_settles_nameTagWorld :
    ∃ new, (runPasses ownedVpcService 2 (after (reconcileSubnets ownedVpcService) nameTagWorld)).calls =
        new ++ (after (reconcileSubnets ownedVpcService) nameTagWorld).calls ∧
      ∀ c ∈ new, c.isCreateSubnet = false :=
  @reconcileSubnets_ok_creation_settles ownedVpcService (by decide) (by decide) nameTagWorld _
    (fun _ h => nomatch h) nameTagWorld_pass 2

-- ---------------------------------------------------------------------------
-- Later passes change only tags
-- ---------------------------------------------------------------------------

def tagsOnly : Guarantee where
  rel w w' := w'.cloud.untagged = w.cloud.untagged
  refl _ := rfl
  trans h h' := h'.trans h

section
variable {P : World → Prop}
  (hP : ∀ w c l, P w → c.untagged = w.cloud.untagged → P { w with cloud := c, calls := l })
include hP

theorem tagsOnly_issue {α : Type} {call : Call} {effect : Cloud → α × Cloud}
    (h : ∀ c, (effect c).2.untagged = c.untagged) : tagsOnly.Inv P (issue call effect) := fun w hw => by
  simp only [after, issue]
  cases w.fault w.calls.length with
  | some _ => exact ⟨rfl, hP w w.cloud _ hw rfl⟩
  | none => exact ⟨h w.cloud, hP w _ _ hw (h w.cloud)⟩

theorem tagsOnly_describes : tagsOnly.Describes P where
  describe _ _ _ := tagsOnly_issue hP fun _ => rfl
  getSubnets _ hw := ⟨rfl, hw⟩

theorem tagsOnly_ensure (params : BuildParams) (current : Tags) : tagsOnly.Inv P (ensure params current) :=
  Guarantee.Inv.ite (fun _ => tagsOnly_issue hP fun c => c.untagged_map fun sn => by split <;> rfl)
    fun _ => .pure ()

end

theorem Settled.untagged {s : Service} {w : World} (h : Settled s w) {c : Cloud}
    (hc : c.untagged = w.cloud.untagged) (l : List Call) : Settled s { w with cloud := c, calls := l } :=
  h.placed (Cloud.Placed.of_untagged hc) l

/-- On a managed VPC with an ID whose subnets all have IDs, once a pass returns nil no later pass
changes the cloud but for the tags of its subnets, however the later passes end. -/
theorem reconcileSubnets_ok_cloud_settles (s : Service)
    (hm : s.scope.vpc.isUnmanaged s.scope.name = false) (hvpc : s.scope.vpc.id ≠ "") {w w' : World}
    (hnamed : w.cloud.Named) (h : reconcileSubnets s w = .ok () w') (n : Nat) :
    (runPasses s n w').cloud.untagged = w'.cloud.untagged :=
  (runPasses_inv (reconcileSubnets_settled (tagsOnly_describes fun _ _ _ hw hc => hw.untagged hc _)
    (fun _ _ => rfl) hvpc (tagsOnly_ensure fun _ _ _ hw hc => hw.untagged hc _))
    (reconcileSubnets_ok_settled hm hvpc hnamed h) n).1

theorem reconcileSubnets_ok_cloud_settles_nameTagWorld :
    (runPasses ownedVpcService 2 (after (reconcileSubnets ownedVpcService) nameTagWorld)).cloud.untagged =
      (after (reconcileSubnets ownedVpcService) nameTagWorld).cloud.untagged :=
  @reconcileSubnets_ok_cloud_settles ownedVpcService (by decide) (by decide) nameTagWorld _
    (fun _ h => nomatch h) nameTagWorld_pass 2

/-- Passes on an unmanaged VPC change the cloud only in the tags of its subnets, however each
ends. -/
theorem unmanaged_runPasses_untagged (s : Service) (hu : s.scope.vpc.isUnmanaged s.scope.name = true)
    (n : Nat) (w : World) : (runPasses s n w).cloud.untagged = w.cloud.untagged := by
  have hT : ∀ (w : World) (c : Cloud) (l : List Call), True → c.untagged = w.cloud.untagged → True :=
    fun _ _ _ _ _ => trivial
  have hpass : tagsOnly.Holds (reconcileSubnets s) :=
    reconcileSubnets_inv ⟨tagsOnly_describes hT, fun _ _ _ => ⟨rfl, trivial⟩⟩ s (R := fun _ => True)
      (fun _ _ _ _ _ => trivial) (fun h => by simp [hu] at h) (fun _ _ _ _ _ => tagsOnly_ensure hT _ _)
      fun h => by simp [hu] at h
  exact (runPasses_inv hpass trivial n).1

theorem unmanaged_runPasses_untagged_tagFailureWorld :
    userVpcService.scope.vpc.isUnmanaged userVpcService.scope.name = true ∧
      (runPasses userVpcService 2 tagFailureWorld).cloud.untagged = tagFailureWorld.cloud.untagged :=
  ⟨by decide, unmanaged_runPasses_untagged userVpcService (by decide) 2 tagFailureWorld⟩

end CapaSubnets
