import CapaSubnets.Lifecycle
/-!
# A subnet missing from an unmanaged VPC

An unmanaged VPC must already have every subnet the cluster declares: the matching loop stops
with an error at an entry of the stored list that no subnet of the VPC equals. That error does
not go away by itself. The pass stores a list that still has the entry, passes change only the
tags of the cloud (`Lifecycle`), and what `findEqual` compares, IDs and blocks, is no tag: with
an API that fails no call, every pass of every run fails.

With failing calls it can go away: in `tagFailureWorld` (`Unmanaged`) a refused tag write breaks
the matching loop before the entry, and the pass returns nil.
-/

namespace CapaSubnets

-- ---------------------------------------------------------------------------
-- What `findEqual` compares is no tag
-- ---------------------------------------------------------------------------

def SubnetSpec.key (x : SubnetSpec) : String × String × String := (x.id, x.cidrBlock, x.ipv6CidrBlock)

theorem findEqual_eq_none_iff_keys {l l' : Subnets} (h : l.map SubnetSpec.key = l'.map SubnetSpec.key)
    (e : SubnetSpec) : l.findEqual e = none ↔ l'.findEqual e = none := by
  have hkeys : ∀ m : Subnets, m.findEqual e = none ↔ ∀ k ∈ m.map SubnetSpec.key,
      ((e.id != "" && k.1 == e.id) || e.cidrBlock == k.2.1 ||
        (e.ipv6CidrBlock != "" && e.ipv6CidrBlock == k.2.2)) = false := by
    intro m
    simp [Subnets.findEqual, List.find?_eq_none, SubnetSpec.key]
  rw [hkeys, hkeys, h]

theorem observedSubnets_keys {s : Service} (hid : s.scope.vpc.id ≠ "") {c c' : Cloud}
    (h : c.untagged = c'.untagged) :
    (observedSubnets s c).map SubnetSpec.key = (observedSubnets s c').map SubnetSpec.key := by
  have hfilter : describeSubnetsFilter s = fun sn => sn.vpcId == s.scope.vpc.id := by
    funext sn
    simp [describeSubnetsFilter, hid]
  have hkeys : ∀ c : Cloud, (observedSubnets s c).map SubnetSpec.key =
      (c.untagged.subnets.filter fun sn => sn.vpcId == s.scope.vpc.id).map fun sn =>
        (sn.subnetId, sn.cidrBlock, sn.ipv6CidrBlockAssociationSet.foldl (fun b a =>
          if a.state == subnetCidrBlockStateCodeAssociated then a.ipv6CidrBlock else b) "") := by
    intro c
    simp [observedSubnets, Cloud.untagged, hfilter, List.filter_map, Function.comp_def, SubnetSpec.key,
      Ec2Subnet.untagged]
  rw [hkeys, hkeys, h]

/-- A list with an entry that no subnet of `existing` equals. -/
def HasMissing (existing l : Subnets) : Prop := ∃ e ∈ l, existing.findEqual e = none

theorem HasMissing.untagged {s : Service} (hid : s.scope.vpc.id ≠ "") {c c' : Cloud} {l : Subnets}
    (h : HasMissing (observedSubnets s c) l) (hc : c.untagged = c'.untagged) :
    HasMissing (observedSubnets s c') l :=
  let ⟨e, he, hnone⟩ := h
  ⟨e, he, (findEqual_eq_none_iff_keys (observedSubnets_keys hid hc) e).mp hnone⟩

-- ---------------------------------------------------------------------------
-- The matching loop with an API that fails no call
-- ---------------------------------------------------------------------------

def FaultFree (w : World) : Prop := ∀ n, w.fault n = none

theorem ensure_faultFree {w : World} (hf : FaultFree w) (params : BuildParams) (current : Tags) :
    ∃ w', ensure params current w = .ok () w' ∧ w'.fault = w.fault := by
  unfold ensure
  split
  · simp [EC2Client.createTags, issue, hf w.calls.length]
  · exact ⟨w, rfl, rfl⟩

theorem waitForWithRetryable_of_ok {retryable : List String} {condition : Ec2 Unit} {w w' : World}
    (h : condition w = .ok () w') (steps : Nat) :
    waitForWithRetryable retryable condition (steps + 1) w = .ok () w' := by
  rw [waitForWithRetryable, bind_of_ok (attempt_of_ok h)]
  rfl

theorem matchSubnets_found {s : Service} {u : Bool} {existing : Subnets} {sub x : SubnetSpec} (rest : Subnets)
    (hx : existing.findEqual sub = some x) {w : World} (hf : FaultFree w) :
    ∃ w₁, FaultFree w₁ ∧ ∀ r w₂, matchSubnets s u existing rest w₁ = .ok r w₂ →
      matchSubnets s u existing (sub :: rest) w = .ok (x :: r.1, r.2) w₂ := by
  obtain ⟨w₁, hensure, hfault⟩ := ensure_faultFree hf
    (getSubnetTagParams s u x.id x.isPublic x.availabilityZone sub.tags) x.tags
  have hwait : waitForWithRetryable [subnetNotFound] _ newBackoffSteps w = .ok () w₁ :=
    waitForWithRetryable_of_ok hensure 9
  refine ⟨w₁, fun n => hfault ▸ hf n, fun r w₂ h => ?_⟩
  rw [matchSubnets, hx]
  dsimp only
  rw [bind_of_ok (attempt_of_ok hwait)]
  dsimp only
  rw [bind_of_ok h]
  rfl

theorem matchSubnets_fails {s : Service} {existing subnets : Subnets} (hmiss : HasMissing existing subnets)
    {w : World} (hf : FaultFree w) :
    ∃ l err w', matchSubnets s true existing subnets w = .ok (l, .failed err) w' := by
  induction subnets generalizing w with
  | nil =>
    obtain ⟨e, he, -⟩ := hmiss
    cases he
  | cons sub rest ih =>
    cases hx : existing.findEqual sub with
    | none => exact ⟨_, _, _, by rw [matchSubnets, hx]; rfl⟩
    | some x =>
      have hrest : HasMissing existing rest := by
        obtain ⟨e, he, hnone⟩ := hmiss
        rcases List.mem_cons.mp he with rfl | he
        · rw [hx] at hnone
          cases hnone
        · exact ⟨e, he, hnone⟩
      obtain ⟨w₁, hf₁, hstep⟩ := matchSubnets_found rest hx hf
      obtain ⟨l, err, w₂, h₂⟩ := ih hrest hf₁
      exact ⟨x :: l, err, w₂, hstep _ _ h₂⟩

theorem matchSubnets_keeps_missing {s : Service} {u : Bool} {existing subnets l : Subnets} {exit : Exit}
    {w w' : World} (h : matchSubnets s u existing subnets w = .ok (l, exit) w') {e : SubnetSpec}
    (he : e ∈ subnets) (hnone : existing.findEqual e = none) : e ∈ l := by
  obtain ⟨k, -, rfl, -⟩ := matchSubnets_ok h
  rw [← List.take_append_drop k subnets] at he
  rcases List.mem_append.mp he with he | he
  · exact List.mem_append_left _ (List.mem_map.mpr ⟨e, he, by simp [matchedEntry, hnone]⟩)
  · exact List.mem_append_right _ he

-- ---------------------------------------------------------------------------
-- A pass fails
-- ---------------------------------------------------------------------------

def Fails {α : Type} (P Q : World → Prop) (x : Ec2 α) : Prop :=
  ∀ w, P w → ∃ e w', x w = .error e w' ∧ Q w'

namespace Fails

variable {α β : Type} {P Q : World → Prop} {x : Ec2 α} {f : α → Ec2 β}

theorem bind_left (hx : Fails P Q x) (f : α → Ec2 β) : Fails P Q (x >>= f) := fun w hw =>
  let ⟨e, w', h, hq⟩ := hx w hw
  ⟨e, w', bind_of_error h, hq⟩

theorem bind_of {G : Guarantee} {R : α → Prop} (hPQ : ∀ w, P w → Q w) (hx : G.Inv P x)
    (hr : ∀ w a w', P w → x w = .ok a w' → R a) (hf : ∀ a, R a → Fails P Q (f a)) :
    Fails P Q (x >>= f) := fun w hw => by
  cases hxw : x w with
  | ok a w' =>
    rw [bind_of_ok hxw]
    exact hf a (hr w a w' hw hxw) w' (hx.of_ok hw hxw).2
  | error e w' => exact ⟨e, w', bind_of_error hxw, hPQ w' (hx.of_error hw hxw).2⟩

end Fails

/-- A world a pass on the cloud `c` starts from, or gets to before its loops: the cloud is `c`,
the API fails no call, and the stored list has an entry that no subnet observed on `c` equals. -/
structure Stuck (s : Service) (c : Cloud) (w : World) : Prop where
  faultFree : FaultFree w
  cloud : w.cloud = c
  missing : HasMissing (observedSubnets s c) w.subnets

/-- What such a pass leaves: the API fails no call, the cloud differs from `c` only in its tags,
and the entry is still in the stored list. -/
structure StuckAfter (s : Service) (c : Cloud) (w : World) : Prop where
  faultFree : FaultFree w
  untagged : w.cloud.untagged = c.untagged
  missing : HasMissing (observedSubnets s c) w.subnets

section
variable {s : Service} {c : Cloud}

theorem Stuck.after {w : World} (h : Stuck s c w) : StuckAfter s c w :=
  ⟨h.faultFree, congrArg Cloud.untagged h.cloud, h.missing⟩

theorem stuck_describes : sameCloud.Describes (Stuck s c) where
  describe _ _ _ w hw := by
    simp only [after, issue]
    cases w.fault w.calls.length <;> exact ⟨rfl, hw.faultFree, hw.cloud, hw.missing⟩
  getSubnets _ hw := ⟨rfl, hw⟩

theorem appendSecondary_stuck (existing : Subnets) : sameCloud.Inv (Stuck s c) (appendSecondary s existing) :=
  appendSecondary_inv_of stuck_describes s (Q := HasMissing (observedSubnets s c))
    (R := HasMissing (observedSubnets s c)) (fun _ hw => hw.missing)
    (fun _ _ blocks zones l _ _ _ ⟨e, he, hnone⟩ => by
      obtain ⟨extra, hl, -⟩ := appendSecondarySubnets_append existing zones 0 blocks l
      exact ⟨e, hl ▸ List.mem_append_left _ he, hnone⟩)
    fun w l hw hl => ⟨rfl, hw.faultFree, hw.cloud, hl⟩

theorem runLoop_matchSubnets_fails :
    Fails (Stuck s c) (StuckAfter s c) (runLoop (matchSubnets s true (observedSubnets s c))) := by
  intro w hw
  obtain ⟨l, err, w₁, h⟩ := matchSubnets_fails hw.missing hw.faultFree
  have hP : ∀ (v : World) (c' : Cloud) (calls : List Call), FaultFree v ∧ v.cloud.untagged = c.untagged →
      c'.untagged = v.cloud.untagged → FaultFree { v with cloud := c', calls } ∧ c'.untagged = c.untagged :=
    fun _ _ _ hv hc => ⟨hv.1, hc.trans hv.2⟩
  have hw₁ := ((matchSubnets_inv (G := tagsOnly) s (fun _ _ _ => tagsOnly_ensure hP _ _) w.subnets).of_ok
    ⟨hw.faultFree, congrArg Cloud.untagged hw.cloud⟩ h).2
  obtain ⟨e, he, hnone⟩ := hw.missing
  refine ⟨err, { w₁ with subnets := l }, ?_, hw₁.1, hw₁.2, e, matchSubnets_keeps_missing h he hnone, hnone⟩
  rw [runLoop, bind_of_ok (rfl : getSubnets w = .ok w.subnets w), bind_of_ok h]
  rfl

theorem reconcileSubnets_fails (hu : s.scope.vpc.isUnmanaged s.scope.name = true) :
    Fails (Stuck s c) (StuckAfter s c) (reconcileSubnets s) := by
  have hne : ∀ l, HasMissing (observedSubnets s c) l → l ≠ [] := fun _ ⟨_, he, _⟩ hnil => by
    simp [hnil] at he
  rw [reconcileSubnets_eq]
  refine Fails.bind_of (fun _ hw => hw.after)
    (observeStage_inv stuck_describes s (fun _ hw => hw.missing) fun l hl =>
      .ite (fun h => absurd (List.isEmpty_iff.mp h) (hne l hl)) fun _ => .pure ())
    (R := fun ex => ex = observedSubnets s c) (fun w ex w' hw h => hw.cloud ▸ (observeStage_ok h).1)
    fun ex hex => ?_
  subst hex
  refine Fails.bind_of (fun _ hw => hw.after) (appendSecondary_stuck _) (R := fun _ => True)
    (fun _ _ _ _ _ => trivial) fun _ _ => ?_
  rw [hu]
  exact Fails.bind_left runLoop_matchSubnets_fails _

end

/-- On an unmanaged VPC with an API that fails no call, an entry of the stored list that no
subnet of the VPC equals makes every pass of every run fail. -/
theorem unmanaged_missing_subnet_fails (s : Service) (hu : s.scope.vpc.isUnmanaged s.scope.name = true)
    {w : World} (hfault : ∀ n, w.fault n = none)
    (hmissing : ∃ e ∈ w.subnets, (observedSubnets s w.cloud).findEqual e = none) (n : Nat) :
    ∃ e w', reconcileSubnets s (runPasses s n w) = .error e w' := by
  -- a failing pass leaves the API and the entry as they were
  have hpass : tagsOnly.Inv (fun v => FaultFree v ∧ HasMissing (observedSubnets s v.cloud) v.subnets)
      (reconcileSubnets s) := fun v hv => by
    obtain ⟨_, v', h, hq⟩ := reconcileSubnets_fails hu v ⟨hv.1, rfl, hv.2⟩
    rw [after_of_error h]
    exact ⟨hq.untagged, hq.faultFree, hq.missing.untagged (VPCSpec.id_ne_of_isUnmanaged hu) hq.untagged.symm⟩
  obtain ⟨hf, hm⟩ := (runPasses_inv hpass ⟨hfault, hmissing⟩ n).2
  obtain ⟨e, w', h, -⟩ := reconcileSubnets_fails hu _ ⟨hf, rfl, hm⟩
  exact ⟨e, w', h⟩

/-- The world of `tagFailureWorld` with an API that fails no call. -/
def missingSubnetWorld : World := { tagFailureWorld with fault := fun _ => none }

theorem unmanaged_missing_subnet_fails_missingSubnetWorld :
    userVpcService.scope.vpc.isUnmanaged userVpcService.scope.name = true ∧
      (∃ e ∈ missingSubnetWorld.subnets,
        (observedSubnets userVpcService missingSubnetWorld.cloud).findEqual e = none) ∧
      ∃ e w', reconcileSubnets userVpcService (runPasses userVpcService 2 missingSubnetWorld) = .error e w' :=
  ⟨by decide, by decide, unmanaged_missing_subnet_fails userVpcService (by decide) (fun _ => rfl) (by decide) 2⟩

end CapaSubnets
