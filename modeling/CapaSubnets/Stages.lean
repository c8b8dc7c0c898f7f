import CapaSubnets.Laws

/-!
# Guarantees of the stages of a pass

A guarantee holds of a whole pass of `reconcileSubnets` once it holds of the calls the pass
makes. `Guarantee.Reads G P` says that `G` allows every describe call and every access to the
cluster's subnet list, from the worlds with `P`; from it, and from what `G` says of the few
writes a stage makes (a `PatchObject`, a tag write, a `createSubnet`), every stage below keeps
`G` and `P`. The attribute frame of `Frame` and the calls of a pass on an unmanaged VPC in
`Unmanaged` are both instances.

Where `P` depends on the stored list, a write of the list need not keep it; the `_of` forms
(`runLoop_inv_of`, `appendSecondary_inv_of`, `reconcileSubnets_inv_of_stages`) ask only that the
lists the loops leave keep it. The stages before the loops are named `observeStage`, so that
their two describes are gone through once.
-/

namespace CapaSubnets

def Call.isDescribe : Call → Bool
  | .describeSubnets | .describeRouteTables | .describeNatGateways
  | .describeAvailabilityZones => true
  | _ => false

/-- `G` allows, from the worlds with `P`, every describe call and every read of the cluster's
subnet list, and these keep `P`. -/
structure Guarantee.Describes (G : Guarantee) (P : World → Prop) : Prop where
  describe : ∀ {α : Type} (call : Call) (read : Cloud → α), call.isDescribe →
    G.Inv P (issue call fun c => (read c, c))
  getSubnets : G.Inv P getSubnets

/-- `G` also allows every write of the cluster's subnet list, which keeps `P`. -/
structure Guarantee.Reads (G : Guarantee) (P : World → Prop) extends Guarantee.Describes G P : Prop where
  setSubnets : ∀ l, G.Inv P (setSubnets l)

def Guarantee.callsOnly (ok : Call → Prop) : Guarantee where
  rel w w' := ∃ new, w'.calls = new ++ w.calls ∧ ∀ c ∈ new, ok c
  refl _ := ⟨[], rfl, nofun⟩
  trans := fun ⟨n₁, h₁, hn₁⟩ ⟨n₂, h₂, hn₂⟩ =>
    ⟨n₂ ++ n₁, by rw [h₂, h₁, List.append_assoc], fun c hc => (List.mem_append.mp hc).elim (hn₂ c) (hn₁ c)⟩

theorem Guarantee.callsOnly_issue {α : Type} {ok : Call → Prop} {P : World → Prop} {call : Call}
    {effect : Cloud → α × Cloud} (hcall : ok call)
    (heffect : ∀ w, P w → P { w with cloud := (effect w.cloud).2, calls := call :: w.calls })
    (hfail : ∀ w, P w → P { w with calls := call :: w.calls }) :
    (Guarantee.callsOnly ok).Inv P (issue call effect) := by
  intro w hw
  simp only [after, issue]
  cases w.fault w.calls.length with
  | some _ => exact ⟨⟨[call], rfl, by simpa using hcall⟩, hfail w hw⟩
  | none => exact ⟨⟨[call], rfl, by simpa using hcall⟩, heffect w hw⟩

/-- The stages of `reconcileSubnets` before its loops, returning the subnets the loops match the
list against. -/
def observeStage (s : Service) : Ec2 Subnets := do
  let subnets ← getSubnets
  let existing ← (if s.scope.tagUnmanagedNetworkResources then describeVpcSubnets s else pure [])
  setDefaultSubnets s (s.scope.vpc.isUnmanaged s.scope.name) subnets
  if !s.scope.tagUnmanagedNetworkResources then describeVpcSubnets s else pure existing

theorem reconcileSubnets_eq (s : Service) :
    reconcileSubnets s = observeStage s >>= fun existing => (do
      appendSecondary s existing
      runLoop (matchSubnets s (s.scope.vpc.isUnmanaged s.scope.name) existing)
      checkSubnets (s.scope.vpc.isUnmanaged s.scope.name)
      if !s.scope.vpc.isUnmanaged s.scope.name then runLoop (createSubnets s) else pure ()) := by
  simp only [reconcileSubnets, observeStage, bind_assoc]

section
variable {α : Type} {G : Guarantee} {P : World → Prop}

-- ---------------------------------------------------------------------------
-- Go's runtime and the retry loop: nothing but pure values and faults
-- ---------------------------------------------------------------------------

theorem index_inv (xs : List α) (i : Nat) : G.Inv P (index xs i) := by
  unfold index
  split
  · exact .pure _
  · exact .throw _

theorem sliceTo_inv (xs : List α) (n : Int) : G.Inv P (sliceTo xs n) :=
  Guarantee.Inv.ite (fun _ => .pure _) fun _ => .throw _

theorem deref_inv (o : Option α) : G.Inv P (deref o) := by
  cases o
  · exact .throw _
  · exact .pure _

theorem fromExcept_inv (e : Except String α) : G.Inv P (fromExcept e) := by
  cases e
  · exact .throw _
  · exact .pure _

theorem resume_inv (exit : Exit) : G.Inv P exit.resume := by
  cases exit
  · exact .pure ()
  · exact .pure ()
  · exact .throw _

theorem waitForWithRetryable_inv {condition : Ec2 Unit} (retryable : List String)
    (h : G.Inv P condition) (steps : Nat) : G.Inv P (waitForWithRetryable retryable condition steps) := by
  induction steps with
  | zero => exact .throw _
  | succ steps ih =>
    refine h.attempt.bind fun r => ?_
    cases r with
    | ok => exact .pure ()
    | error => exact .ite (fun _ => ih) fun _ => .throw _

-- ---------------------------------------------------------------------------
-- Default subnets
-- ---------------------------------------------------------------------------

theorem selectZones_inv (s : Service) (zones : List String) : G.Inv P (selectZones s zones) :=
  Guarantee.Inv.ite (fun _ => sliceTo_inv _ _) fun _ => .pure _

theorem zoneSubnets_inv (ipv6 : Bool) (publics privates publicIPv6s privateIPv6s : List String)
    (i : Nat) (zones : List String) :
    G.Inv P (zoneSubnets ipv6 publics privates publicIPv6s privateIPv6s i zones) := by
  induction zones generalizing i with
  | nil => exact .pure _
  | cons zone zones ih =>
    exact (index_inv _ _).bind fun _ => (index_inv _ _).bind fun _ =>
      (Guarantee.Inv.ite (fun _ => (index_inv _ _).bind fun _ => (index_inv _ _).bind fun _ =>
        .pure _) fun _ => .pure _).bind fun _ => (ih _).bind fun _ => .pure _

theorem ipv6SubnetCIDRs_inv (s : Service) (numSubnets : Int) (numZones : Nat) :
    G.Inv P (ipv6SubnetCIDRs s numSubnets numZones) := by
  unfold ipv6SubnetCIDRs
  split
  · exact .pure _
  · exact ((fromExcept_inv _).adaptExcept _).bind fun _ => (index_inv _ _).bind fun _ =>
      ((fromExcept_inv _).adaptExcept _).bind fun _ => .pure _

section Describes
variable (hD : G.Describes P) (s : Service)
include hD

theorem getAvailableZones_inv : G.Inv P getAvailableZones :=
  .adaptExcept _ (hD.describe .describeAvailabilityZones _ rfl)

theorem getDefaultSubnets_inv : G.Inv P (getDefaultSubnets s) :=
  (getAvailableZones_inv hD).bind fun _ => (selectZones_inv _ _).bind fun _ =>
    ((fromExcept_inv _).adaptExcept _).bind fun _ => (index_inv _ _).bind fun _ =>
      ((fromExcept_inv _).adaptExcept _).bind fun _ => (ipv6SubnetCIDRs_inv _ _ _).bind fun _ =>
        zoneSubnets_inv _ _ _ _ _ _ _

-- ---------------------------------------------------------------------------
-- The stages of `reconcileSubnets`
-- ---------------------------------------------------------------------------

theorem describeSubnets_inv : G.Inv P (describeSubnets s) :=
  .adaptExcept _ (hD.describe .describeSubnets _ rfl)

theorem describeVpcSubnets_inv : G.Inv P (describeVpcSubnets s) :=
  (describeSubnets_inv hD s).bind fun _ => (hD.describe .describeRouteTables _ rfl).bind fun _ =>
    (hD.describe .describeNatGateways _ rfl).bind fun _ => .pure _

theorem checkSubnets_inv (unmanagedVPC : Bool) : G.Inv P (checkSubnets unmanagedVPC) :=
  hD.getSubnets.bind fun _ =>
    .ite (fun _ => .ite (fun _ => .throw _) fun _ => .ite (fun _ => .throw _) fun _ => .pure ())
      fun _ => .ite (fun _ => .throw _) fun _ => .pure ()

theorem runLoop_inv_of {loop : Subnets → Ec2 (Subnets × Exit)} {Q R : Subnets → Prop}
    (hQ : ∀ w, P w → Q w.subnets) (hloop : ∀ l, Q l → G.Inv P (loop l))
    (hout : ∀ l w r w', Q l → P w → loop l w = .ok r w' → R r.1)
    (hstore : ∀ w l, P w → R l → G.rel w { w with subnets := l } ∧ P { w with subnets := l }) :
    G.Inv P (runLoop loop) := by
  refine hD.getSubnets.bind_of (R := Q) (fun w l w' hw h => by cases h; exact hQ w hw) fun l hl => ?_
  refine (hloop l hl).bind_of (R := fun r => R r.1) (fun w r w' hw h => hout l w r w' hl hw h) fun r hr => ?_
  exact Guarantee.Inv.bind (fun w hw => hstore w r.1 hw hr) fun _ => resume_inv r.2

theorem appendSecondary_inv_of {existing : Subnets} {Q R : Subnets → Prop} (hQ : ∀ w, P w → Q w.subnets)
    (hout : ∀ secondary limit blocks zones l, s.scope.secondaryCidrBlock = some secondary →
      s.scope.vpc.availabilityZoneUsageLimit = some limit → s.cidr.splitIntoSubnetsIPv4 secondary limit = .ok blocks →
      Q l → R (appendSecondarySubnets existing zones 0 blocks l).1)
    (hstore : ∀ w l, P w → R l → G.rel w { w with subnets := l } ∧ P { w with subnets := l }) :
    G.Inv P (appendSecondary s existing) := by
  unfold appendSecondary
  cases hsec : s.scope.secondaryCidrBlock with
  | none => exact .pure ()
  | some secondary =>
    refine (deref_inv _).bind_of (R := fun limit => s.scope.vpc.availabilityZoneUsageLimit = some limit)
      (fun _ _ _ _ h => (deref_ok.mp h).1) fun limit hlimit => ?_
    refine (fromExcept_inv _).bind_of (R := fun blocks => s.cidr.splitIntoSubnetsIPv4 secondary limit = .ok blocks)
      (fun _ _ _ _ h => (fromExcept_ok.mp h).1) fun blocks hblocks => ?_
    refine (getAvailableZones_inv hD).bind fun zones =>
      runLoop_inv_of hD hQ (fun _ _ => .pure _) (fun l w r w' hl _ h => ?_) hstore
    cases h
    exact hout secondary limit blocks zones l hsec hlimit hblocks hl

theorem observeStage_inv {Q : Subnets → Prop} (hQ : ∀ w, P w → Q w.subnets)
    (hdefaults : ∀ subnets, Q subnets →
      G.Inv P (setDefaultSubnets s (s.scope.vpc.isUnmanaged s.scope.name) subnets)) :
    G.Inv P (observeStage s) := by
  have hdescribe : ∀ (c : Bool) existing,
      G.Inv P (if c = true then describeVpcSubnets s else pure existing) := fun _ _ =>
    .ite (fun _ => describeVpcSubnets_inv hD s) fun _ => .pure _
  exact hD.getSubnets.bind_of (R := Q) (fun w l w' hw h => by cases h; exact hQ w hw) fun subnets hsub =>
    (hdescribe _ _).bind fun _ => (hdefaults subnets hsub).bind fun _ => hdescribe _ _

theorem reconcileSubnets_inv_of_stages {Q R : Subnets → Prop} (hQ : ∀ w, P w → Q w.subnets)
    (hR : ∀ w ex w', P w → observeStage s w = .ok ex w' → R ex)
    (hdefaults : ∀ subnets, Q subnets →
      G.Inv P (setDefaultSubnets s (s.scope.vpc.isUnmanaged s.scope.name) subnets))
    (hsecondary : ∀ existing, R existing → G.Inv P (appendSecondary s existing))
    (hmatch : ∀ existing, R existing →
      G.Inv P (runLoop (matchSubnets s (s.scope.vpc.isUnmanaged s.scope.name) existing)))
    (hcreate : s.scope.vpc.isUnmanaged s.scope.name = false → G.Inv P (runLoop (createSubnets s))) :
    G.Inv P (reconcileSubnets s) := by
  rw [reconcileSubnets_eq]
  exact (observeStage_inv hD s hQ hdefaults).bind_of hR fun ex hex => (hsecondary ex hex).bind fun _ =>
    (hmatch ex hex).bind fun _ => (checkSubnets_inv hD _).bind fun _ =>
      .ite (fun hu => hcreate (by simpa using hu)) fun _ => .pure ()

end Describes

variable (hG : G.Reads P) (s : Service)
include hG

theorem runLoop_inv {loop : Subnets → Ec2 (Subnets × Exit)} (h : ∀ l, G.Inv P (loop l)) :
    G.Inv P (runLoop loop) :=
  hG.getSubnets.bind fun l => (h l).bind fun r => (hG.setSubnets r.1).bind fun _ => resume_inv r.2

theorem setDefaultSubnets_inv {unmanagedVPC : Bool}
    (hpatch : unmanagedVPC = false → G.Inv P patchObject) (subnets : Subnets) :
    G.Inv P (setDefaultSubnets s unmanagedVPC subnets) := by
  unfold setDefaultSubnets
  refine .ite (fun _ => .ite (fun _ => .throw _) fun hu => ?_) fun _ => .pure ()
  exact ((getDefaultSubnets_inv hG.toDescribes s).adaptExcept _).bind fun _ =>
    (hG.setSubnets _).bind fun _ => hpatch (by simpa using hu)

theorem appendSecondary_inv (existing : Subnets) : G.Inv P (appendSecondary s existing) :=
  appendSecondary_inv_of hG.toDescribes s (Q := fun _ => True) (R := fun _ => True) (fun _ _ => trivial)
    (fun _ _ _ _ _ _ _ _ _ => trivial) fun w l hw _ => hG.setSubnets l w hw

omit hG in
theorem matchSubnets_inv {unmanagedVPC : Bool} {existing : Subnets}
    (hensure : ∀ x ∈ existing, ∀ t : Tags,
      G.Inv P (ensure (getSubnetTagParams s unmanagedVPC x.id x.isPublic x.availabilityZone t) x.tags))
    (subnets : Subnets) : G.Inv P (matchSubnets s unmanagedVPC existing subnets) := by
  induction subnets with
  | nil => exact .pure _
  | cons sub rest ih =>
    unfold matchSubnets
    split
    · next x hx =>
      refine (waitForWithRetryable_inv _ (hensure x (Subnets.findEqual_mem hx) _) _).attempt.bind
        fun r => ?_
      cases r with
      | error => exact .ite (fun _ => .pure _) fun _ => .pure _
      | ok => exact ih.bind fun _ => .pure _
    · exact .ite (fun _ => .pure _) fun _ => ih.bind fun _ => .pure _

omit hG in
theorem createSubnets_inv (hcreate : ∀ sn, G.Inv P (createSubnet s sn)) (subnets : Subnets) :
    G.Inv P (createSubnets s subnets) := by
  induction subnets with
  | nil => exact .pure _
  | cons sub rest ih =>
    unfold createSubnets
    refine .ite (fun _ => ih.bind fun _ => .pure _) fun _ => (hcreate sub).attempt.bind fun r => ?_
    cases r with
    | error => exact .pure _
    | ok => exact ih.bind fun _ => .pure _

/-- A pass keeps `G` when the writes it may make do: the `PatchObject` of the defaults, each
`createSubnet`, and the tag writes on the subnets the stages before the loops return. -/
theorem reconcileSubnets_inv {R : Subnets → Prop}
    (hR : ∀ w ex w', P w → observeStage s w = .ok ex w' → R ex)
    (hpatch : s.scope.vpc.isUnmanaged s.scope.name = false → G.Inv P patchObject)
    (hensure : ∀ existing, R existing → ∀ x ∈ existing, ∀ t : Tags,
      G.Inv P (ensure (getSubnetTagParams s (s.scope.vpc.isUnmanaged s.scope.name) x.id x.isPublic
        x.availabilityZone t) x.tags))
    (hcreate : s.scope.vpc.isUnmanaged s.scope.name = false → ∀ sn, G.Inv P (createSubnet s sn)) :
    G.Inv P (reconcileSubnets s) :=
  reconcileSubnets_inv_of_stages hG.toDescribes s (Q := fun _ => True) (fun _ _ => trivial) hR
    (fun l _ => setDefaultSubnets_inv hG s hpatch l) (fun ex _ => appendSecondary_inv hG s ex)
    (fun ex hex => runLoop_inv hG (matchSubnets_inv s (hensure ex hex)))
    fun hu => runLoop_inv hG (createSubnets_inv s (hcreate hu))

end

end CapaSubnets
