import CapaSubnets.Pass
/-!
# Runs of passes

The controller calls `reconcileSubnets` again and again, each pass from the world the one
before left, whether it returned or failed: the cloud as its calls changed it, and the subnet
list the deferred `SetSubnets` stored. `runPasses s n w` is `n` such passes from `w`.

Every pass keeps the attributes of every subnet there before it (`Frame`), so a run does too:
`MapPublicIpOnLaunch` and `AssignIpv6AddressOnCreation` are set only inside the `createSubnet`
that makes a subnet, and a subnet that call left without them keeps them unset for the rest of
the run. The loop over the blocks of the secondary CIDR reads one zone per block, and panics
exactly when the split has more blocks than the region has zones.

Then runs on small worlds: a failed wait that no later pass repairs, secondary entries stored
again by each failing pass, a `Name` that the stored list and the cloud trade at every pass,
and the panic of the secondary loop.
-/

namespace CapaSubnets

/-- `n` passes of `reconcileSubnets` from `w`, each from the world the one before left. -/
def runPasses (s : Service) : Nat → World → World
  | 0, w => w
  | n + 1, w => runPasses s n (after (reconcileSubnets s) w)

/-- A guarantee that a pass keeps from the worlds with `P` holds of every run from them. -/
theorem runPasses_inv {G : Guarantee} {P : World → Prop} {s : Service} (h : G.Inv P (reconcileSubnets s))
    {w : World} (hw : P w) (n : Nat) : G.rel w (runPasses s n w) ∧ P (runPasses s n w) := by
  induction n generalizing w with
  | zero => exact ⟨G.refl w, hw⟩
  | succ n ih =>
    obtain ⟨h₁, h₂⟩ := h w hw
    obtain ⟨h₃, h₄⟩ := ih h₂
    exact ⟨G.trans h₁ h₃, h₄⟩

theorem runPasses_of {s : Service} {P : World → Prop} (h : ∀ w, P w → P (after (reconcileSubnets s) w)) :
    ∀ n w, P w → P (runPasses s n w)
  | 0, _, hw => hw
  | n + 1, w, hw => runPasses_of h n _ (h w hw)

theorem runPasses_keeps (s : Service) (n : Nat) (w : World) :
    w.cloud.Keeps (fun _ => True) (runPasses s n w).cloud :=
  (runPasses_inv (keeps_reconcileSubnets s) trivial n).1

/-- `MapPublicIpOnLaunch` and `AssignIpv6AddressOnCreation` are set only by the `createSubnet` that
makes the subnet: every run of passes keeps those of the subnets already there. -/
theorem subnet_attributes_set_only_at_creation (s : Service) :
    (∀ (sn nsn : SubnetSpec) (w w' : World), createSubnet s sn w = .ok nsn w' →
      w'.cloud.attributes nsn.id = some (sn.isPublic, (markIPv6 s sn).isIPv6)) ∧
    ∀ (n : Nat) (w : World), ∀ id ∈ w.cloud.subnetIds,
      (runPasses s n w).cloud.attributes id = w.cloud.attributes id :=
  ⟨fun _ _ _ _ h => (createSubnet_ok h).2.2.2.1, fun n w id hid => runPasses_keeps s n w id hid trivial⟩

/-- An empty cloud, a declared public and a declared private subnet in zone `a`, and an API
that fails the fifth call: the wait for the public subnet the fourth has just created. -/
def waitFailureWorld : World where
  cloud := {}
  subnets := [{ cidrBlock := "10.0.1.0/24", availabilityZone := "a", isPublic := true },
              { cidrBlock := "10.0.2.0/24", availabilityZone := "a" }]
  fault n := if n = 4 then some ⟨"ResourceNotReady", "subnet not available"⟩ else none

/-- The first pass creates the public subnet and fails waiting for it; the second returns nil
and leaves that subnet with `MapPublicIpOnLaunch = false`. -/
theorem waitFailureWorld_public_unset :
    (∃ e, reconcileSubnets ownedVpcService waitFailureWorld =
      .error e (runPasses ownedVpcService 1 waitFailureWorld)) ∧
    (runPasses ownedVpcService 1 waitFailureWorld).cloud.subnets.map
      (fun sn => (sn.cidrBlock, sn.mapPublicIpOnLaunch)) = [("10.0.1.0/24", false)] ∧
    reconcileSubnets ownedVpcService (runPasses ownedVpcService 1 waitFailureWorld) =
      .ok () (runPasses ownedVpcService 2 waitFailureWorld) ∧
    (runPasses ownedVpcService 2 waitFailureWorld).cloud.subnets.map
      (fun sn => (sn.cidrBlock, sn.mapPublicIpOnLaunch)) =
      [("10.0.1.0/24", false), ("10.0.2.0/24", false)] :=
  ⟨⟨_, rfl⟩, by decide, rfl, by decide⟩

-- ---------------------------------------------------------------------------
-- The secondary CIDR
-- ---------------------------------------------------------------------------

/-- The loop over the blocks of the secondary CIDR, started at a zone index in range, panics
exactly when there are more blocks than zones left; otherwise it runs to its end. -/
theorem appendSecondarySubnets_exit (existing : Subnets) (zones : List String) (subs : List String) :
    ∀ (i : Nat) (subnets : Subnets), i ≤ zones.length →
      (appendSecondarySubnets existing zones i subs subnets).2 =
        if zones.length < i + subs.length then .failed (.panic "runtime error: index out of range")
        else .done := by
  induction subs with
  | nil => intro i _ hi; simp [appendSecondarySubnets, Nat.not_lt.mpr hi]
  | cons sub subs ih =>
    intro i subnets hi
    rcases Nat.lt_or_eq_of_le hi with hlt | rfl
    · simp only [appendSecondarySubnets, List.getElem?_eq_getElem hlt, List.length_cons]
      rw [ih (i + 1) _ hlt]
      simp only [Nat.add_assoc, Nat.add_comm 1]
    · simp [appendSecondarySubnets]

theorem appendSecondarySubnets_exit_twoZones :
    (appendSecondarySubnets [] ["a", "b"] 0 ["x", "y", "z"] []).2 =
      if ["a", "b"].length < 0 + ["x", "y", "z"].length then .failed (.panic "runtime error: index out of range")
      else .done :=
  appendSecondarySubnets_exit [] ["a", "b"] ["x", "y", "z"] 0 [] (by decide)

/-- The cluster of `ownedVpcService` with the secondary block `100.64.0.0/16` and a usage
limit. -/
def secondaryService (limit : Int) : Service :=
  { ownedVpcService with
    scope := { ownedVpcService.scope with
               vpc := { ownedVpcService.scope.vpc with availabilityZoneUsageLimit := some limit },
               secondaryCidrBlock := some "100.64.0.0/16" } }

/-- With a usage limit of one and one zone, both passes fail the public/private check after
storing the secondary entry, and the second stores it again: no subnet of the cloud equals it. -/
theorem zonesWorld_duplicates_secondary :
    (∃ e, reconcileSubnets (secondaryService 1) (zonesWorld ["a"]) =
      .error e (runPasses (secondaryService 1) 1 (zonesWorld ["a"]))) ∧
    (∃ e, reconcileSubnets (secondaryService 1) (runPasses (secondaryService 1) 1 (zonesWorld ["a"])) =
      .error e (runPasses (secondaryService 1) 2 (zonesWorld ["a"]))) ∧
    (runPasses (secondaryService 1) 2 (zonesWorld ["a"])).subnets.map (·.cidrBlock) =
      ["10.0.1.0/24", "100.64.0.0/16#0", "100.64.0.0/16#0"] :=
  ⟨⟨_, rfl⟩, ⟨_, rfl⟩, by decide⟩

/-- With two zones, a usage limit of three and a secondary block, the pass panics in the loop
over the secondary blocks, although the split gives exactly the blocks asked for. -/
theorem zonesWorld_secondary_panics :
    numberedSplit.SplitsExactly ∧ 1 ≤ maxZones (secondaryService 3) ∧
    ∃ w', reconcileSubnets (secondaryService 3) (zonesWorld ["a", "b"]) =
      .error (.panic "runtime error: index out of range") w' :=
  ⟨numberedSplit_splitsExactly, by decide, _, rfl⟩

-- ---------------------------------------------------------------------------
-- A Name that does not settle
-- ---------------------------------------------------------------------------

/-- With every call succeeding, the third pass from `nameTagWorld` still writes tags: the generated
`Name` and the declared `x` trade places between the list and the cloud at every pass. -/
theorem nameTagWorld_name_alternates :
    ((runPasses ownedVpcService 2 nameTagWorld).subnets.map (·.tags.lookup "Name"),
      (runPasses ownedVpcService 2 nameTagWorld).cloud.subnets.map (·.tags.lookup "Name")) =
      ([some "x", some "c-subnet-private-a"], [some "c-subnet-public-a", some "c-subnet-private-a"]) ∧
    ((runPasses ownedVpcService 3 nameTagWorld).subnets.map (·.tags.lookup "Name"),
      (runPasses ownedVpcService 3 nameTagWorld).cloud.subnets.map (·.tags.lookup "Name")) =
      ([some "c-subnet-public-a", some "c-subnet-private-a"], [some "x", some "c-subnet-private-a"]) :=
  ⟨by decide, by decide⟩

end CapaSubnets
