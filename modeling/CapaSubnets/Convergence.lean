import CapaSubnets.Progress
import CapaSubnets.Roles
/-!
# Passes that keep returning

A world is `Ready` for a service when the API fails no call, the cloud's subnet IDs are distinct,
no two subnets a describe observes share an ID, a block or a non-empty IPv6 block, and every
stored entry has an ID and the key and role of an observed subnet, with a private and a public
entry among them. On a managed VPC with an ID and no secondary block, a pass from a `Ready` world
returns nil: the matching loop puts in each entry's place a subnet with its key and role, so the
checks see the roles of the list, and the creation loop has nothing to create. It leaves a
`Ready` world, since the loop writes only tags, which `findEqual` does not compare, and writes
each subnet's role as it was observed (`Roles`). So every pass of every run from it returns nil,
and the stored list keeps its keys and roles; its tags need not settle (`Runs`).

On an unmanaged VPC the checks ask for one entry only, and the matching loop fails at an entry
no observed subnet equals (`Configuration`). From a non-empty list every entry of which an
observed subnet equals, a pass returns nil and stores the observed subnets in the entries'
places; each is observed again by the next pass, which changes only tags. So every pass of every
run returns nil.

Not covered: runs with faults, which can stop any pass, and a secondary block.
-/

namespace CapaSubnets

-- ---------------------------------------------------------------------------
-- Subnets that `findEqual` cannot take for one another
-- ---------------------------------------------------------------------------

/-- Two keys `findEqual` cannot take for one another: different IDs, different blocks, and IPv6
blocks that are different or empty. -/
def KeysApart (k k' : String × String × String) : Prop :=
  k.1 ≠ k'.1 ∧ k.2.1 ≠ k'.2.1 ∧ (k.2.2 = k'.2.2 → k.2.2 = "")

instance : DecidableRel KeysApart := fun _ _ => inferInstanceAs (Decidable (_ ∧ _ ∧ _))

theorem KeysApart.symm {k k' : String × String × String} (h : KeysApart k k') : KeysApart k' k :=
  ⟨h.1.symm, h.2.1.symm, fun he => he.trans (h.2.2 he.symm)⟩

theorem findEqual_of_key {l : Subnets} (hl : (l.map SubnetSpec.key).Pairwise KeysApart) {x e : SubnetSpec}
    (hx : x ∈ l) (hkey : x.key = e.key) (hid : e.id ≠ "") : ∃ y, l.findEqual e = some y ∧ y.key = x.key := by
  simp only [SubnetSpec.key, Prod.mk.injEq] at hkey
  obtain ⟨hxid, hxb, hx6⟩ := hkey
  have hfound : (l.findEqual e).isSome := List.find?_isSome.mpr ⟨x, hx, by simp [hid, hxid]⟩
  obtain ⟨y, hy⟩ := Option.isSome_iff_exists.mp hfound
  refine ⟨y, hy, Classical.byContradiction fun hne => ?_⟩
  have hapart := (List.pairwise_map.mp hl).forall (fun _ _ h => KeysApart.symm h) (Subnets.findEqual_mem hy) hx
    fun hyx => hne (hyx ▸ rfl)
  have hp := List.find?_some hy
  simp only [Bool.or_eq_true, Bool.and_eq_true, bne_iff_ne, ne_eq, beq_iff_eq] at hp
  simp only [KeysApart, SubnetSpec.key] at hapart
  rcases hp with (⟨-, hyid⟩ | hyb) | ⟨h6, hy6⟩
  · exact hapart.1 (hyid.trans hxid.symm)
  · exact hapart.2.1 (hyb.symm.trans hxb.symm)
  · exact h6 (hy6.trans (hapart.2.2 (hy6.symm.trans hx6.symm)))

-- ---------------------------------------------------------------------------
-- A pass from a ready world
-- ---------------------------------------------------------------------------

/-- A world from which a pass with an API that fails no call returns nil. -/
structure Ready (s : Service) (w : World) : Prop where
  faultFree : FaultFree w
  ids : w.cloud.subnetIds.Nodup
  apart : ((observedSubnets s w.cloud).map SubnetSpec.key).Pairwise KeysApart
  matched : ∀ e ∈ w.subnets, e.id ≠ "" ∧ ∃ x ∈ observedSubnets s w.cloud, x.key = e.key ∧ x.isPublic = e.isPublic
  hasPrivate : ∃ e ∈ w.subnets, e.isPublic = false
  hasPublic : ∃ e ∈ w.subnets, e.isPublic = true

theorem Ready.matchedEntry_key {s : Service} {w : World} (hw : Ready s w) {e : SubnetSpec} (he : e ∈ w.subnets) :
    matchedEntry (observedSubnets s w.cloud) e ∈ observedSubnets s w.cloud ∧
      (matchedEntry (observedSubnets s w.cloud) e).key = e.key ∧
      (matchedEntry (observedSubnets s w.cloud) e).isPublic = e.isPublic := by
  obtain ⟨hid, x, hx, hkey, hpub⟩ := hw.matched e he
  obtain ⟨y, hy, hyk⟩ := findEqual_of_key hw.apart hx hkey hid
  have hym := Subnets.findEqual_mem hy
  have hrep := Cloud.reports_observed hw.ids s
  have hyx : y.isPublic = x.isPublic := by
    have hsame := hrep y hym
    rw [show y.id = x.id from congrArg Prod.fst hyk, hrep x hx] at hsame
    exact (Option.some.inj hsame).symm
  rw [matchedEntry, hy]
  exact ⟨hym, hyk.trans hkey, hyx.trans hpub⟩

theorem filter_length_pos {l : Subnets} {p : SubnetSpec → Bool} {e : SubnetSpec} (he : e ∈ l) (hp : p e = true) :
    ¬(l.filter p).length < 1 := by
  have := List.length_pos_of_mem (List.mem_filter.mpr ⟨he, hp⟩)
  omega

section
variable {s : Service} (hm : s.scope.vpc.isUnmanaged s.scope.name = false) (hvpc : s.scope.vpc.id ≠ "")
  (hsec : s.scope.secondaryCidrBlock = none)
include hm hvpc hsec

/-- On a managed VPC with an ID and no secondary block, a pass from a ready world returns nil and
leaves a ready world, whose list has the keys and roles of the one it started from. -/
theorem ready_pass {w : World} (hw : Ready s w) :
    ∃ w', reconcileSubnets s w = .ok () w' ∧ Ready s w' ∧
      w'.subnets.map (fun e => (e.key, e.isPublic)) = w.subnets.map (fun e => (e.key, e.isPublic)) := by
  obtain ⟨e₀, he₀, -⟩ := hw.hasPrivate
  obtain ⟨w₁, w₂, hc₁, hf₂, hmatch, hpass⟩ :=
    reconcileSubnets_faultFree hm hsec hw.faultFree (List.ne_nil_of_mem he₀)
  -- the matching loop changes only tags, and observed subnets keep their roles
  have htags : w₂.cloud.untagged = w.cloud.untagged := hc₁ ▸
    ((matchSubnets_inv (G := tagsOnly) (P := fun _ => True) s (fun _ _ _ => tagsOnly_ensure
      (fun _ _ _ _ _ => trivial) _ _) _).of_ok trivial hmatch).1
  have hroles : RolesOf (observedSubnets s w.cloud) w₂ :=
    ((matchSubnets_inv (G := roles) s (fun x hx t => roles_ensure hx s t) _).of_ok
      ⟨hc₁ ▸ hw.ids, hc₁ ▸ Cloud.reports_observed hw.ids s⟩ hmatch).2
  have hkeys := observedSubnets_keys hvpc htags
  have hmapped : (w.subnets.map (matchedEntry (observedSubnets s w.cloud))).map (fun e => (e.key, e.isPublic)) =
      w.subnets.map (fun e => (e.key, e.isPublic)) := by
    rw [List.map_map]
    exact List.map_congr_left fun e he => by
      simp [(hw.matchedEntry_key he).2.1, (hw.matchedEntry_key he).2.2]
  -- the list keeps a private and a public entry, and every entry has an ID
  have hrole : ∀ b, (∃ e ∈ w.subnets, e.isPublic = b) →
      ∃ e ∈ w.subnets.map (matchedEntry (observedSubnets s w.cloud)), e.isPublic = b := fun b ⟨e, he, hb⟩ =>
    ⟨_, List.mem_map_of_mem _ he, (hw.matchedEntry_key he).2.2.trans hb⟩
  have hids : ∀ m ∈ w.subnets.map (matchedEntry (observedSubnets s w.cloud)), m.id ≠ "" := by
    intro m hm'
    obtain ⟨e, he, rfl⟩ := List.mem_map.mp hm'
    rw [show (matchedEntry _ e).id = e.id from congrArg Prod.fst (hw.matchedEntry_key he).2.1]
    exact (hw.matched e he).1
  obtain ⟨p, hp, hpp⟩ := hrole false hw.hasPrivate
  obtain ⟨q, hq, hqq⟩ := hrole true hw.hasPublic
  refine ⟨{ w₂ with subnets := w.subnets.map (matchedEntry (observedSubnets s w.cloud)) }, ?_,
    ⟨hf₂, hroles.1, hkeys ▸ hw.apart, fun m hm' => ⟨hids m hm', ?_⟩, ⟨p, hp, hpp⟩, ⟨q, hq, hqq⟩⟩, hmapped⟩
  · rw [hpass, checkSubnets_false_bind, if_neg, if_neg, runLoop_done (createSubnets_of_ids s hids _)]
    · exact filter_length_pos hq hqq
    · exact filter_length_pos hp (by simpa using hpp)
  · -- the subnet in the entry's place is observed again, with its key and its role
    obtain ⟨e, he, rfl⟩ := List.mem_map.mp hm'
    obtain ⟨hmem, -, -⟩ := hw.matchedEntry_key he
    obtain ⟨x', hx', hkx⟩ := List.mem_map.mp (hkeys ▸ List.mem_map_of_mem SubnetSpec.key hmem)
    refine ⟨x', hx', hkx, ?_⟩
    have hnew := Cloud.reports_observed hroles.1 s x' hx'
    rw [show x'.id = (matchedEntry _ e).id from congrArg Prod.fst hkx, hroles.2 _ hmem] at hnew
    exact (Option.some.inj hnew).symm

theorem Ready.runPasses {w : World} (hw : Ready s w) (n : Nat) : Ready s (runPasses s n w) :=
  runPasses_of (P := Ready s) (fun v hv => by
    obtain ⟨v', h, hv', -⟩ := ready_pass hm hvpc hsec hv
    rwa [after_of_ok h]) n w hw

theorem runPasses_ok_of_first_pass {w w₁ : World} (h₁ : reconcileSubnets s w = .ok () w₁) (hr : Ready s w₁)
    (n : Nat) : ∃ w', reconcileSubnets s (runPasses s n w) = .ok () w' := by
  cases n with
  | zero => exact ⟨w₁, h₁⟩
  | succ n =>
    obtain ⟨w', h, -⟩ := ready_pass hm hvpc hsec (hr.runPasses hm hvpc hsec n)
    exact ⟨w', by rw [runPasses, after_of_ok h₁]; exact h⟩

end

/-- On a managed VPC with an ID and no secondary block, every pass of every run from a ready world
returns nil, and the stored list keeps the keys and the roles of its entries. -/
theorem ready_runPasses_ok (s : Service) (hm : s.scope.vpc.isUnmanaged s.scope.name = false)
    (hvpc : s.scope.vpc.id ≠ "") (hsec : s.scope.secondaryCidrBlock = none) {w : World} (hw : Ready s w)
    (n : Nat) :
    ∃ w', reconcileSubnets s (runPasses s n w) = .ok () w' ∧
      (runPasses s n w).subnets.map (fun e => (e.key, e.isPublic)) = w.subnets.map (fun e => (e.key, e.isPublic)) := by
  induction n generalizing w with
  | zero =>
    obtain ⟨w', h, -⟩ := ready_pass hm hvpc hsec hw
    exact ⟨w', h, rfl⟩
  | succ n ih =>
    obtain ⟨w', h, hw', hmap⟩ := ready_pass hm hvpc hsec hw
    obtain ⟨w'', h'', hmap''⟩ := ih hw'
    rw [runPasses, after_of_ok h]
    exact ⟨w'', h'', hmap''.trans hmap⟩

/-- The public subnet `s-1` and the private subnet `s-2` of `vpc-1`, tagged with their roles, and a
list that stores them. -/
def readyWorld : World where
  cloud := { subnets := [
    { subnetId := "s-1", vpcId := "vpc-1", cidrBlock := "10.0.1.0/24", availabilityZone := "a",
      tags := (∅ : Tags).insert nameAWSClusterAPIRole publicRoleTagValue },
    { subnetId := "s-2", vpcId := "vpc-1", cidrBlock := "10.0.2.0/24", availabilityZone := "a",
      tags := (∅ : Tags).insert nameAWSClusterAPIRole privateRoleTagValue }] }
  subnets := [{ id := "s-1", cidrBlock := "10.0.1.0/24", availabilityZone := "a", isPublic := true },
              { id := "s-2", cidrBlock := "10.0.2.0/24", availabilityZone := "a" }]

theorem readyWorld_ready : Ready ownedVpcService readyWorld :=
  ⟨fun _ => rfl, by decide, by decide, by decide, by decide, by decide⟩

theorem ready_runPasses_ok_readyWorld :
    ownedVpcService.scope.vpc.isUnmanaged ownedVpcService.scope.name = false ∧ ownedVpcService.scope.vpc.id ≠ "" ∧
      ownedVpcService.scope.secondaryCidrBlock = none ∧ Ready ownedVpcService readyWorld ∧
      ∃ w', reconcileSubnets ownedVpcService (runPasses ownedVpcService 3 readyWorld) = .ok () w' ∧
        (runPasses ownedVpcService 3 readyWorld).subnets.map (fun e => (e.key, e.isPublic)) =
          readyWorld.subnets.map (fun e => (e.key, e.isPublic)) :=
  ⟨by decide, by decide, rfl, readyWorld_ready,
    ready_runPasses_ok ownedVpcService (by decide) (by decide) rfl readyWorld_ready 3⟩

-- ---------------------------------------------------------------------------
-- Passes on an unmanaged VPC
-- ---------------------------------------------------------------------------

/-- A world from which a pass on an unmanaged VPC returns nil: the API fails no call, the stored
list is not empty, and an observed subnet equals each of its entries. -/
structure Found (s : Service) (w : World) : Prop where
  faultFree : FaultFree w
  nonempty : w.subnets ≠ []
  found : ∀ e ∈ w.subnets, ((observedSubnets s w.cloud).findEqual e).isSome

theorem findEqual_observed_isSome {s : Service} (hvpc : s.scope.vpc.id ≠ "") {c c' : Cloud}
    (hc : c.untagged = c'.untagged) {x : SubnetSpec} (hx : x ∈ observedSubnets s c) :
    ((observedSubnets s c').findEqual x).isSome := by
  rw [← Option.ne_none_iff_isSome, ne_eq, ← findEqual_eq_none_iff_keys (observedSubnets_keys hvpc hc)]
  intro hnone
  simp only [Subnets.findEqual, List.find?_eq_none] at hnone
  exact hnone x hx (by simp)

theorem found_pass {s : Service} (hu : s.scope.vpc.isUnmanaged s.scope.name = true)
    (hsec : s.scope.secondaryCidrBlock = none) {w : World} (hw : Found s w) :
    ∃ w', reconcileSubnets s w = .ok () w' ∧ w'.cloud.untagged = w.cloud.untagged ∧ Found s w' := by
  obtain ⟨w', h, hf', hun, hsub⟩ := unmanaged_found_pass hu hsec hw.faultFree hw.nonempty hw.found
  refine ⟨w', h, hun, hf', by simpa [hsub] using hw.nonempty, fun m hm => ?_⟩
  rw [hsub] at hm
  obtain ⟨e, he, rfl⟩ := List.mem_map.mp hm
  obtain ⟨x, hx⟩ := Option.isSome_iff_exists.mp (hw.found e he)
  rw [matchedEntry, hx]
  exact findEqual_observed_isSome (VPCSpec.id_ne_of_isUnmanaged hu) hun.symm (Subnets.findEqual_mem hx)

/-- On an unmanaged VPC with no secondary block and an API that fails no call, from a non-empty
stored list every entry of which an observed subnet equals, every pass of every run returns nil. -/
theorem unmanaged_runPasses_ok (s : Service) (hu : s.scope.vpc.isUnmanaged s.scope.name = true)
    (hsec : s.scope.secondaryCidrBlock = none) {w : World} (hf : ∀ n, w.fault n = none)
    (hne : w.subnets ≠ []) (hall : ∀ e ∈ w.subnets, ((observedSubnets s w.cloud).findEqual e).isSome)
    (n : Nat) : ∃ w', reconcileSubnets s (runPasses s n w) = .ok () w' := by
  have hpass : tagsOnly.Inv (Found s) (reconcileSubnets s) := fun v hv => by
    obtain ⟨v', h, hun, hv'⟩ := found_pass hu hsec hv
    rw [after_of_ok h]
    exact ⟨hun, hv'⟩
  obtain ⟨w', h, -⟩ := found_pass hu hsec (runPasses_inv hpass ⟨hf, hne, hall⟩ n).2
  exact ⟨w', h⟩

/-- The subnet `s-1` of `vpc-1` and a declared entry with its block, with an API that fails no
call. -/
def foundSubnetWorld : World := { missingSubnetWorld with subnets := [{ cidrBlock := "10.0.1.0/24" }] }

theorem unmanaged_runPasses_ok_foundSubnetWorld :
    userVpcService.scope.vpc.isUnmanaged userVpcService.scope.name = true ∧
      userVpcService.scope.secondaryCidrBlock = none ∧ (∀ n, foundSubnetWorld.fault n = none) ∧
      foundSubnetWorld.subnets ≠ [] ∧
      (∀ e ∈ foundSubnetWorld.subnets, ((observedSubnets userVpcService foundSubnetWorld.cloud).findEqual e).isSome) ∧
      ∃ w', reconcileSubnets userVpcService (runPasses userVpcService 3 foundSubnetWorld) = .ok () w' :=
  ⟨by decide, rfl, fun _ => rfl, by decide, by decide,
    unmanaged_runPasses_ok userVpcService (by decide) rfl (fun _ => rfl) (by decide) (by decide) 3⟩

end CapaSubnets
