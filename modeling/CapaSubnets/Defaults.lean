import Mathlib.Data.List.Sort
import CapaSubnets.Laws

/-!
# Default subnets

What `getDefaultSubnets` returns, for every list of zones, usage limit and selection scheme: a
public and a private subnet for each selected zone, zone by zone. The zones are the region's
own when there are no more than the limit, and past it a prefix of them shuffled or sorted.

The blocks come from the package `cidr`, which is not in the source; its split functions are
taken as their contracts say. Under them the IPv4 blocks of the subnets are pairwise disjoint
and inside the VPC's block, the IPv6 blocks are pairwise distinct, and `getDefaultSubnets`
never panics: every index it takes is in range.
-/

namespace CapaSubnets

-- ---------------------------------------------------------------------------
-- Selecting the zones
-- ---------------------------------------------------------------------------

theorem sortStrings_sorted (zones : List String) : (sortStrings zones).Sorted (· ≤ ·) :=
  (List.sorted_mergeSort (fun _ _ _ hab hbc => by simpa using le_trans (by simpa using hab) (by simpa using hbc))
    (fun a b => by simpa using le_total a b) zones).imp fun h => by simpa using h

theorem orderZones_perm (s : Service) (zones : List String) : (orderZones s zones).Perm zones := by
  have hshuffle : (if selectionScheme s == azSelectionSchemeRandom then s.shuffle.run zones
      else zones).Perm zones := by
    split
    · exact s.shuffle.perm zones
    · exact List.Perm.refl _
  simp only [orderZones]
  split
  · exact (List.mergeSort_perm _ _).trans hshuffle
  · exact hshuffle

theorem orderZones_ordered {s : Service} (h : selectionScheme s = azSelectionSchemeOrdered)
    (zones : List String) : orderZones s zones = sortStrings zones := by
  simp [orderZones, h, azSelectionSchemeOrdered, azSelectionSchemeRandom]

theorem selectZones_ok {s : Service} {zones zs : List String} {w w' : World}
    (h : selectZones s zones w = .ok zs w') :
    w' = w ∧ (¬maxZones s < zones.length → zs = zones) ∧
      (maxZones s < zones.length → 0 ≤ maxZones s ∧ zs = (orderZones s zones).take (maxZones s).toNat) := by
  unfold selectZones at h
  split at h
  · next hlt =>
    obtain ⟨⟨h0, -⟩, rfl, rfl⟩ := sliceTo_ok.mp h
    exact ⟨rfl, fun hn => absurd hlt hn, fun _ => ⟨h0, rfl⟩⟩
  · next hge =>
    cases h
    exact ⟨rfl, fun _ => rfl, fun hlt => absurd hlt hge⟩

-- ---------------------------------------------------------------------------
-- The loop over the zones
-- ---------------------------------------------------------------------------

theorem zoneSubnets_ok {ipv6 : Bool} {publics privates publicIPv6s privateIPv6s : List String}
    {i : Nat} {zones : List String} {l : Subnets} {w w' : World}
    (h : zoneSubnets ipv6 publics privates publicIPv6s privateIPv6s i zones w = .ok l w') :
    w' = w ∧ (∀ e ∈ l, e.id = "") ∧
      l.map (fun e => (e.availabilityZone, e.isPublic)) =
        zones.flatMap (fun z => [(z, true), (z, false)]) ∧
      l.map (·.cidrBlock) =
        (List.range' i zones.length).flatMap (fun j => [publics.getD j "", privates.getD j ""]) ∧
      (ipv6 = true → l.map (·.ipv6CidrBlock) =
        (List.range' i zones.length).flatMap (fun j => [publicIPv6s.getD j "", privateIPv6s.getD j ""])) := by
  induction zones generalizing i l w with
  | nil =>
    cases h
    simp
  | cons zone zones ih =>
    rw [zoneSubnets] at h
    obtain ⟨pub, w₁, hpub, h⟩ := bind_ok.mp h
    obtain ⟨priv, w₂, hpriv, h⟩ := bind_ok.mp h
    obtain ⟨pair, w₃, hpair, h⟩ := bind_ok.mp h
    obtain ⟨rest, w₄, hrest, h⟩ := bind_ok.mp h
    cases h
    obtain ⟨hpubi, rfl⟩ := index_ok.mp hpub
    obtain ⟨hprivi, rfl⟩ := index_ok.mp hpriv
    obtain ⟨rfl, hids, hzones, hcidrs, hipv6⟩ := ih hrest
    cases ipv6 with
    | false =>
      cases hpair
      refine ⟨rfl, by simpa using hids, by simp [hzones], by simp [List.range'_succ, hcidrs, hpubi, hprivi],
        nofun⟩
    | true =>
      rw [if_pos rfl] at hpair
      obtain ⟨pub6, w₅, hpub6, hpair⟩ := bind_ok.mp hpair
      obtain ⟨priv6, w₆, hpriv6, hpair⟩ := bind_ok.mp hpair
      cases hpair
      obtain ⟨hpub6i, rfl⟩ := index_ok.mp hpub6
      obtain ⟨hpriv6i, rfl⟩ := index_ok.mp hpriv6
      refine ⟨rfl, by simpa using hids, by simp [hzones], by simp [List.range'_succ, hcidrs, hpubi, hprivi],
        fun _ => ?_⟩
      simp [List.range'_succ, hipv6 rfl, hpub6i, hpriv6i]

-- ---------------------------------------------------------------------------
-- A call of getDefaultSubnets
-- ---------------------------------------------------------------------------

theorem getAvailableZones_ok {zones : List String} {w w' : World}
    (h : getAvailableZones w = .ok zones w') :
    zones = w.cloud.availabilityZones ∧ w'.cloud = w.cloud ∧ w'.subnets = w.subnets := by
  obtain ⟨-, rfl, rfl⟩ := issue_ok (adaptExcept_ok.mp h)
  exact ⟨rfl, rfl, rfl⟩

theorem ipv6SubnetCIDRs_ok {s : Service} {numSubnets : Int} {numZones : Nat}
    {r : List String × List String} {w w' : World} (h : ipv6SubnetCIDRs s numSubnets numZones w = .ok r w') :
    w' = w ∧ (s.scope.vpc.ipv6 = none → r = ([], [])) ∧
      ∀ ipv6, s.scope.vpc.ipv6 = some ipv6 → ∃ blocks last,
        s.cidr.splitIntoSubnetsIPv6 ipv6.cidrBlock numSubnets = .ok blocks ∧
        blocks[blocks.length - 1]? = some last ∧
        s.cidr.splitIntoSubnetsIPv6 last numZones = .ok r.1 ∧ r.2 = blocks.drop 1 := by
  cases hv : s.scope.vpc.ipv6 with
  | none =>
    simp only [ipv6SubnetCIDRs, hv] at h
    cases h
    exact ⟨rfl, fun _ => rfl, nofun⟩
  | some ipv6 =>
    simp only [ipv6SubnetCIDRs, hv] at h
    obtain ⟨blocks, w₁, hblocks, h⟩ := bind_ok.mp h
    obtain ⟨last, w₂, hlast, h⟩ := bind_ok.mp h
    obtain ⟨publics, w₃, hpublics, h⟩ := bind_ok.mp h
    cases h
    obtain ⟨hsplit, rfl⟩ := fromExcept_ok.mp (adaptExcept_ok.mp hblocks)
    obtain ⟨hlasti, rfl⟩ := index_ok.mp hlast
    obtain ⟨hsplitp, rfl⟩ := fromExcept_ok.mp (adaptExcept_ok.mp hpublics)
    refine ⟨rfl, nofun, fun ipv6' h => ?_⟩
    cases h
    exact ⟨blocks, last, hsplit, hlasti, hsplitp, rfl⟩

/-- What a `getDefaultSubnets` that returns went through: the zones it selected, the two splits of
each block, and the loop over the zones. -/
theorem getDefaultSubnets_ok {s : Service} {l : Subnets} {w w' : World}
    (h : getDefaultSubnets s w = .ok l w') :
    ∃ zones blocks first publics ipv6 w₁, w₁.cloud = w.cloud ∧
      selectZones s w.cloud.availabilityZones w₁ = .ok zones w₁ ∧
      s.cidr.splitIntoSubnetsIPv4 s.scope.vpc.cidrBlock (zones.length + 1) = .ok blocks ∧
      blocks[0]? = some first ∧
      s.cidr.splitIntoSubnetsIPv4 first zones.length = .ok publics ∧
      ipv6SubnetCIDRs s (zones.length + 1) zones.length w₁ = .ok ipv6 w₁ ∧
      zoneSubnets s.scope.vpc.isIPv6Enabled publics (blocks.drop 1) ipv6.1 ipv6.2 0 zones w₁ = .ok l w' := by
  obtain ⟨all, w₁, hall, h₁⟩ := bind_ok.mp h
  obtain ⟨zones, w₂, hzones, h₂⟩ := bind_ok.mp h₁
  obtain ⟨blocks, w₃, hblocks, h₃⟩ := bind_ok.mp h₂
  obtain ⟨first, w₄, hfirst, h₄⟩ := bind_ok.mp h₃
  obtain ⟨publics, w₅, hpublics, h₅⟩ := bind_ok.mp h₄
  obtain ⟨ipv6, w₆, hipv6, hloop⟩ := bind_ok.mp h₅
  obtain ⟨rfl, hcloud, -⟩ := getAvailableZones_ok hall
  obtain ⟨rfl, -⟩ := selectZones_ok hzones
  obtain ⟨hsplit, rfl⟩ := fromExcept_ok.mp (adaptExcept_ok.mp hblocks)
  obtain ⟨hfirsti, rfl⟩ := index_ok.mp hfirst
  obtain ⟨hsplitp, rfl⟩ := fromExcept_ok.mp (adaptExcept_ok.mp hpublics)
  obtain ⟨rfl, -⟩ := ipv6SubnetCIDRs_ok hipv6
  exact ⟨zones, blocks, first, publics, ipv6, _, hcloud, hzones, hsplit, hfirsti, hsplitp, hipv6, hloop⟩

theorem getDefaultSubnets_ids {s : Service} {l : Subnets} {w w' : World}
    (h : getDefaultSubnets s w = .ok l w') : ∀ e ∈ l, e.id = "" := by
  obtain ⟨_, _, _, _, _, _, _, _, _, _, _, _, hloop⟩ := getDefaultSubnets_ok h
  exact (zoneSubnets_ok hloop).2.1

-- ---------------------------------------------------------------------------
-- The zones of the default subnets
-- ---------------------------------------------------------------------------

theorem selectZones_spec {s : Service} {zones zs : List String} {w w' : World}
    (hnodup : zones.Nodup) (hn : 1 ≤ maxZones s) (h : selectZones s zones w = .ok zs w') :
    (zs.length : Int) = min (zones.length : Int) (maxZones s) ∧ zs.Nodup ∧ zs ⊆ zones ∧
      ((zones.length : Int) ≤ maxZones s → zs = zones) ∧
      (maxZones s < zones.length → selectionScheme s = azSelectionSchemeOrdered →
        zs.Sorted (· < ·) ∧ ∀ z ∈ zones, z ∉ zs → ∀ y ∈ zs, y < z) := by
  obtain ⟨-, hfit, hcut⟩ := selectZones_ok h
  by_cases hlt : maxZones s < zones.length
  · obtain ⟨-, rfl⟩ := hcut hlt
    have hperm := orderZones_perm s zones
    have hlen : ((orderZones s zones).take (maxZones s).toNat).length = (maxZones s).toNat := by
      rw [List.length_take, hperm.length_eq]
      omega
    have hnodup' := hperm.nodup_iff.mpr hnodup
    refine ⟨by omega, (List.take_sublist _ _).nodup hnodup', fun z hz => hperm.subset
      (List.mem_of_mem_take hz), fun hle => absurd hlt (not_lt.mpr hle), fun _ hord => ?_⟩
    rw [orderZones_ordered hord] at hnodup' ⊢
    have hsorted := sortStrings_sorted zones
    refine ⟨List.Sorted.lt_of_le (List.Pairwise.take hsorted) ((List.take_sublist _ _).nodup hnodup'),
      fun z hz hzs y hy => ?_⟩
    have hzd : z ∈ (sortStrings zones).drop (maxZones s).toNat := by
      have hz' : z ∈ sortStrings zones := (List.mergeSort_perm _ _).mem_iff.mpr hz
      rw [← List.take_append_drop (maxZones s).toNat (sortStrings zones)] at hz'
      exact (List.mem_append.mp hz').resolve_left hzs
    exact lt_of_le_of_ne (hsorted.rel_of_mem_take_of_mem_drop hy hzd) fun hyz => hzs (hyz ▸ hy)
  · have := hfit hlt
    subst this
    exact ⟨by omega, hnodup, List.Subset.refl _, fun _ => rfl, fun h => absurd h hlt⟩

/-- A split into numbered blocks, `c#0` to `c#(k-1)`, standing in for the package `cidr`. -/
def numberedSplit : Cidr where
  splitIntoSubnetsIPv4 c k :=
    if 0 ≤ k then .ok ((List.range k.toNat).map fun i => c ++ "#" ++ toString i) else .error "invalid"
  splitIntoSubnetsIPv6 c k :=
    if 0 ≤ k then .ok ((List.range k.toNat).map fun i => c ++ "#" ++ toString i) else .error "invalid"

def keepOrder : Shuffle := ⟨id, fun _ => List.Perm.refl _⟩

/-- A cluster `c` in the VPC `vpc-1`, which it owns. -/
def ownedVpcService : Service where
  scope := { name := "c", kubernetesClusterName := "c",
             vpc := { id := "vpc-1", cidrBlock := "10.0.0.0/16",
                      tags := (∅ : Tags).insert (clusterTagKey "c") resourceLifecycleOwned } }
  cidr := numberedSplit
  shuffle := keepOrder

/-- A region with the zones, an empty cloud, and one declared private subnet in zone `a`. -/
def zonesWorld (zones : List String) : World where
  cloud := { availabilityZones := zones }
  subnets := [{ cidrBlock := "10.0.1.0/24", availabilityZone := "a" }]

/-- A public and a private default for each selected zone, in order: distinct zones of the region,
as many as the limit allows, the least ones when they do not all fit and the scheme is `Ordered`. -/
theorem getDefaultSubnets_zones (s : Service) {l : Subnets} {w w' : World}
    (hnodup : w.cloud.availabilityZones.Nodup) (hn : 1 ≤ maxZones s)
    (h : getDefaultSubnets s w = .ok l w') :
    ∃ zs : List String,
      l.map (fun e => (e.availabilityZone, e.isPublic)) = zs.flatMap (fun z => [(z, true), (z, false)]) ∧
      (zs.length : Int) = min (w.cloud.availabilityZones.length : Int) (maxZones s) ∧ zs.Nodup ∧
      zs ⊆ w.cloud.availabilityZones ∧
      ((w.cloud.availabilityZones.length : Int) ≤ maxZones s → zs = w.cloud.availabilityZones) ∧
      (maxZones s < w.cloud.availabilityZones.length → selectionScheme s = azSelectionSchemeOrdered →
        zs.Sorted (· < ·) ∧ ∀ z ∈ w.cloud.availabilityZones, z ∉ zs → ∀ y ∈ zs, y < z) := by
  obtain ⟨zones, _, _, _, _, _, _, hzones, _, _, _, _, hloop⟩ := getDefaultSubnets_ok h
  exact ⟨zones, (zoneSubnets_ok hloop).2.2.1, selectZones_spec hnodup hn hzones⟩

theorem getDefaultSubnets_zones_twoZones :
    ∃ l w', getDefaultSubnets ownedVpcService (zonesWorld ["b", "a"]) = .ok l w' ∧
      ∃ zs : List String,
        l.map (fun e => (e.availabilityZone, e.isPublic)) = zs.flatMap (fun z => [(z, true), (z, false)]) ∧
        (zs.length : Int) = min ((zonesWorld ["b", "a"]).cloud.availabilityZones.length : Int)
          (maxZones ownedVpcService) ∧ zs.Nodup ∧
        zs ⊆ (zonesWorld ["b", "a"]).cloud.availabilityZones ∧
        (((zonesWorld ["b", "a"]).cloud.availabilityZones.length : Int) ≤ maxZones ownedVpcService →
          zs = (zonesWorld ["b", "a"]).cloud.availabilityZones) ∧
        (maxZones ownedVpcService < (zonesWorld ["b", "a"]).cloud.availabilityZones.length →
          selectionScheme ownedVpcService = azSelectionSchemeOrdered →
          zs.Sorted (· < ·) ∧ ∀ z ∈ (zonesWorld ["b", "a"]).cloud.availabilityZones, z ∉ zs →
            ∀ y ∈ zs, y < z) :=
  ⟨_, _, rfl, getDefaultSubnets_zones ownedVpcService (by decide) (by decide) rfl⟩

-- ---------------------------------------------------------------------------
-- The blocks of the default subnets
-- ---------------------------------------------------------------------------

section Blocks
variable {Addr : Type} (mem : String → Addr → Prop)

/-- Two blocks share no address, for a relation `mem` saying which addresses a block holds. -/
def BlocksDisjoint (b b' : String) : Prop := ∀ a, mem b a → mem b' a → False

def BlockWithin (b c : String) : Prop := ∀ a, mem b a → mem c a

/-- The contract of `cidr.SplitIntoSubnetsIPv4`: `k` blocks, pairwise disjoint, each inside the
block split. -/
structure Cidr.SplitsIPv4 (cidr : Cidr) : Prop where
  split : ∀ c k bs, cidr.splitIntoSubnetsIPv4 c k = .ok bs →
    (bs.length : Int) = k ∧ (∀ b ∈ bs, BlockWithin mem b c) ∧ bs.Pairwise (BlocksDisjoint mem)

variable {mem}

theorem BlocksDisjoint.symm {b b' : String} (h : BlocksDisjoint mem b b') : BlocksDisjoint mem b' b :=
  fun a hb' hb => h a hb hb'

theorem BlockWithin.trans {b b' c : String} (h : BlockWithin mem b b') (h' : BlockWithin mem b' c) :
    BlockWithin mem b c :=
  fun a hb => h' a (h a hb)

theorem BlockWithin.trans_disjoint {b b' c : String} (hw : BlockWithin mem b b')
    (h : BlocksDisjoint mem b' c) : BlocksDisjoint mem b c :=
  fun a hb hc => h a (hw a hb) hc

theorem pairwise_getElem {R : String → String → Prop} {l : List String} (h : l.Pairwise R) {i j : Nat}
    (hij : i < j) (hi : i < l.length) (hj : j < l.length) : R l[i] l[j] :=
  List.pairwise_iff_getElem.mp h i j hi hj hij

theorem zoneBlocks_disjoint {publics blocks : List String} {first : String} {m : Nat}
    (hfirst : blocks[0]? = some first) (hb : blocks.length = m + 1) (hp : publics.length = m)
    (hbd : blocks.Pairwise (BlocksDisjoint mem)) (hpw : ∀ b ∈ publics, BlockWithin mem b first)
    (hpd : publics.Pairwise (BlocksDisjoint mem)) :
    ((List.range' 0 m).flatMap fun j => [publics.getD j "", (blocks.drop 1).getD j ""]).Pairwise
      (BlocksDisjoint mem) := by
  have hpubj : ∀ j (hj : j < m), publics.getD j "" = publics[j] := fun j hj => by
    simp [List.getElem?_eq_getElem (hp ▸ hj)]
  have hprivj : ∀ j (hj : j < m), (blocks.drop 1).getD j "" = blocks[j + 1] := fun j hj => by
    simp [Nat.add_comm 1 j, List.getElem?_eq_getElem (by omega : j + 1 < blocks.length)]
  have hfirst' : blocks[0] = first := by
    simpa [List.getElem?_eq_getElem (by omega : 0 < blocks.length)] using hfirst
  -- a public block is inside the first top-level block, so disjoint from every other one
  have hpub : ∀ j k (hj : j < m) (hk : k < m), BlocksDisjoint mem publics[j] blocks[k + 1] := by
    intro j k hj hk
    have hw : BlockWithin mem publics[j] blocks[0] := hfirst' ▸ hpw _ (List.getElem_mem _)
    exact hw.trans_disjoint (pairwise_getElem hbd (Nat.succ_pos k) (by omega) (by omega))
  rw [List.pairwise_flatMap]
  refine ⟨fun j hj => ?_, (List.pairwise_lt_range' 0 m).imp_of_mem fun {j k} hj hk hjk => ?_⟩
  · have hj : j < m := by simpa using hj
    rw [List.pairwise_pair, hpubj j hj, hprivj j hj]
    exact hpub j j hj hj
  · have hj : j < m := by simpa using hj
    have hk : k < m := by simpa using hk
    simp only [hpubj j hj, hprivj j hj, hpubj k hk, hprivj k hk, List.mem_cons, List.mem_singleton,
      List.not_mem_nil, or_false]
    rintro x (rfl | rfl) y (rfl | rfl)
    · exact pairwise_getElem hpd hjk _ _
    · exact hpub j k hj hk
    · exact (hpub k j hk hj).symm
    · exact pairwise_getElem hbd (by omega) _ _

end Blocks

/-- The contract of `cidr.SplitIntoSubnetsIPv6` the comment of `getDefaultSubnets` relies on:
the blocks whose subnet IDs follow the split block's, `subnetId c + 1` to `subnetId c + k`. -/
structure Cidr.SplitsIPv6 (cidr : Cidr) (subnetId : String → Int) : Prop where
  split : ∀ c k bs, cidr.splitIntoSubnetsIPv6 c k = .ok bs →
    bs.map subnetId = (List.range k.toNat).map fun j : Nat => subnetId c + j + 1

theorem subnetId_getD {subnetId : String → Int} {bs : List String} {n : Nat} {f : Nat → Int}
    (h : bs.map subnetId = (List.range n).map f) {j : Nat} (hj : j < n) :
    subnetId (bs.getD j "") = f j := by
  have h' := congrArg (·[j]?) h
  simp only [List.getElem?_map, List.getElem?_range hj, Option.map_some'] at h'
  obtain ⟨b, hb, hbj⟩ := Option.map_eq_some'.mp h'
  simp [hb, hbj]

theorem zoneIPv6Blocks_nodup {subnetId : String → Int} {c last : String} {blocks publics : List String}
    {m : Nat} (hb : blocks.map subnetId = (List.range (m + 1)).map fun j : Nat => subnetId c + j + 1)
    (hlast : blocks[blocks.length - 1]? = some last)
    (hp : publics.map subnetId = (List.range m).map fun j : Nat => subnetId last + j + 1) :
    ((List.range' 0 m).flatMap fun j => [publics.getD j "", (blocks.drop 1).getD j ""]).Nodup := by
  have hlen : blocks.length = m + 1 := by simpa using congrArg List.length hb
  have hidlast : subnetId last = subnetId c + m + 1 := by
    have := subnetId_getD hb (Nat.lt_succ_self m)
    rw [hlen, Nat.add_sub_cancel] at hlast
    simpa [hlast] using this
  have hpub : ∀ j < m, subnetId (publics.getD j "") = subnetId c + m + 2 + j := fun j hj => by
    rw [subnetId_getD hp hj, hidlast]
    omega
  have hpriv : ∀ j < m, subnetId ((blocks.drop 1).getD j "") = subnetId c + j + 2 := fun j hj => by
    have := subnetId_getD hb (by omega : j + 1 < m + 1)
    simp only [List.getD_eq_getElem?_getD, List.getElem?_drop] at this ⊢
    rw [Nat.add_comm 1 j, this]
    omega
  -- blocks with different subnet IDs differ
  have hne : ∀ {x y : String}, subnetId x ≠ subnetId y → x ≠ y := fun h hxy => h (hxy ▸ rfl)
  rw [List.Nodup, List.pairwise_flatMap]
  refine ⟨fun j hj => ?_, (List.pairwise_lt_range' 0 m).imp_of_mem fun {j k} hj hk hjk => ?_⟩
  · have hj : j < m := by simpa using hj
    rw [List.pairwise_pair]
    exact hne (by rw [hpub j hj, hpriv j hj]; omega)
  · have hj : j < m := by simpa using hj
    have hk : k < m := by simpa using hk
    simp only [List.mem_cons, List.mem_singleton, List.not_mem_nil, or_false]
    rintro x (rfl | rfl) y (rfl | rfl) <;> apply hne
    · rw [hpub j hj, hpub k hk]; omega
    · rw [hpub j hj, hpriv k hk]; omega
    · rw [hpriv j hj, hpub k hk]; omega
    · rw [hpriv j hj, hpriv k hk]; omega

def dottedBlock (c : String) (j : Nat) : String := c ++ String.mk (List.replicate j '.' ++ [']'])

/-- A split of `c` into its first `k` dotted blocks: a block holds the addresses it is a prefix
of, and its subnet ID is its length. -/
def dottedSplit : Cidr where
  splitIntoSubnetsIPv4 c k := if 0 ≤ k then .ok ((List.range k.toNat).map (dottedBlock c)) else .error "invalid"
  splitIntoSubnetsIPv6 c k := if 0 ≤ k then .ok ((List.range k.toNat).map (dottedBlock c)) else .error "invalid"

theorem dottedBlock_data (c : String) (j : Nat) :
    (dottedBlock c j).data = c.data ++ (List.replicate j '.' ++ [']']) := rfl

theorem dots_not_prefix {i j : Nat} (h : i < j) :
    ¬List.replicate i '.' ++ [']'] <+: List.replicate j '.' ++ [']'] := by
  intro hp
  rw [List.prefix_iff_eq_take, List.length_append, List.length_replicate, List.length_singleton,
    List.take_append_of_le_length (by simp; omega), List.take_replicate, Nat.min_eq_left (by omega),
    List.replicate_succ'] at hp
  simp at hp

theorem dottedBlock_disjoint {c : String} {i j : Nat} (h : i ≠ j) :
    BlocksDisjoint (fun b (a : List Char) => b.data <+: a) (dottedBlock c i) (dottedBlock c j) := by
  intro a hi hj
  rcases Nat.lt_or_gt_of_ne h with hlt | hlt
  · have := List.prefix_of_prefix_length_le hi hj (by simp [dottedBlock_data]; omega)
    rw [dottedBlock_data, dottedBlock_data, List.prefix_append_right_inj] at this
    exact dots_not_prefix hlt this
  · have := List.prefix_of_prefix_length_le hj hi (by simp [dottedBlock_data]; omega)
    rw [dottedBlock_data, dottedBlock_data, List.prefix_append_right_inj] at this
    exact dots_not_prefix hlt this

theorem dottedSplit_splitsIPv4 : dottedSplit.SplitsIPv4 fun b (a : List Char) => b.data <+: a := by
  constructor
  intro c k bs h
  simp only [dottedSplit] at h
  split at h
  · cases h
    refine ⟨by simp; omega, fun b hb a ha => ?_, List.pairwise_map.mpr ((List.nodup_range _).imp dottedBlock_disjoint)⟩
    obtain ⟨j, -, rfl⟩ := List.mem_map.mp hb
    exact (List.prefix_append _ _).trans (dottedBlock_data c j ▸ ha)
  · cases h

theorem dottedSplit_splitsIPv6 : dottedSplit.SplitsIPv6 fun b => (b.length : Int) := by
  constructor
  intro c k bs h
  simp only [dottedSplit] at h
  split at h
  · cases h
    simp only [List.map_map, Function.comp_def]
    refine List.map_congr_left fun j _ => ?_
    simp [dottedBlock]
    omega
  · cases h

/-- The cluster of `ownedVpcService` in a VPC with an IPv6 block, its blocks split by
`dottedSplit`. -/
def dottedService : Service :=
  { ownedVpcService with
    scope := { ownedVpcService.scope with
               vpc := { ownedVpcService.scope.vpc with ipv6 := some ⟨"2001:db8::/56"⟩ } }
    cidr := dottedSplit }

/-- Under the split contracts, the defaults have pairwise disjoint IPv4 blocks inside the VPC's
block and, with IPv6, pairwise distinct IPv6 blocks. -/
theorem getDefaultSubnets_blocks (s : Service) {Addr : Type} (mem : String → Addr → Prop)
    (subnetId : String → Int) (h4 : s.cidr.SplitsIPv4 mem) (h6 : s.cidr.SplitsIPv6 subnetId)
    {l : Subnets} {w w' : World} (h : getDefaultSubnets s w = .ok l w') :
    (l.map (·.cidrBlock)).Pairwise (BlocksDisjoint mem) ∧
      (∀ e ∈ l, BlockWithin mem e.cidrBlock s.scope.vpc.cidrBlock) ∧
      (s.scope.vpc.isIPv6Enabled = true → (l.map (·.ipv6CidrBlock)).Nodup) := by
  obtain ⟨zones, blocks, first, publics, ipv6, w₁, -, -, hblocks, hfirst, hpublics, hipv6, hloop⟩ :=
    getDefaultSubnets_ok h
  obtain ⟨-, -, -, hcidrs, hipv6s⟩ := zoneSubnets_ok hloop
  obtain ⟨hb, hbw, hbd⟩ := h4.split _ _ _ hblocks
  obtain ⟨hp, hpw, hpd⟩ := h4.split _ _ _ hpublics
  have hb' : blocks.length = zones.length + 1 := by omega
  have hp' : publics.length = zones.length := by omega
  refine ⟨hcidrs ▸ zoneBlocks_disjoint hfirst hb' hp' hbd hpw hpd, fun e he => ?_, fun hv => ?_⟩
  · -- a block of the loop is a public block inside the first top-level block, or a top-level one
    have he' := hcidrs ▸ List.mem_map_of_mem (fun e : SubnetSpec => e.cidrBlock) he
    simp only [List.mem_flatMap, List.mem_range'_1, List.mem_cons, List.mem_singleton,
      List.not_mem_nil, or_false] at he'
    obtain ⟨j, ⟨-, hj⟩, hx | hx⟩ := he'
    · have hjp : j < publics.length := by omega
      rw [hx, List.getD_eq_getElem?_getD, List.getElem?_eq_getElem hjp, Option.getD_some]
      exact (hpw _ (List.getElem_mem _)).trans (hbw _ (List.getElem?_mem hfirst))
    · have hjb : 1 + j < blocks.length := by omega
      rw [hx, List.getD_eq_getElem?_getD, List.getElem?_drop, List.getElem?_eq_getElem hjb,
        Option.getD_some]
      exact hbw _ (List.getElem_mem _)
  · obtain ⟨v6, hv6⟩ := Option.isSome_iff_exists.mp hv
    obtain ⟨b6, last, hb6, hlast, hpub6, hpriv6⟩ := (ipv6SubnetCIDRs_ok hipv6).2.2 v6 hv6
    have hb6' := h6.split _ _ _ hb6
    have hpub6' := h6.split _ _ _ hpub6
    rw [show ((zones.length : Int) + 1).toNat = zones.length + 1 by omega] at hb6'
    rw [Int.toNat_ofNat] at hpub6'
    rw [hipv6s hv, hpriv6]
    exact zoneIPv6Blocks_nodup hb6' hlast hpub6'

theorem getDefaultSubnets_blocks_dottedService :
    ∃ l w', getDefaultSubnets dottedService (zonesWorld ["b", "a"]) = .ok l w' ∧
      (l.map (·.cidrBlock)).Pairwise (BlocksDisjoint fun b (a : List Char) => b.data <+: a) ∧
      (∀ e ∈ l, BlockWithin (fun b (a : List Char) => b.data <+: a) e.cidrBlock
        dottedService.scope.vpc.cidrBlock) ∧
      (dottedService.scope.vpc.isIPv6Enabled = true → (l.map (·.ipv6CidrBlock)).Nodup) :=
  ⟨_, _, rfl, @getDefaultSubnets_blocks dottedService _ _ (fun b => (b.length : Int)) dottedSplit_splitsIPv4
    dottedSplit_splitsIPv6 _ (zonesWorld ["b", "a"]) _ rfl⟩

-- ---------------------------------------------------------------------------
-- No panic in getDefaultSubnets
-- ---------------------------------------------------------------------------

/-- `x` raises no Go panic: every fault it ends with is an error value. -/
def NoPanic {α : Type} (x : Ec2 α) : Prop := ∀ w e w', x w = .error e w' → e.isPanic = false

namespace NoPanic

variable {α β : Type} {x y : Ec2 α}

theorem pure (a : α) : NoPanic (Pure.pure a : Ec2 α) := fun _ _ _ h => by cases h

theorem issue (call : Call) (effect : Cloud → α × Cloud) : NoPanic (CapaSubnets.issue call effect) :=
  fun _ _ _ h => by
    obtain ⟨⟨_, -, rfl⟩, -⟩ := issue_error h
    rfl

theorem fromExcept (e : Except String α) : NoPanic (CapaSubnets.fromExcept e) := by
  intro _ _ _ h
  cases e <;> cases h
  rfl

theorem wrap (context : String) (hx : NoPanic x) : NoPanic (EStateM.adaptExcept (Fault.wrap context) x) := by
  intro w e w' h
  rw [adaptExcept_apply] at h
  cases hxw : x w with
  | ok => rw [hxw] at h; cases h
  | error e' w'' =>
    rw [hxw] at h
    cases h
    simpa using hx _ _ _ hxw

theorem index {xs : List α} {i : Nat} (h : i < xs.length) : NoPanic (CapaSubnets.index xs i) :=
  fun _ _ _ he => by simp [CapaSubnets.index, List.getElem?_eq_getElem h] at he

theorem sliceTo {xs : List α} {n : Int} (h : 0 ≤ n ∧ n ≤ xs.length) : NoPanic (CapaSubnets.sliceTo xs n) :=
  fun _ _ _ he => by simp [CapaSubnets.sliceTo, h] at he

theorem ite {c : Prop} [Decidable c] (hx : c → NoPanic x) (hy : ¬c → NoPanic y) :
    NoPanic (if c then x else y) := by
  by_cases hc : c
  · simpa [hc] using hx hc
  · simpa [hc] using hy hc

theorem bind_of {f : α → Ec2 β} {R : α → Prop} (hx : NoPanic x) (hr : ∀ w a w', x w = .ok a w' → R a)
    (hf : ∀ a, R a → NoPanic (f a)) : NoPanic (x >>= f) := by
  intro w e w' h
  rw [bind_apply] at h
  cases hxw : x w with
  | ok a w₁ =>
    rw [hxw] at h
    exact hf a (hr w a w₁ hxw) _ _ _ h
  | error e' w₁ =>
    rw [hxw] at h
    cases h
    exact hx _ _ _ hxw

theorem bind {f : α → Ec2 β} (hx : NoPanic x) (hf : ∀ a, NoPanic (f a)) : NoPanic (x >>= f) :=
  bind_of hx (R := fun _ => True) (fun _ _ _ _ => trivial) fun a _ => hf a

end NoPanic

/-- The part of the contracts of the package `cidr` the indexes of `getDefaultSubnets` rely on:
a split into `k` blocks that succeeds gives `k` blocks. -/
structure Cidr.SplitsExactly (cidr : Cidr) : Prop where
  ipv4 : ∀ c k bs, cidr.splitIntoSubnetsIPv4 c k = .ok bs → (bs.length : Int) = k
  ipv6 : ∀ c k bs, cidr.splitIntoSubnetsIPv6 c k = .ok bs → (bs.length : Int) = k

theorem split_length {split : String → Int → Except String (List String)}
    (hsplit : ∀ c k bs, split c k = .ok bs → (bs.length : Int) = k) {context c : String} {k : Int}
    {w w' : World} {bs : List String}
    (h : EStateM.adaptExcept (Fault.wrap context) (fromExcept (split c k)) w = .ok bs w') :
    (bs.length : Int) = k :=
  hsplit c k bs (fromExcept_ok.mp (adaptExcept_ok.mp h)).1

theorem numberedSplit_splitsExactly : numberedSplit.SplitsExactly := by
  have h : ∀ c k bs, (if 0 ≤ k then Except.ok ((List.range k.toNat).map fun i => c ++ "#" ++ toString i)
      else .error "invalid" : Except String (List String)) = .ok bs → (bs.length : Int) = k := by
    intro c k bs h
    split at h
    · cases h
      simp only [List.length_map, List.length_range]
      omega
    · cases h
  exact ⟨h, h⟩

theorem selectZones_noPanic {s : Service} (hn : 0 ≤ maxZones s) (zones : List String) :
    NoPanic (selectZones s zones) :=
  NoPanic.ite (fun hlt => NoPanic.sliceTo ⟨hn, by rw [(orderZones_perm s zones).length_eq]; omega⟩)
    fun _ => .pure _

theorem zoneSubnets_noPanic {ipv6 : Bool} {publics privates publicIPv6s privateIPv6s : List String}
    {i : Nat} {zones : List String} (hp : i + zones.length ≤ publics.length)
    (hq : i + zones.length ≤ privates.length)
    (h6 : ipv6 = true → i + zones.length ≤ publicIPv6s.length ∧ i + zones.length ≤ privateIPv6s.length) :
    NoPanic (zoneSubnets ipv6 publics privates publicIPv6s privateIPv6s i zones) := by
  induction zones generalizing i with
  | nil => exact .pure _
  | cons zone zones ih =>
    simp only [List.length_cons] at hp hq h6
    rw [zoneSubnets]
    refine (NoPanic.index (by omega)).bind fun _ => (NoPanic.index (by omega)).bind fun _ =>
      (NoPanic.ite (fun h => ?_) fun _ => .pure _).bind fun _ =>
        (ih (by omega) (by omega) fun h => ⟨by have := h6 h; omega, by have := h6 h; omega⟩).bind
          fun _ => .pure _
    exact (NoPanic.index (by have := h6 h; omega)).bind fun _ =>
      (NoPanic.index (by have := h6 h; omega)).bind fun _ => .pure _

theorem ipv6SubnetCIDRs_noPanic {s : Service} (hsplit : s.cidr.SplitsExactly) {numZones : Nat} :
    NoPanic (ipv6SubnetCIDRs s (numZones + 1) numZones) := by
  unfold ipv6SubnetCIDRs
  split
  · exact .pure _
  · refine (NoPanic.wrap _ (NoPanic.fromExcept _)).bind_of (fun _ _ _ h => split_length hsplit.ipv6 h)
      fun blocks hb => ?_
    exact (NoPanic.index (by omega)).bind fun _ => (NoPanic.wrap _ (NoPanic.fromExcept _)).bind
      fun _ => .pure _

theorem ipv6SubnetCIDRs_lengths {s : Service} (hsplit : s.cidr.SplitsExactly) {numZones : Nat}
    {r : List String × List String} {w w' : World}
    (h : ipv6SubnetCIDRs s (numZones + 1) numZones w = .ok r w') (hv : s.scope.vpc.isIPv6Enabled = true) :
    r.1.length = numZones ∧ r.2.length = numZones := by
  obtain ⟨v6, hv6⟩ := Option.isSome_iff_exists.mp hv
  obtain ⟨blocks, last, hblocks, -, hpublics, hprivates⟩ := (ipv6SubnetCIDRs_ok h).2.2 v6 hv6
  have hb := hsplit.ipv6 _ _ _ hblocks
  have hp := hsplit.ipv6 _ _ _ hpublics
  rw [hprivates, List.length_drop]
  omega

/-- With the split functions giving as many blocks as asked for and a usage limit that is not
negative, `getDefaultSubnets` never panics: every index and slice it takes is in range. -/
theorem getDefaultSubnets_never_panics (s : Service) (hsplit : s.cidr.SplitsExactly)
    (hn : 0 ≤ maxZones s) : NoPanic (getDefaultSubnets s) := by
  unfold getDefaultSubnets
  refine (NoPanic.wrap _ (NoPanic.issue _ _)).bind fun _ => (selectZones_noPanic hn _).bind fun zones => ?_
  refine (NoPanic.wrap _ (NoPanic.fromExcept _)).bind_of (fun _ _ _ h => split_length hsplit.ipv4 h)
    fun blocks hb => (NoPanic.index (by omega)).bind fun _ => ?_
  refine (NoPanic.wrap _ (NoPanic.fromExcept _)).bind_of (fun _ _ _ h => split_length hsplit.ipv4 h)
    fun publics hp => ?_
  refine ipv6SubnetCIDRs_noPanic hsplit |>.bind_of (fun _ _ _ h => ipv6SubnetCIDRs_lengths hsplit h)
    fun ipv6 h6 => zoneSubnets_noPanic (by omega) (by simp; omega) fun hv => ?_
  have := h6 hv
  omega

theorem getDefaultSubnets_never_panics_ownedVpcService :
    ownedVpcService.cidr.SplitsExactly ∧ 0 ≤ maxZones ownedVpcService ∧
      NoPanic (getDefaultSubnets ownedVpcService) :=
  ⟨numberedSplit_splitsExactly, by decide,
    getDefaultSubnets_never_panics ownedVpcService numberedSplit_splitsExactly (by decide)⟩

end CapaSubnets
