import CapaSubnets.Loops

/-!
# A pass that returns

What a pass of `reconcileSubnets` that returns nil went through, stage by stage, and, on a
managed VPC, where each entry of the list it stores comes from: a subnet it observed when it
started, a subnet it created, or an entry of the list it started from that has an ID no observed
subnet has. The last kind is why an entry can carry the ID of a subnet that is no longer in the
cloud: the creation loop creates only entries with no ID.

Every entry it stores as observed or created has lost the tags it was declared with: an observed
subnet carries the tags it had before the pass wrote its own, and `createSubnet` returns a spec
with no tags.
-/

namespace CapaSubnets

/-- The stages a pass that returns went through: the defaults, the secondary entries appended, the
matching loop, the checks and, on a managed VPC, the creation loop. -/
theorem reconcileSubnets_ok {s : Service} {w w' : World} (h : reconcileSubnets s w = .ok () w') :
    ∃ (l₁ extra l₃ : Subnets) (exit : Exit) (w₁ w₃ : World),
      (l₁ = w.subnets ∨
        (w.subnets = [] ∧ s.scope.vpc.isUnmanaged s.scope.name = false ∧ ∀ e ∈ l₁, e.id = "")) ∧
      (∀ e ∈ extra, SecondaryEntry s (observedSubnets s w.cloud) e) ∧
      (∀ sec limit blocks, s.scope.secondaryCidrBlock = some sec →
        s.scope.vpc.availabilityZoneUsageLimit = some limit → s.cidr.splitIntoSubnetsIPv4 sec limit = .ok blocks →
        ∀ b ∈ blocks, (∃ x ∈ observedSubnets s w.cloud, x.cidrBlock = b) ∨ ∃ e ∈ extra, e.cidrBlock = b) ∧
      matchSubnets s (s.scope.vpc.isUnmanaged s.scope.name) (observedSubnets s w.cloud) (l₁ ++ extra) w₁ =
        .ok (l₃, exit) w₃ ∧ (∀ e, exit ≠ .failed e) ∧
      (s.scope.vpc.isUnmanaged s.scope.name = false →
        (∃ e ∈ l₃, e.isPublic = false) ∧ ∃ e ∈ l₃, e.isPublic = true) ∧
      ((s.scope.vpc.isUnmanaged s.scope.name = true ∧ w'.subnets = l₃) ∨
        (s.scope.vpc.isUnmanaged s.scope.name = false ∧ ∃ exit' w₄,
          createSubnets s l₃ { w₃ with subnets := l₃ } = .ok (w'.subnets, exit') w₄ ∧
          (∀ e, exit' ≠ .failed e) ∧ w'.cloud = w₄.cloud)) := by
  rw [reconcileSubnets_eq] at h
  obtain ⟨ex, w₂, hobs, h₄⟩ := bind_ok.mp h
  obtain ⟨rfl, -, hdef⟩ := observeStage_ok hobs
  obtain ⟨_, w₄, hsec, h₅⟩ := bind_ok.mp h₄
  obtain ⟨_, w₅, hmatch, h₆⟩ := bind_ok.mp h₅
  obtain ⟨_, w₆, hcheck, h₇⟩ := bind_ok.mp h₆
  obtain ⟨-, extra, hs₄, hextra, hblocks⟩ := appendSecondary_ok hsec
  obtain ⟨l₃, exit, w₅, hloop, hexit, rfl⟩ := runLoop_ok hmatch
  obtain ⟨rfl, hchk, -⟩ := checkSubnets_ok hcheck
  rw [hs₄] at hloop
  refine ⟨w₂.subnets, extra, l₃, exit, _, w₅, hdef, hextra, hblocks, hloop, hexit, hchk, ?_⟩
  cases hu : s.scope.vpc.isUnmanaged s.scope.name with
  | false =>
    simp only [hu, Bool.not_false, if_true] at h₇
    obtain ⟨l₄, exit', w₇, hcreate, hexit', rfl⟩ := runLoop_ok h₇
    exact .inr ⟨rfl, exit', w₇, hcreate, hexit', rfl⟩
  | true =>
    simp only [hu, Bool.not_true, Bool.false_eq_true, if_false] at h₇
    cases h₇
    exact .inl ⟨rfl, rfl⟩

theorem forall₂_exists_left {α β : Type} {R : α → β → Prop} {l : List α} {l' : List β}
    (h : List.Forall₂ R l l') {b : β} (hb : b ∈ l') : ∃ a ∈ l, R a b := by
  induction h with
  | nil => cases hb
  | cons hr _ ih =>
    rcases List.mem_cons.mp hb with rfl | hb
    · exact ⟨_, List.mem_cons_self _ _, hr⟩
    · obtain ⟨a, ha, hra⟩ := ih hb
      exact ⟨a, List.mem_cons_of_mem _ ha, hra⟩

theorem forall₂_exists_right {α β : Type} {R : α → β → Prop} {l : List α} {l' : List β}
    (h : List.Forall₂ R l l') {a : α} (ha : a ∈ l) : ∃ b ∈ l', R a b := by
  induction h with
  | nil => cases ha
  | cons hr _ ih =>
    rcases List.mem_cons.mp ha with rfl | ha
    · exact ⟨_, List.mem_cons_self _ _, hr⟩
    · obtain ⟨b, hb, hrb⟩ := ih ha
      exact ⟨b, List.mem_cons_of_mem _ hb, hrb⟩

/-- Where an entry of the list a successful pass from `w` to `w'` on a managed VPC stores comes
from. -/
inductive Persisted (s : Service) (w w' : World) (e : SubnetSpec) : Prop
  /-- A subnet the pass observed when it started, with the tags it had then. -/
  | observed : e ∈ observedSubnets s w.cloud → Persisted s w w' e
  /-- A subnet the pass created: in the cloud, and with no tags in its spec. -/
  | created : e.id ∈ w'.cloud.subnetIds → e.tags = ∅ → Persisted s w w' e
  /-- An entry of the list the pass started from, with an ID that no observed subnet has. -/
  | stale : e ∈ w.subnets → e.id ≠ "" → (observedSubnets s w.cloud).findEqual e = none →
      Persisted s w w' e

theorem reconcileSubnets_ok_loops {s : Service} (hm : s.scope.vpc.isUnmanaged s.scope.name = false)
    {w w' : World} (h : reconcileSubnets s w = .ok () w') :
    ∃ (l₁ extra : Subnets) (w₃ w₄ : World),
      (l₁ = w.subnets ∨ (w.subnets = [] ∧ ∀ e ∈ l₁, e.id = "")) ∧
      (∀ e ∈ extra, SecondaryEntry s (observedSubnets s w.cloud) e) ∧
      (∀ sec limit blocks, s.scope.secondaryCidrBlock = some sec →
        s.scope.vpc.availabilityZoneUsageLimit = some limit → s.cidr.splitIntoSubnetsIPv4 sec limit = .ok blocks →
        ∀ b ∈ blocks, (∃ x ∈ observedSubnets s w.cloud, x.cidrBlock = b) ∨ ∃ e ∈ extra, e.cidrBlock = b) ∧
      ((∃ e ∈ (l₁ ++ extra).map (matchedEntry (observedSubnets s w.cloud)), e.isPublic = false) ∧
        ∃ e ∈ (l₁ ++ extra).map (matchedEntry (observedSubnets s w.cloud)), e.isPublic = true) ∧
      createSubnets s ((l₁ ++ extra).map (matchedEntry (observedSubnets s w.cloud))) w₃ =
        .ok (w'.subnets, .done) w₄ ∧ w'.cloud = w₄.cloud := by
  obtain ⟨l₁, extra, l₃, exit, w₁, w₃, hdef, hextra, hblocks, hloop, hexit, hchk, hlast⟩ :=
    reconcileSubnets_ok h
  rw [hm] at hloop
  obtain ⟨k, -, hl₃, -, hdone, hbroke⟩ := matchSubnets_ok hloop
  -- on a managed VPC the matching loop ran to the end
  have hk : k = (l₁ ++ extra).length := by
    cases exit with
    | done => exact hdone rfl
    | broke => exact absurd (hbroke rfl).1 (by simp)
    | failed e => exact absurd rfl (hexit e)
  subst hk
  rw [List.take_length, List.drop_length, List.append_nil] at hl₃
  subst hl₃
  rcases hlast with ⟨hu, -⟩ | ⟨-, exit', w₄, hcreate, hexit', hcloud⟩
  · simp [hm] at hu
  -- and so did the creation loop
  have hdone' : exit' = .done := by
    cases exit' with
    | done => rfl
    | broke => exact absurd rfl (createSubnets_not_broke hcreate)
    | failed e => exact absurd rfl (hexit' e)
  subst hdone'
  refine ⟨l₁, extra, _, w₄, hdef.imp_right fun ⟨hnil, _, hids⟩ => ⟨hnil, hids⟩, hextra, hblocks,
    hchk hm, hcreate, hcloud⟩

theorem reconcileSubnets_ok_managed {s : Service} (hm : s.scope.vpc.isUnmanaged s.scope.name = false)
    {w w' : World} (h : reconcileSubnets s w = .ok () w') :
    (∀ e ∈ w'.subnets, Persisted s w w' e) ∧ (∃ e ∈ w'.subnets, e.isPublic = false) ∧
      ∃ e ∈ w'.subnets, e.isPublic = true := by
  obtain ⟨l₁, extra, w₃, w₄, hdef, hextra, -, ⟨hpriv, hpub⟩, hcreate, hcloud⟩ :=
    reconcileSubnets_ok_loops hm h
  have hcreated := createSubnets_ok hcreate
  rw [← hcloud] at hcreated
  refine ⟨fun e he => ?_, ?_, ?_⟩
  · obtain ⟨a, ha, hae⟩ := forall₂_exists_left hcreated he
    cases hae with
    | made _ _ ht hattr => exact .created (Cloud.attributes_isSome.mp (by simp [hattr])) ht
    | kept hid =>
      obtain ⟨x, hx, rfl⟩ := List.mem_map.mp ha
      cases hfx : (observedSubnets s w.cloud).findEqual x with
      | some y =>
        rw [matchedEntry, hfx]
        exact .observed (Subnets.findEqual_mem hfx)
      | none =>
        rw [matchedEntry, hfx] at hid ⊢
        rcases List.mem_append.mp hx with hx | hx
        · rcases hdef with rfl | ⟨-, hids⟩
          · exact .stale hx hid hfx
          · exact absurd (hids x hx) hid
        · exact absurd (hextra x hx).noId hid
  · obtain ⟨e, he, hp⟩ := hpriv
    obtain ⟨e', he', hre⟩ := forall₂_exists_right hcreated he
    exact ⟨e', he', hre.isPublic.trans hp⟩
  · obtain ⟨e, he, hp⟩ := hpub
    obtain ⟨e', he', hre⟩ := forall₂_exists_right hcreated he
    exact ⟨e', he', hre.isPublic.trans hp⟩

/-- On a managed VPC, a successful pass stores a public and a private entry, with IDs in the cloud
it leaves but for starting entries with an ID no observed subnet has, stored as they were. -/
theorem reconcileSubnets_ok_ids (s : Service) (hm : s.scope.vpc.isUnmanaged s.scope.name = false)
    {w w' : World} (h : reconcileSubnets s w = .ok () w') :
    (∀ e ∈ w'.subnets, e.id ∈ w'.cloud.subnetIds ∨
      (e ∈ w.subnets ∧ e.id ≠ "" ∧ (observedSubnets s w.cloud).findEqual e = none)) ∧
      (∃ e ∈ w'.subnets, e.isPublic = true) ∧ ∃ e ∈ w'.subnets, e.isPublic = false := by
  obtain ⟨hprov, hpriv, hpub⟩ := reconcileSubnets_ok_managed hm h
  have hkeeps : w.cloud.Keeps (fun _ => True) w'.cloud := by
    simpa [after_of_ok h] using (keeps_reconcileSubnets s (p := fun _ => True) w trivial).1
  refine ⟨fun e he => ?_, hpub, hpriv⟩
  cases hprov e he with
  | observed hobs => exact .inl (hkeeps.mem (observedSubnets_id_mem hobs) trivial)
  | created hid _ => exact .inl hid
  | stale hmem hid hnone => exact .inr ⟨hmem, hid, hnone⟩

-- ---------------------------------------------------------------------------
-- Passes on a managed VPC
-- ---------------------------------------------------------------------------

/-- An empty cloud, and a declared public subnet that carries the ID of a subnet that is gone. -/
def staleIdWorld : World where
  cloud := {}
  subnets := [{ id := "subnet-stale", cidrBlock := "10.0.1.0/24", availabilityZone := "a", isPublic := true },
              { cidrBlock := "10.0.2.0/24", availabilityZone := "a" }]

theorem staleIdWorld_pass :
    reconcileSubnets ownedVpcService staleIdWorld = .ok () (after (reconcileSubnets ownedVpcService) staleIdWorld) :=
  rfl

theorem reconcileSubnets_ok_ids_staleIdWorld :
    (∀ e ∈ (after (reconcileSubnets ownedVpcService) staleIdWorld).subnets,
      e.id ∈ (after (reconcileSubnets ownedVpcService) staleIdWorld).cloud.subnetIds ∨
      (e ∈ staleIdWorld.subnets ∧ e.id ≠ "" ∧
        (observedSubnets ownedVpcService staleIdWorld.cloud).findEqual e = none)) ∧
      (∃ e ∈ (after (reconcileSubnets ownedVpcService) staleIdWorld).subnets, e.isPublic = true) ∧
      ∃ e ∈ (after (reconcileSubnets ownedVpcService) staleIdWorld).subnets, e.isPublic = false :=
  reconcileSubnets_ok_ids ownedVpcService (by decide) staleIdWorld_pass

/-- The pass returns nil and stores the entry with the ID of the subnet that is gone, which is
not in the cloud it leaves. -/
theorem staleIdWorld_stores_missing_id :
    reconcileSubnets ownedVpcService staleIdWorld =
      .ok () (after (reconcileSubnets ownedVpcService) staleIdWorld) ∧
    ∃ e ∈ (after (reconcileSubnets ownedVpcService) staleIdWorld).subnets,
      e.id ∉ (after (reconcileSubnets ownedVpcService) staleIdWorld).cloud.subnetIds :=
  ⟨staleIdWorld_pass, by decide⟩

/-- On a managed VPC, a successful pass stores for an entry the tags its subnet had when the pass
started, none for a subnet it created, or the entry's own when no observed subnet equals it. -/
theorem reconcileSubnets_ok_tags (s : Service) (hm : s.scope.vpc.isUnmanaged s.scope.name = false)
    {w w' : World} (h : reconcileSubnets s w = .ok () w') :
    ∀ e ∈ w'.subnets, (∃ sn ∈ w.cloud.subnets, e.tags = sn.tags) ∨ e.tags = ∅ ∨
      (e ∈ w.subnets ∧ (observedSubnets s w.cloud).findEqual e = none) := by
  intro e he
  cases (reconcileSubnets_ok_managed hm h).1 e he with
  | observed hobs =>
    obtain ⟨sn, hsn, rfl⟩ := List.mem_map.mp hobs
    exact .inl ⟨sn, (List.mem_filter.mp hsn).1, subnetSpecOf_tags _ _ _⟩
  | created _ ht => exact .inr (.inl ht)
  | stale hmem _ hnone => exact .inr (.inr ⟨hmem, hnone⟩)

/-- An empty cloud, and a declared public subnet with a `Name` tag. -/
def nameTagWorld : World where
  cloud := {}
  subnets := [{ cidrBlock := "10.0.1.0/24", availabilityZone := "a", isPublic := true,
                tags := (∅ : Tags).insert "Name" "x" },
              { cidrBlock := "10.0.2.0/24", availabilityZone := "a" }]

theorem nameTagWorld_pass :
    reconcileSubnets ownedVpcService nameTagWorld = .ok () (after (reconcileSubnets ownedVpcService) nameTagWorld) :=
  rfl

theorem reconcileSubnets_ok_tags_nameTagWorld :
    reconcileSubnets ownedVpcService nameTagWorld =
      .ok () (after (reconcileSubnets ownedVpcService) nameTagWorld) ∧
    ∀ e ∈ (after (reconcileSubnets ownedVpcService) nameTagWorld).subnets,
      (∃ sn ∈ nameTagWorld.cloud.subnets, e.tags = sn.tags) ∨ e.tags = ∅ ∨
      (e ∈ nameTagWorld.subnets ∧ (observedSubnets ownedVpcService nameTagWorld.cloud).findEqual e = none) :=
  ⟨nameTagWorld_pass, reconcileSubnets_ok_tags ownedVpcService (by decide) nameTagWorld_pass⟩

/-- The pass returns nil and stores the declared public subnet without its `Name` tag. -/
theorem nameTagWorld_drops_name :
    reconcileSubnets ownedVpcService nameTagWorld =
      .ok () (after (reconcileSubnets ownedVpcService) nameTagWorld) ∧
    nameTagWorld.subnets.map (·.tags.lookup "Name") = [some "x", none] ∧
    (after (reconcileSubnets ownedVpcService) nameTagWorld).subnets.map (·.tags.lookup "Name") =
      [none, none] :=
  ⟨nameTagWorld_pass, rfl, by decide⟩

end CapaSubnets
