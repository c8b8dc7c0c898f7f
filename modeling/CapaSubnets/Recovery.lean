import CapaSubnets.Bootstrap
/-!
# A pass after calls fail

A controller runs `reconcileSubnets` again after every pass that fails, from the list and the
cloud the failed pass left. On a new managed VPC a pass may fail anywhere: before it stores the
defaults, after it stores them, while it tags the subnets it matched, or in `createSubnet`,
before its `CreateSubnet` or after it, when the subnet exists and its entry is stored with no ID.

Every pass keeps `Recoverable`, however it ends: `DistinctBlocks` (`Duplicates`), a sound cloud,
and a stored list that `Fits` what a describe observes. An entry `EntryOk` is observed with its
key and role when it has an ID. Every observed subnet with its block has its IPv6 block and its
role: that is the subnet `FindEqual` matches it to when it has no ID. The stored IPv6 blocks are
distinct, or all empty on a VPC without IPv6. So a subnet matched by its IPv6 block also has the
entry's block, and the observed IPv6 blocks stay distinct. Whatever calls failed in the passes
before, the first pass with an API that fails no call returns nil and leaves a `Ready` world
(`Convergence`), and so does every pass after it. Since every observed subnet has the block of an
entry, and the VPC's blocks stay distinct, no run makes more subnets than there are entries.

This assumes what `Bootstrap` assumes of the first pass, IPv6 included, and that every subnet of
the cloud has an ID. No pass changes the region's zones (`reconcileSubnets_sameNetwork`), so the
splits return for the counts of every later pass when they do for the first. A split that fails and
a secondary block are not covered.

On an unmanaged VPC a pass writes only tags, and what it stores in the place of an entry is an
observed subnet: every pass keeps `Matchable`, so after any faults a pass with an API that fails
no call returns nil, as from a `Found` world (`Convergence`). Both results rest on
`reconcileSubnets_after_of`, which says once what a pass with no secondary block does, stage by
stage, however it ends.
-/

namespace CapaSubnets

abbrev KeyRole := (String × String × String) × Bool

/-- What a fault-free pass needs of a stored entry against the observed keys and roles `K`: its key
and role there when it has an ID, its IPv6 block and role for every subnet with its block. -/
structure EntryOk (K : List KeyRole) (e : SubnetSpec) : Prop where
  observed : e.id ≠ "" → e.keyRole ∈ K
  same : ∀ k ∈ K, k.1.2.1 = e.cidrBlock → k.1.2.2 = e.ipv6CidrBlock ∧ k.2 = e.isPublic

/-- A stored list that fits what a describe observes: its blocks, IPv6 blocks and roles agree with
the observed subnets, and each observed subnet has an entry's block. -/
structure Fits (s : Service) (L : Subnets) (K : List KeyRole) : Prop where
  blocks : (L.map (·.cidrBlock)).Nodup
  noIPv6 : s.scope.vpc.isIPv6Enabled = false → ∀ e ∈ L, e.ipv6CidrBlock = ""
  ipv6s : s.scope.vpc.isIPv6Enabled = true → (L.map (·.ipv6CidrBlock)).Nodup
  entries : ∀ e ∈ L, EntryOk K e
  roles : L ≠ [] → (∃ e ∈ L, e.isPublic = false) ∧ ∃ e ∈ L, e.isPublic = true
  empty : L = [] → K = []
  covered : ∀ k ∈ K, ∃ e ∈ L, e.cidrBlock = k.1.2.1

/-- What a pass needs of the cloud: distinct subnet IDs, no route to an internet gateway, and
zones in the region. -/
structure Cloud.Sound (c : Cloud) : Prop where
  ids : c.subnetIds.Nodup
  noRoute : c.NoInternetRoute
  zones : c.availabilityZones ≠ []

structure Fitting (s : Service) (w : World) : Prop where
  sound : w.cloud.Sound
  fits : Fits s w.subnets (w.cloud.keyRoles s)

/-- What every pass on a new VPC keeps, however its calls fail. -/
structure Recoverable (s : Service) (w : World) extends DistinctBlocks s w, Fitting s w : Prop

-- ---------------------------------------------------------------------------
-- Lists that fit
-- ---------------------------------------------------------------------------

section
variable {s : Service} {L L' pre rest : Subnets} {K : List KeyRole}

theorem Fits.cover (h : Fits s L K) {k : KeyRole} (hk : k ∈ K) :
    ∃ e ∈ L, e.cidrBlock = k.1.2.1 ∧ e.ipv6CidrBlock = k.1.2.2 ∧ e.isPublic = k.2 := by
  obtain ⟨e, he, hc⟩ := h.covered k hk
  obtain ⟨h6, hr⟩ := (h.entries e he).same k hk hc.symm
  exact ⟨e, he, hc, h6.symm, hr.symm⟩

theorem Fits.requested_ipv6 (h : Fits s L K) {e : SubnetSpec} (he : e ∈ L) :
    (if s.scope.vpc.isIPv6Enabled then e.ipv6CidrBlock else "") = e.ipv6CidrBlock := by
  cases hen : s.scope.vpc.isIPv6Enabled
  · simp [h.noIPv6 hen e he]
  · rfl

theorem Fits.cidrBlock_of_ipv6 (h : Fits s L K) {e : SubnetSpec} (he : e ∈ L) {k : KeyRole} (hk : k ∈ K)
    (hne : e.ipv6CidrBlock ≠ "") (h6 : k.1.2.2 = e.ipv6CidrBlock) : k.1.2.1 = e.cidrBlock := by
  obtain ⟨e', he', hc, h6', -⟩ := h.cover hk
  cases hen : s.scope.vpc.isIPv6Enabled
  · exact absurd (h.noIPv6 hen e he) hne
  · rw [← hc, List.inj_on_of_nodup_map (h.ipv6s hen) he' he (h6'.trans h6)]

theorem Fits.observed_ipv6 {ex : Subnets} (h : Fits s L (ex.map SubnetSpec.keyRole))
    (hcidr : (ex.map (·.cidrBlock)).Nodup) : (∀ x ∈ ex, x.ipv6CidrBlock = "") ∨ (ex.map (·.ipv6CidrBlock)).Nodup := by
  cases hen : s.scope.vpc.isIPv6Enabled
  · refine .inl fun x hx => ?_
    obtain ⟨e, he, -, h6, -⟩ := h.cover (List.mem_map_of_mem SubnetSpec.keyRole hx)
    exact h6.symm.trans (h.noIPv6 hen e he)
  · refine .inr (List.Nodup.map_on (fun x hx y hy hxy => ?_) (List.Nodup.of_map _ hcidr))
    -- two observed subnets with one IPv6 block have the block of one entry
    obtain ⟨e, he, hc, h6, -⟩ := h.cover (List.mem_map_of_mem SubnetSpec.keyRole hx)
    obtain ⟨e', he', hc', h6', -⟩ := h.cover (List.mem_map_of_mem SubnetSpec.keyRole hy)
    rw [List.inj_on_of_nodup_map (h.ipv6s hen) he he' (h6.trans (hxy.trans h6'.symm))] at hc
    exact List.inj_on_of_nodup_map hcidr hx hy (hc.symm.trans hc')

theorem Fits.of_map (h : Fits s L K)
    (hmap : L'.map (fun e => (e.cidrBlock, e.isPublic)) = L.map fun e => (e.cidrBlock, e.isPublic))
    (h6 : L'.map (·.ipv6CidrBlock) = L.map (·.ipv6CidrBlock)) (hok : ∀ e ∈ L', EntryOk K e) : Fits s L' K where
  blocks := by
    have hc := congrArg (List.map Prod.fst) hmap
    rw [List.map_map, List.map_map] at hc
    rw [show L'.map (·.cidrBlock) = L.map (·.cidrBlock) from hc]
    exact h.blocks
  noIPv6 hen e he := by
    have hmem : e.ipv6CidrBlock ∈ L.map (·.ipv6CidrBlock) := h6 ▸ List.mem_map_of_mem _ he
    obtain ⟨e₀, he₀, h₀⟩ := List.mem_map.mp hmem
    exact h₀.symm.trans (h.noIPv6 hen e₀ he₀)
  ipv6s hen := h6 ▸ h.ipv6s hen
  entries := hok
  roles hne := by
    have hL : L ≠ [] := fun hL => hne (List.map_eq_nil_iff.mp (hmap.trans (by rw [hL]; rfl)))
    exact ⟨exists_role_of_map hmap (h.roles hL).1, exists_role_of_map hmap (h.roles hL).2⟩
  empty hL' := h.empty (List.map_eq_nil_iff.mp (hmap.symm.trans (by rw [hL']; rfl)))
  covered k hk := by
    obtain ⟨_, he, hek⟩ := h.covered k hk
    obtain ⟨e', he', hc, -⟩ := exists_of_map hmap he
    exact ⟨e', he', hc.trans hek⟩

theorem Fits.append (h : Fits s L K) {e₀ : SubnetSpec} (he₀ : e₀ ∈ L) {k : KeyRole}
    (hk : k.1.2.1 = e₀.cidrBlock) (h6 : k.1.2.2 = e₀.ipv6CidrBlock) (hr : k.2 = e₀.isPublic) :
    Fits s L (K ++ [k]) where
  blocks := h.blocks
  noIPv6 := h.noIPv6
  ipv6s := h.ipv6s
  entries e he := by
    obtain ⟨hobs, hsame⟩ := h.entries e he
    refine ⟨fun hid => List.mem_append_left _ (hobs hid), fun k' hk' hc => ?_⟩
    rcases List.mem_append.mp hk' with hk' | hk'
    · exact hsame k' hk' hc
    · obtain rfl := List.mem_singleton.mp hk'
      rw [List.inj_on_of_nodup_map h.blocks he he₀ (hc.symm.trans hk)]
      exact ⟨h6, hr⟩
  roles := h.roles
  empty hL := absurd (hL ▸ he₀) (List.not_mem_nil _)
  covered k' hk' := (List.mem_append.mp hk').elim (h.covered k') fun hk' =>
    ⟨e₀, he₀, by rw [List.mem_singleton.mp hk', hk]⟩

theorem Fits.replace {e e' : SubnetSpec} (h : Fits s (pre ++ e :: rest) K) (hc : e'.cidrBlock = e.cidrBlock)
    (hr : e'.isPublic = e.isPublic) (h6 : e'.ipv6CidrBlock = e.ipv6CidrBlock) (hobs : e'.id ≠ "" → e'.keyRole ∈ K) :
    Fits s (pre ++ e' :: rest) K :=
  h.of_map (by simp [hc, hr]) (by simp [h6]) fun x hx => by
    rcases List.mem_append.mp hx with hx | hx
    · exact h.entries x (List.mem_append_left _ hx)
    · rcases List.mem_cons.mp hx with rfl | hx
      · refine ⟨hobs, fun k hk hkc => ?_⟩
        rw [h6, hr]
        exact (h.entries e (by simp)).same k hk (hkc.trans hc)
      · exact h.entries x (by simp [hx])

end

theorem EntryOk.matchedEntry {ex : Subnets} {e : SubnetSpec} (h : EntryOk (ex.map SubnetSpec.keyRole) e)
    (hids : (ex.map (·.id)).Nodup)
    (h6 : ∀ x ∈ ex, e.ipv6CidrBlock ≠ "" → x.ipv6CidrBlock = e.ipv6CidrBlock → x.cidrBlock = e.cidrBlock) :
    (matchedEntry ex e).cidrBlock = e.cidrBlock ∧ (matchedEntry ex e).ipv6CidrBlock = e.ipv6CidrBlock ∧
      (matchedEntry ex e).isPublic = e.isPublic ∧ EntryOk (ex.map SubnetSpec.keyRole) (matchedEntry ex e) := by
  cases hx : ex.findEqual e with
  | none =>
    rw [CapaSubnets.matchedEntry, hx, Option.getD_none]
    exact ⟨rfl, rfl, rfl, h⟩
  | some x =>
    rw [CapaSubnets.matchedEntry, hx, Option.getD_some]
    have hxm := Subnets.findEqual_mem hx
    have hxk : x.keyRole ∈ ex.map SubnetSpec.keyRole := List.mem_map_of_mem _ hxm
    -- the subnet found has the entry's block: found by ID, it is the one observed with its key
    have hc : x.cidrBlock = e.cidrBlock := by
      have hp := List.find?_some hx
      simp at hp
      rcases hp with (⟨hid, hxid⟩ | hcidr) | ⟨hne, hx6⟩
      · obtain ⟨y, hy, hye⟩ := List.mem_map.mp (h.observed hid)
        have hyx : y = x := List.inj_on_of_nodup_map hids hy hxm ((congrArg (·.1.1) hye).trans hxid.symm)
        rw [← hyx]
        exact congrArg (·.1.2.1) hye
      · exact hcidr.symm
      · exact h6 x hxm hne hx6.symm
    obtain ⟨hx6, hr⟩ := h.same _ hxk hc
    refine ⟨hc, hx6, hr, fun _ => hxk, fun k hk hkc => ?_⟩
    obtain ⟨hk6, hkr⟩ := h.same k hk (hkc.trans hc)
    exact ⟨hk6.trans hx6.symm, hkr.trans hr.symm⟩

theorem map_matchedEntry_take {β : Type} {L ex : Subnets} (f : SubnetSpec → β)
    (hf : ∀ e ∈ L, f (matchedEntry ex e) = f e) (k : Nat) :
    ((L.take k).map (matchedEntry ex) ++ L.drop k).map f = L.map f := by
  conv_rhs => rw [← List.take_append_drop k L]
  rw [List.map_append, List.map_append, List.map_map]
  congr 1
  exact List.map_congr_left fun e he => hf e (List.mem_of_mem_take he)

theorem Fits.matched {s : Service} {L ex : Subnets} (h : Fits s L (ex.map SubnetSpec.keyRole))
    (hids : (ex.map (·.id)).Nodup) (k : Nat) :
    Fits s ((L.take k).map (matchedEntry ex) ++ L.drop k) (ex.map SubnetSpec.keyRole) := by
  have hm := fun e (he : e ∈ L) => (h.entries e he).matchedEntry hids fun x hx hne hx6 =>
    h.cidrBlock_of_ipv6 he (List.mem_map_of_mem SubnetSpec.keyRole hx) hne hx6
  refine h.of_map (map_matchedEntry_take _ (fun e he => by simp [(hm e he).1, (hm e he).2.2.1]) k)
    (map_matchedEntry_take _ (fun e he => (hm e he).2.1) k) fun e he => ?_
  rcases List.mem_append.mp he with he | he
  · obtain ⟨e₀, he₀, rfl⟩ := List.mem_map.mp he
    exact (hm e₀ (List.mem_of_mem_take he₀)).2.2.2
  · exact h.entries e (List.mem_of_mem_drop he)

-- ---------------------------------------------------------------------------
-- What the calls of a pass do to what a describe observes
-- ---------------------------------------------------------------------------

theorem Cloud.keyRoles_of_sameRoles {s : Service} (hvpc : s.scope.vpc.id ≠ "") {c c' : Cloud}
    (hun : c.untagged = c'.untagged) (hids : c.subnetIds.Nodup) (hids' : c'.subnetIds.Nodup)
    (hsr : c.SameRoles c') : c'.keyRoles s = c.keyRoles s := by
  have hkeys := observedSubnets_keys hvpc hun
  -- a describe reports each observed subnet with the role the cloud gives its ID
  have hrole : ∀ c : Cloud, c.subnetIds.Nodup → (observedSubnets s c).map (·.isPublic) =
      ((observedSubnets s c).map (·.id)).map fun i => (c.isPublic i).getD false := fun c h => by
    rw [List.map_map]
    exact List.map_congr_left fun x hx => by simp [Cloud.reports_observed h s x hx]
  have hid : (observedSubnets s c).map (·.id) = (observedSubnets s c').map (·.id) := by
    have h := congrArg (List.map Prod.fst) hkeys
    rwa [List.map_map, List.map_map] at h
  have hroles : (observedSubnets s c').map (·.isPublic) = (observedSubnets s c).map (·.isPublic) := by
    rw [hrole c' hids', hrole c hids, ← hid]
    exact List.map_congr_left fun i hi => by
      obtain ⟨x, hx, rfl⟩ := List.mem_map.mp hi
      rw [hsr x.id (observedSubnets_id_mem hx)]
  have hzip : ∀ l : Subnets, l.map SubnetSpec.keyRole = (l.map SubnetSpec.key).zip (l.map (·.isPublic)) :=
    fun l => (List.zip_map' _ _ l).symm
  rw [Cloud.keyRoles, Cloud.keyRoles, hzip, hzip, hkeys, hroles]

def sameNetwork : Guarantee where
  rel w w' := w'.cloud.routeTables = w.cloud.routeTables ∧ w'.cloud.availabilityZones = w.cloud.availabilityZones
  refl _ := ⟨rfl, rfl⟩
  trans h h' := ⟨h'.1.trans h.1, h'.2.trans h.2⟩

theorem sameNetwork_issue {α : Type} {call : Call} {effect : Cloud → α × Cloud}
    (h : ∀ c, (effect c).2.routeTables = c.routeTables ∧ (effect c).2.availabilityZones = c.availabilityZones) :
    sameNetwork.Holds (issue call effect) := fun w _ => by
  refine ⟨?_, trivial⟩
  simp only [after, issue]
  cases w.fault w.calls.length with
  | some _ => exact sameNetwork.refl _
  | none => exact h w.cloud

theorem sameNetwork_createSubnet (s : Service) (e : SubnetSpec) : sameNetwork.Holds (createSubnet s e) :=
  (Guarantee.Inv.adaptExcept _ (sameNetwork_issue fun _ => ⟨rfl, rfl⟩)).bind fun out =>
    createSubnet_rest_holds _ out (sameNetwork_issue fun _ => ⟨rfl, rfl⟩) fun _ _ =>
      .adaptExcept _ (waitForWithRetryable_inv _ (sameNetwork_issue fun _ => ⟨rfl, rfl⟩) _)

theorem sameNetwork_reads : sameNetwork.Reads fun _ => True where
  describe _ _ _ := sameNetwork_issue fun _ => ⟨rfl, rfl⟩
  getSubnets _ _ := ⟨⟨rfl, rfl⟩, trivial⟩
  setSubnets _ _ _ := ⟨⟨rfl, rfl⟩, trivial⟩

theorem reconcileSubnets_sameNetwork (s : Service) : sameNetwork.Holds (reconcileSubnets s) :=
  reconcileSubnets_inv sameNetwork_reads s (R := fun _ => True) (fun _ _ _ _ _ => trivial)
    (fun _ => sameNetwork_issue fun _ => ⟨rfl, rfl⟩)
    (fun _ _ _ _ _ => .ite (fun _ => sameNetwork_issue fun _ => ⟨rfl, rfl⟩) fun _ => .pure ())
    fun _ => sameNetwork_createSubnet s

theorem markIPv6_ipv6CidrBlock (s : Service) (sn : SubnetSpec) : (markIPv6 s sn).ipv6CidrBlock = sn.ipv6CidrBlock := by
  unfold markIPv6
  split <;> rfl

section
variable {s : Service} (hvpc : s.scope.vpc.id ≠ "")
include hvpc

theorem createSubnet_after (e : SubnetSpec) {w : World} (hnr : w.cloud.NoInternetRoute) :
    ((after (createSubnet s e) w).cloud.keyRoles s = w.cloud.keyRoles s ∧
        (after (createSubnet s e) w).cloud.subnetIds = w.cloud.subnetIds) ∨
      ((after (createSubnet s e) w).cloud.keyRoles s = w.cloud.keyRoles s ++
          [((w.cloud.freshSubnetId, e.cidrBlock, if s.scope.vpc.isIPv6Enabled then e.ipv6CidrBlock else ""), e.isPublic)] ∧
        (after (createSubnet s e) w).cloud.subnetIds = w.cloud.subnetIds ++ [w.cloud.freshSubnetId]) := by
  have hcs : createSubnet s e = EStateM.adaptExcept (Fault.wrap "failed to create subnet")
      (EC2Client.createSubnet _) >>= _ := rfl
  rw [hcs, after_bind]
  cases h₁ : EStateM.adaptExcept (Fault.wrap "failed to create subnet") (EC2Client.createSubnet _) w with
  | error err w₁ =>
    obtain ⟨_, h₀⟩ := adaptExcept_error h₁
    obtain ⟨-, rfl⟩ := issue_error h₀
    exact .inl ⟨rfl, rfl⟩
  | ok out w₁ =>
    dsimp only
    obtain ⟨hK, hids, -⟩ := createSubnetCall_keyRoles hvpc rfl
      (build_role s temporaryResourceID e.isPublic e.availabilityZone e.tags) hnr (adaptExcept_ok.mp h₁)
    obtain ⟨⟨hobs, hids', -⟩, -⟩ := createSubnet_rest_holds (G := sameObserved s) (markIPv6 s e) out
      (sameObserved_issue fun _ => (sameObserved s).refl _) (fun _ _ => sameObserved_setSubnetAttribute _ _ _) w₁
      trivial
    refine .inr ⟨?_, hids'.trans hids⟩
    rw [Cloud.keyRoles, hobs]
    exact hK.trans (by cases s.scope.vpc.isIPv6Enabled <;> rfl)

theorem createSubnet_sound (e : SubnetSpec) {w : World} (hc : w.cloud.Sound) :
    (after (createSubnet s e) w).cloud.Sound ∧
      ((after (createSubnet s e) w).cloud.keyRoles s = w.cloud.keyRoles s ∨
        (after (createSubnet s e) w).cloud.keyRoles s = w.cloud.keyRoles s ++
          [((w.cloud.freshSubnetId, e.cidrBlock, if s.scope.vpc.isIPv6Enabled then e.ipv6CidrBlock else ""),
            e.isPublic)]) := by
  obtain ⟨⟨hrt, hz⟩, -⟩ := sameNetwork_createSubnet s e w trivial
  have hnr : (after (createSubnet s e) w).cloud.NoInternetRoute := fun rt h => hc.noRoute rt (hrt ▸ h)
  rcases createSubnet_after hvpc e hc.noRoute with ⟨hK, hids⟩ | ⟨hK, hids⟩
  · exact ⟨⟨hids ▸ hc.ids, hnr, hz ▸ hc.zones⟩, .inl hK⟩
  · refine ⟨⟨?_, hnr, hz ▸ hc.zones⟩, .inr hK⟩
    rw [hids, List.nodup_append_comm]
    exact List.nodup_cons.mpr ⟨w.cloud.freshSubnetId_fresh, hc.ids⟩

theorem createSubnets_fits {pre L : Subnets} {w : World} (hc : w.cloud.Sound)
    (hf : Fits s (pre ++ L) (w.cloud.keyRoles s)) :
    ∃ r w', createSubnets s L w = .ok r w' ∧ w'.cloud.Sound ∧ Fits s (pre ++ r.1) (w'.cloud.keyRoles s) := by
  induction L generalizing pre w with
  | nil => exact ⟨([], .done), w, rfl, hc, hf⟩
  | cons e rest ih =>
    rw [createSubnets]
    by_cases hid : e.id = ""
    · rw [if_neg (by simpa using hid)]
      have hsound := createSubnet_sound hvpc e hc
      have h6 := hf.requested_ipv6 (e := e) (by simp)
      have hfe : Fits s (pre ++ e :: rest) ((after (createSubnet s e) w).cloud.keyRoles s) := by
        rcases hsound.2 with hK | hK
        · rwa [hK]
        · rw [hK]
          exact hf.append (by simp) rfl h6 rfl
      cases hcs : createSubnet s e w with
      | error err w₁ =>
        rw [after_of_error hcs] at hsound hfe
        refine ⟨_, w₁, by rw [bind_of_ok (attempt_of_error hcs)]; rfl, hsound.1, ?_⟩
        obtain ⟨hmid, hmcidr, hmpub⟩ := markIPv6_keeps s e
        exact hfe.replace hmcidr hmpub (markIPv6_ipv6CidrBlock s e) fun h => absurd (hmid.trans hid) h
      | ok nsn w₁ =>
        rw [after_of_ok hcs] at hsound hfe
        obtain ⟨hK, -, -, -, hncidr, hnpub, hn6⟩ := createSubnet_observed hvpc hc.noRoute hcs
        have hf₁ : Fits s ((pre ++ [nsn]) ++ rest) (w₁.cloud.keyRoles s) := by
          rw [List.append_assoc]
          refine hfe.replace hncidr hnpub (hn6.trans h6) fun _ => ?_
          show nsn.keyRole ∈ (observedSubnets s w₁.cloud).map SubnetSpec.keyRole
          rw [hK]
          simp
        obtain ⟨r, w', h', hc', hf'⟩ := ih hsound.1 hf₁
        refine ⟨(nsn :: r.1, r.2), w', ?_, hc', by simpa using hf'⟩
        rw [bind_of_ok (attempt_of_ok hcs)]
        dsimp only
        rw [bind_of_ok h']
        rfl
    · rw [if_pos (by simpa using hid)]
      obtain ⟨r, w', h', hc', hf'⟩ := @ih (pre ++ [e]) w hc (by simpa using hf)
      exact ⟨(e :: r.1, r.2), w', by rw [bind_of_ok h']; rfl, hc', by simpa using hf'⟩

theorem createLoop_fitting {v : World} (hw : Fitting s v) : Fitting s (after (runLoop (createSubnets s)) v) := by
  obtain ⟨r, v', h, hc, hf⟩ := createSubnets_fits hvpc hw.sound (show Fits s ([] ++ v.subnets) _ from hw.fits)
  rw [after_runLoop h]
  exact ⟨hc, hf⟩

end

-- ---------------------------------------------------------------------------
-- The matching loop
-- ---------------------------------------------------------------------------

theorem attempt_returns {α : Type} (x : Ec2 α) (w : World) : ∃ r w', attempt x w = .ok r w' := by
  unfold attempt
  split <;> exact ⟨_, _, rfl⟩

theorem matchSubnets_returns (s : Service) (u : Bool) (existing subnets : Subnets) (w : World) :
    ∃ r w', matchSubnets s u existing subnets w = .ok r w' := by
  induction subnets generalizing w with
  | nil => exact ⟨_, _, rfl⟩
  | cons sub rest ih =>
    unfold matchSubnets
    cases hx : existing.findEqual sub with
    | some x =>
      dsimp only
      obtain ⟨r, w₁, h₁⟩ := attempt_returns (waitForWithRetryable [subnetNotFound] (ensure (getSubnetTagParams s u
        x.id x.isPublic x.availabilityZone sub.tags) x.tags) newBackoffSteps) w
      rw [bind_of_ok h₁]
      cases r with
      | error => split <;> exact ⟨_, _, rfl⟩
      | ok =>
        obtain ⟨r', w₂, h₂⟩ := ih w₁
        exact ⟨_, _, by dsimp only; rw [bind_of_ok h₂]; rfl⟩
    | none =>
      dsimp only
      split
      · exact ⟨_, _, rfl⟩
      · obtain ⟨r', w₂, h₂⟩ := ih w
        exact ⟨_, _, by rw [bind_of_ok h₂]; rfl⟩

theorem matchLoop_fitting {s : Service} (hvpc : s.scope.vpc.id ≠ "") {v : World} (hw : Fitting s v) :
    Fitting s (after (runLoop (matchSubnets s false (observedSubnets s v.cloud))) v) := by
  obtain ⟨r, v₂, hl⟩ := matchSubnets_returns s false (observedSubnets s v.cloud) v.subnets v
  rw [after_runLoop hl]
  have htags : v₂.cloud.untagged = v.cloud.untagged :=
    ((matchSubnets_inv (G := tagsOnly) (P := fun _ => True) s (fun _ _ _ => tagsOnly_ensure
      (fun _ _ _ _ _ => trivial) _ _) _).of_ok trivial hl).1
  obtain ⟨⟨hsr, hnd⟩, -⟩ := (matchSubnets_inv (G := roles) s (fun x hx t => roles_ensure hx s t) _).of_ok
    ⟨hw.sound.ids, Cloud.reports_observed hw.sound.ids s⟩ hl
  have hK : v₂.cloud.keyRoles s = v.cloud.keyRoles s :=
    Cloud.keyRoles_of_sameRoles hvpc htags.symm hw.sound.ids (hnd hw.sound.ids) hsr
  have hrt : v₂.cloud.routeTables = v.cloud.routeTables := (congrArg Cloud.routeTables htags :)
  have hz : v₂.cloud.availabilityZones = v.cloud.availabilityZones := (congrArg Cloud.availabilityZones htags :)
  obtain ⟨k, -, hr, -⟩ := matchSubnets_ok hl
  refine ⟨⟨hnd hw.sound.ids, fun rt h => hw.sound.noRoute rt (hrt ▸ h), hz ▸ hw.sound.zones⟩, ?_⟩
  show Fits s r.1 (v₂.cloud.keyRoles s)
  rw [hr, hK]
  exact hw.fits.matched (observedSubnets_ids_nodup hw.sound.ids) k

-- ---------------------------------------------------------------------------
-- The stages before the loops
-- ---------------------------------------------------------------------------

theorem Fits.defaults {s : Service} (hv6 : IPv6Splits s) {Addr : Type} {mem : String → Addr → Prop}
    (h4 : s.cidr.SplitsIPv4 mem) (hocc : ∀ c k bs, s.cidr.splitIntoSubnetsIPv4 c k = .ok bs → ∀ b ∈ bs, ∃ a, mem b a)
    (hmz : 1 ≤ maxZones s) {l : Subnets} {v v' : World} (hz : v.cloud.availabilityZones ≠ [])
    (h : getDefaultSubnets s v = .ok l v') : Fits s l [] := by
  have hids := getDefaultSubnets_ids h
  have h6 := getDefaultSubnets_ipv6 h4 hv6 h
  have hroles := getDefaultSubnets_roles hmz hz h
  refine ⟨?_, h6.1, h6.2, fun e he => ⟨fun hid => absurd (hids e he) hid, nofun⟩, fun _ => hroles, fun _ => rfl,
    nofun⟩
  have hpend := getDefaultSubnets_pending h4 hocc h
  rwa [Subnets.pending, List.filter_eq_self.mpr fun e he => by simp [hids e he]] at hpend

theorem observeStage_after (s : Service) (w : World) :
    (after (observeStage s) w).cloud = w.cloud ∧ ((after (observeStage s) w).subnets = w.subnets ∨
      (w.subnets = [] ∧ s.scope.vpc.isUnmanaged s.scope.name = false ∧
        ∃ v v', v.cloud = w.cloud ∧ getDefaultSubnets s v = .ok (after (observeStage s) w).subnets v')) := by
  let P : World → Prop := fun v => v.cloud = w.cloud ∧ (v.subnets = w.subnets ∨
    (w.subnets = [] ∧ s.scope.vpc.isUnmanaged s.scope.name = false ∧
      ∃ u u', u.cloud = w.cloud ∧ getDefaultSubnets s u = .ok v.subnets u'))
  have hread : ∀ {α : Type} (call : Call) (read : Cloud → α), sameCloud.Inv P (issue call fun c => (read c, c)) :=
    fun _ _ v hv => by
      simp only [after, issue]
      cases v.fault v.calls.length <;> exact ⟨rfl, hv⟩
  have hD : sameCloud.Describes P := ⟨fun call read _ => hread call read, fun _ hv => ⟨rfl, hv⟩⟩
  have hinv : sameCloud.Inv P (observeStage s) := observeStage_inv hD s (Q := fun l => l = [] → w.subnets = [])
    (fun v hv hl => hv.2.elim (fun h => h.symm.trans hl) fun h => h.1) fun subnets hsub => ?_
  · exact (hinv w ⟨rfl, .inl rfl⟩).2
  unfold setDefaultSubnets
  refine .ite (fun hempty => .ite (fun _ => .throw _) fun hu => ?_) fun _ => .pure ()
  have hw0 : w.subnets = [] := hsub (List.isEmpty_iff.mp hempty)
  refine ((getDefaultSubnets_inv hD s).adaptExcept _).bind_of
    (R := fun l => ∃ u u', u.cloud = w.cloud ∧ getDefaultSubnets s u = .ok l u')
    (fun v l v' hv h => ⟨v, v', hv.1, adaptExcept_ok.mp h⟩) fun l hl => ?_
  exact Guarantee.Inv.bind (fun v hv => ⟨rfl, hv.1, .inr ⟨hw0, by simpa using hu, hl⟩⟩) fun _ => hread _ _

theorem after_checkSubnets (u : Bool) (w : World) : after (checkSubnets u) w = w := by
  cases u <;> simp only [checkSubnets, after_bind, getSubnets] <;> split_ifs <;> rfl

/-- A pass with no secondary block keeps `P`, however it ends, when the stages before the loops and
the loops keep it: the checks between the loops change nothing. -/
theorem reconcileSubnets_after_of {s : Service} (hsec : s.scope.secondaryCidrBlock = none) {P : World → Prop}
    (hobs : ∀ w, P w → P (after (observeStage s) w))
    (hmatch : ∀ w, P w →
      P (after (runLoop (matchSubnets s (s.scope.vpc.isUnmanaged s.scope.name) (observedSubnets s w.cloud))) w))
    (hcreate : s.scope.vpc.isUnmanaged s.scope.name = false → ∀ w, P w → P (after (runLoop (createSubnets s)) w))
    {w : World} (hw : P w) : P (after (reconcileSubnets s) w) := by
  rw [reconcileSubnets_eq]
  refine after_bind_of (P := P) (hobs w hw) fun ex w₁ ho hw₁ => ?_
  obtain ⟨rfl, hc₁, -⟩ := observeStage_ok ho
  rw [appendSecondary_none hsec, pure_bind]
  refine after_bind_of (P := P) (by rw [← hc₁]; exact hmatch w₁ hw₁) fun _ w₂ _ hw₂ => ?_
  refine after_bind_of (P := P) (by rwa [after_checkSubnets]) fun _ w₃ _ hw₃ => ?_
  cases hu : s.scope.vpc.isUnmanaged s.scope.name with
  | false => exact hcreate hu _ hw₃
  | true => exact hw₃

section
variable {s : Service} (hm : s.scope.vpc.isUnmanaged s.scope.name = false) (hvpc : s.scope.vpc.id ≠ "")
  (hsec : s.scope.secondaryCidrBlock = none) (hv6 : IPv6Splits s) {Addr : Type}
  {mem : String → Addr → Prop} (h4 : s.cidr.SplitsIPv4 mem)
  (hocc : ∀ c k bs, s.cidr.splitIntoSubnetsIPv4 c k = .ok bs → ∀ b ∈ bs, ∃ a, mem b a) (hmz : 1 ≤ maxZones s)

include hv6 h4 hocc hmz in
theorem observeStage_fitting {w : World} (hw : Fitting s w) : Fitting s (after (observeStage s) w) := by
  obtain ⟨hc, hl⟩ := observeStage_after s w
  refine ⟨hc ▸ hw.sound, ?_⟩
  show Fits s (after (observeStage s) w).subnets ((after (observeStage s) w).cloud.keyRoles s)
  rw [hc]
  rcases hl with hl | ⟨hempty, -, v, v', hv, hds⟩
  · exact hl ▸ hw.fits
  · rw [hw.fits.empty hempty]
    exact Fits.defaults hv6 h4 hocc hmz (by rw [hv]; exact hw.sound.zones) hds

include hm hvpc hsec hv6 h4 hocc hmz

theorem reconcileSubnets_fitting {w : World} (hw : Fitting s w) : Fitting s (after (reconcileSubnets s) w) :=
  reconcileSubnets_after_of hsec (P := Fitting s) (fun _ => observeStage_fitting hv6 h4 hocc hmz)
    (fun _ hv => by rw [hm]; exact matchLoop_fitting hvpc hv) (fun _ _ hv => createLoop_fitting hvpc hv) hw

/-- A pass on a new VPC keeps `Recoverable`, however it ends. -/
theorem reconcileSubnets_recoverable {w : World} (hw : Recoverable s w) :
    Recoverable s (after (reconcileSubnets s) w) :=
  { toDistinctBlocks := reconcileSubnets_distinct hm hvpc hsec h4 hocc hw.toDistinctBlocks,
    toFitting := reconcileSubnets_fitting hm hvpc hsec hv6 h4 hocc hmz hw.toFitting }

omit hm hsec hv6 h4 hocc hmz in
theorem Recoverable.ready {w : World} (hw : Recoverable s w) (hf : FaultFree w) (hne : w.subnets ≠ [])
    (hids : ∀ e ∈ w.subnets, e.id ≠ "") : Ready s w := by
  refine ⟨hf, hw.sound.ids, ?_, fun e he => ⟨hids e he, ?_⟩, (hw.fits.roles hne).1, (hw.fits.roles hne).2⟩
  · have hcidr : ((observedSubnets s w.cloud).map (·.cidrBlock)).Nodup := by
      rw [observedSubnets_blocks hvpc]
      exact hw.blocks
    exact keysApart_of_nodup (observedSubnets_ids_nodup hw.sound.ids) hcidr (hw.fits.observed_ipv6 hcidr)
  · obtain ⟨x, hx, hxe⟩ := List.mem_map.mp ((hw.fits.entries e he).observed (hids e he))
    exact ⟨x, hx, congrArg Prod.fst hxe, congrArg Prod.snd hxe⟩

omit hm hvpc hsec hv6 h4 hocc hmz in
theorem created_ids {c : Cloud} (hn : c.Named) {L l : Subnets} (h : List.Forall₂ (Created s c) L l) :
    ∀ e ∈ l, e.id ≠ "" := fun e he => by
  obtain ⟨a, -, hae⟩ := forall₂_exists_left h he
  cases hae with
  | kept hid => exact hid
  | made _ _ _ ha => exact hn _ (Cloud.attributes_isSome.mp (by simp [ha]))

theorem recoverable_pass {w : World} (hw : Recoverable s w) (hf : FaultFree w)
    (hsplit : DefaultsSplit s (zoneCount s w.cloud.availabilityZones)) :
    ∃ w', reconcileSubnets s w = .ok () w' ∧ Ready s w' := by
  by_cases hne : w.subnets = []
  · have hnone : observedSubnets s w.cloud = [] := List.map_eq_nil_iff.mp (hw.fits.empty hne)
    have hfresh : ∀ sn ∈ w.cloud.subnets, sn.vpcId ≠ s.scope.vpc.id := by
      simpa [observedSubnets, describeSubnetsFilter, hvpc] using hnone
    obtain ⟨w', h, hr, -⟩ := new_vpc_pass hm hvpc hsec hv6 h4 hocc hmz hf hw.sound.zones hsplit hne hfresh
      hw.sound.ids hw.sound.noRoute
    exact ⟨w', h, hr⟩
  · obtain ⟨-, w₂, -, hf₂, -, hpass⟩ := reconcileSubnets_faultFree hm hsec hf hne
    -- the matched list keeps the blocks and the roles, so it passes the checks
    have hfits := hw.fits.matched (observedSubnets_ids_nodup hw.sound.ids) w.subnets.length
    rw [List.take_length, List.drop_length, List.append_nil] at hfits
    obtain ⟨⟨e₀, he₀, hp₀⟩, ⟨e₁, he₁, hp₁⟩⟩ := hfits.roles (by simpa using hne)
    have hpriv : ¬(Subnets.filterPrivate (w.subnets.map (matchedEntry (observedSubnets s w.cloud)))).length < 1 :=
      filter_length_pos he₀ (by simp [hp₀])
    have hpub : ¬(Subnets.filterPublic (w.subnets.map (matchedEntry (observedSubnets s w.cloud)))).length < 1 :=
      filter_length_pos he₁ hp₁
    obtain ⟨l, w₃, hcreate, hf₃⟩ := createSubnets_succeeds s (w.subnets.map (matchedEntry (observedSubnets s w.cloud)))
      (w := { w₂ with subnets := w.subnets.map (matchedEntry (observedSubnets s w.cloud)) }) hf₂
    have hok : reconcileSubnets s w = .ok () { w₃ with subnets := l } := by
      rw [hpass, checkSubnets_false_bind]
      dsimp only
      rw [if_neg hpriv, if_neg hpub]
      exact runLoop_done hcreate
    have hrec := reconcileSubnets_recoverable hm hvpc hsec hv6 h4 hocc hmz hw
    rw [after_of_ok hok] at hrec
    have hcreated := createSubnets_ok hcreate
    refine ⟨_, hok, hrec.ready hvpc hf₃ ?_ (created_ids hrec.named hcreated)⟩
    rwa [← List.length_pos, ← hcreated.length_eq, List.length_map, List.length_pos]

end

theorem new_vpc_recoverable {s : Service} (hvpc : s.scope.vpc.id ≠ "") {w : World}
    (hz : w.cloud.availabilityZones ≠ []) (hempty : w.subnets = [])
    (hfresh : ∀ sn ∈ w.cloud.subnets, sn.vpcId ≠ s.scope.vpc.id) (hn : w.cloud.Named)
    (hids : w.cloud.subnetIds.Nodup) (hnr : w.cloud.NoInternetRoute) : Recoverable s w := by
  have hnone : observedSubnets s w.cloud = [] := by
    simpa [observedSubnets, describeSubnetsFilter, hvpc] using hfresh
  have hK : w.cloud.keyRoles s = [] := by rw [Cloud.keyRoles, hnone]; rfl
  have hblocks : w.cloud.blocksOf s.scope.vpc.id = [] := by
    rw [← observedSubnets_blocks hvpc, hnone]
    rfl
  refine ⟨⟨hn, ?_, ?_⟩, ⟨hids, hnr, hz⟩, ?_⟩
  · rw [hblocks]; exact List.nodup_nil
  · rw [hempty]; exact List.nodup_nil
  · rw [hempty, hK]
    exact ⟨List.nodup_nil, fun _ => nofun, fun _ => List.nodup_nil, nofun, fun h => absurd rfl h, fun _ => rfl, nofun⟩

/-- On a new managed VPC, whatever calls fail in the first `n` passes, the pass after them with an
API that fails no call returns nil and leaves a `Ready` world, and every later pass returns nil. -/
theorem new_vpc_recovers (s : Service) (hm : s.scope.vpc.isUnmanaged s.scope.name = false)
    (hvpc : s.scope.vpc.id ≠ "") (hsec : s.scope.secondaryCidrBlock = none) (hv6 : IPv6Splits s)
    {Addr : Type} (mem : String → Addr → Prop) (h4 : s.cidr.SplitsIPv4 mem)
    (hocc : ∀ c k bs, s.cidr.splitIntoSubnetsIPv4 c k = .ok bs → ∀ b ∈ bs, ∃ a, mem b a)
    (hmz : 1 ≤ maxZones s) {w : World} (hz : w.cloud.availabilityZones ≠ [])
    (hsplit : DefaultsSplit s (zoneCount s w.cloud.availabilityZones)) (hempty : w.subnets = [])
    (hfresh : ∀ sn ∈ w.cloud.subnets, sn.vpcId ≠ s.scope.vpc.id) (hn : w.cloud.Named)
    (hids : w.cloud.subnetIds.Nodup) (hnr : w.cloud.NoInternetRoute) (n : Nat) :
    (∃ w', reconcileSubnets s { runPasses s n w with fault := fun _ => none } = .ok () w' ∧ Ready s w') ∧
      ∀ m, ∃ w', reconcileSubnets s (runPasses s m { runPasses s n w with fault := fun _ => none }) = .ok () w' := by
  have hrun := runPasses_of (P := Recoverable s) (fun _ => reconcileSubnets_recoverable hm hvpc hsec hv6 h4 hocc hmz) n w
    (new_vpc_recoverable hvpc hz hempty hfresh hn hids hnr)
  -- what `Recoverable` says is of the cloud and the list, not of the API
  have hrec : Recoverable s { runPasses s n w with fault := fun _ => none } :=
    { toDistinctBlocks := ⟨hrun.named, hrun.blocks, hrun.pending⟩, toFitting := ⟨hrun.sound, hrun.fits⟩ }
  -- no pass changes the zones, so the splits return for the count the first pass after the run uses
  have hzones := (runPasses_inv (reconcileSubnets_sameNetwork s) trivial (w := w) n).1.2
  obtain ⟨w₁, h₁, hr⟩ := recoverable_pass hm hvpc hsec hv6 h4 hocc hmz hrec (fun _ => rfl)
    (by dsimp only; rw [hzones]; exact hsplit)
  exact ⟨⟨w₁, h₁, hr⟩, runPasses_ok_of_first_pass hm hvpc hsec h₁ hr⟩

/-- The new VPC of `Bootstrap`, with an API that refuses the third call: the `DescribeSubnets` of
the first pass, after the defaults were stored. -/
def faultyNewVpcWorld : World :=
  { newVpcWorld with fault := fun k => if k = 2 then some ⟨"RequestLimitExceeded", "Request limit exceeded."⟩ else none }

theorem new_vpc_recovers_faultyNewVpcWorld :
    dottedService.scope.vpc.isUnmanaged dottedService.scope.name = false ∧ dottedService.scope.vpc.id ≠ "" ∧
      dottedService.scope.secondaryCidrBlock = none ∧ IPv6Splits dottedService ∧
      dottedService.cidr.SplitsIPv4 (fun b (a : List Char) => List.IsPrefix b.data a) ∧
      (∀ c k bs, dottedService.cidr.splitIntoSubnetsIPv4 c k = .ok bs → ∀ b ∈ bs,
        ∃ a : List Char, List.IsPrefix b.data a) ∧
      1 ≤ maxZones dottedService ∧ faultyNewVpcWorld.cloud.availabilityZones ≠ [] ∧
      DefaultsSplit dottedService (zoneCount dottedService faultyNewVpcWorld.cloud.availabilityZones) ∧
      faultyNewVpcWorld.subnets = [] ∧
      (∀ sn ∈ faultyNewVpcWorld.cloud.subnets, sn.vpcId ≠ dottedService.scope.vpc.id) ∧
      faultyNewVpcWorld.cloud.Named ∧ faultyNewVpcWorld.cloud.subnetIds.Nodup ∧
      faultyNewVpcWorld.cloud.NoInternetRoute ∧
      (∃ w', reconcileSubnets dottedService { runPasses dottedService 1 faultyNewVpcWorld with fault := fun _ => none } =
        .ok () w' ∧ Ready dottedService w') ∧
      ∀ m, ∃ w', reconcileSubnets dottedService
        (runPasses dottedService m { runPasses dottedService 1 faultyNewVpcWorld with fault := fun _ => none }) =
          .ok () w' :=
  ⟨by decide, by decide, rfl, .inr ⟨_, dottedSplit_splitsIPv6⟩, dottedSplit_splitsIPv4,
    fun _ _ _ _ b _ => ⟨b.data, List.prefix_refl _⟩, by decide, by decide, dottedSplit_defaultsSplit rfl _, rfl,
    (fun _ h => nomatch h), (fun _ h => nomatch h), by decide, (fun _ h => nomatch h),
    new_vpc_recovers dottedService (by decide) (by decide) rfl (.inr ⟨_, dottedSplit_splitsIPv6⟩) _
      dottedSplit_splitsIPv4 (fun _ _ _ _ b _ => ⟨b.data, List.prefix_refl _⟩) (by decide) (w := faultyNewVpcWorld)
      (by decide) (dottedSplit_defaultsSplit rfl _) rfl
      (fun _ h => nomatch h) (fun _ h => nomatch h) (by decide) (fun _ h => nomatch h) 1⟩


/-- On a new managed VPC, however calls fail in a run, every observed subnet has the block and the
role of a stored entry, and the VPC never has more subnets than the list has entries. -/
theorem new_vpc_runPasses_bounded (s : Service) (hm : s.scope.vpc.isUnmanaged s.scope.name = false)
    (hvpc : s.scope.vpc.id ≠ "") (hsec : s.scope.secondaryCidrBlock = none) (hv6 : IPv6Splits s)
    {Addr : Type} (mem : String → Addr → Prop) (h4 : s.cidr.SplitsIPv4 mem)
    (hocc : ∀ c k bs, s.cidr.splitIntoSubnetsIPv4 c k = .ok bs → ∀ b ∈ bs, ∃ a, mem b a) (hmz : 1 ≤ maxZones s)
    {w : World} (hz : w.cloud.availabilityZones ≠ []) (hempty : w.subnets = [])
    (hfresh : ∀ sn ∈ w.cloud.subnets, sn.vpcId ≠ s.scope.vpc.id) (hn : w.cloud.Named)
    (hids : w.cloud.subnetIds.Nodup) (hnr : w.cloud.NoInternetRoute) (n : Nat) :
    (∀ x ∈ observedSubnets s (runPasses s n w).cloud,
        ∃ e ∈ (runPasses s n w).subnets, e.cidrBlock = x.cidrBlock ∧ e.isPublic = x.isPublic) ∧
      (observedSubnets s (runPasses s n w).cloud).length ≤ (runPasses s n w).subnets.length := by
  have hrun := runPasses_of (P := Recoverable s) (fun _ => reconcileSubnets_recoverable hm hvpc hsec hv6 h4 hocc hmz)
    n w (new_vpc_recoverable hvpc hz hempty hfresh hn hids hnr)
  have hcov : ∀ x ∈ observedSubnets s (runPasses s n w).cloud,
      ∃ e ∈ (runPasses s n w).subnets, e.cidrBlock = x.cidrBlock ∧ e.isPublic = x.isPublic := fun x hx => by
    obtain ⟨e, he, hc, -, hr⟩ := hrun.fits.cover (List.mem_map_of_mem SubnetSpec.keyRole hx)
    exact ⟨e, he, hc, hr⟩
  refine ⟨hcov, ?_⟩
  -- the observed blocks are distinct, and each is the block of a stored entry
  have hnd : ((observedSubnets s (runPasses s n w).cloud).map (·.cidrBlock)).Nodup := by
    rw [observedSubnets_blocks hvpc]
    exact hrun.blocks
  have hsub : (observedSubnets s (runPasses s n w).cloud).map (·.cidrBlock) ⊆
      (runPasses s n w).subnets.map (·.cidrBlock) := fun b hb => by
    obtain ⟨x, hx, rfl⟩ := List.mem_map.mp hb
    obtain ⟨e, he, hc, -⟩ := hcov x hx
    rw [← hc]
    exact List.mem_map_of_mem _ he
  simpa using (List.subperm_of_subset hnd hsub).length_le

theorem new_vpc_runPasses_bounded_faultyNewVpcWorld :
    dottedService.scope.vpc.isUnmanaged dottedService.scope.name = false ∧ dottedService.scope.vpc.id ≠ "" ∧
      dottedService.scope.secondaryCidrBlock = none ∧ IPv6Splits dottedService ∧
      dottedService.cidr.SplitsIPv4 (fun b (a : List Char) => List.IsPrefix b.data a) ∧
      (∀ c k bs, dottedService.cidr.splitIntoSubnetsIPv4 c k = .ok bs → ∀ b ∈ bs,
        ∃ a : List Char, List.IsPrefix b.data a) ∧ 1 ≤ maxZones dottedService ∧
      faultyNewVpcWorld.cloud.availabilityZones ≠ [] ∧ faultyNewVpcWorld.subnets = [] ∧
      (∀ sn ∈ faultyNewVpcWorld.cloud.subnets, sn.vpcId ≠ dottedService.scope.vpc.id) ∧
      faultyNewVpcWorld.cloud.Named ∧ faultyNewVpcWorld.cloud.subnetIds.Nodup ∧
      faultyNewVpcWorld.cloud.NoInternetRoute ∧
      (∀ x ∈ observedSubnets dottedService (runPasses dottedService 2 faultyNewVpcWorld).cloud,
        ∃ e ∈ (runPasses dottedService 2 faultyNewVpcWorld).subnets,
          e.cidrBlock = x.cidrBlock ∧ e.isPublic = x.isPublic) ∧
      (observedSubnets dottedService (runPasses dottedService 2 faultyNewVpcWorld).cloud).length ≤
        (runPasses dottedService 2 faultyNewVpcWorld).subnets.length :=
  ⟨by decide, by decide, rfl, .inr ⟨_, dottedSplit_splitsIPv6⟩, dottedSplit_splitsIPv4, fun _ _ _ _ b _ => ⟨b.data, List.prefix_refl _⟩,
    by decide, by decide, rfl, (fun _ h => nomatch h), (fun _ h => nomatch h), by decide, (fun _ h => nomatch h),
    new_vpc_runPasses_bounded dottedService (by decide) (by decide) rfl
      (.inr ⟨_, dottedSplit_splitsIPv6⟩) _ dottedSplit_splitsIPv4
      (fun _ _ _ _ b _ => ⟨b.data, List.prefix_refl _⟩) (by decide) (w := faultyNewVpcWorld) (by decide) rfl
      (fun _ h => nomatch h) (fun _ h => nomatch h) (by decide) (fun _ h => nomatch h) 2⟩

-- ---------------------------------------------------------------------------
-- Passes on an unmanaged VPC
-- ---------------------------------------------------------------------------

/-- What every pass on an unmanaged VPC keeps, however its calls fail: a stored list that is not
empty, each entry of which an observed subnet equals. -/
structure Matchable (s : Service) (w : World) : Prop where
  nonempty : w.subnets ≠ []
  found : ∀ e ∈ w.subnets, ((observedSubnets s w.cloud).findEqual e).isSome

theorem findEqual_isSome_of_untagged {s : Service} (hvpc : s.scope.vpc.id ≠ "") {c c' : Cloud}
    (hc : c.untagged = c'.untagged) {e : SubnetSpec} (h : ((observedSubnets s c).findEqual e).isSome) :
    ((observedSubnets s c').findEqual e).isSome := by
  rw [← Option.ne_none_iff_isSome] at h ⊢
  exact fun h' => h ((findEqual_eq_none_iff_keys (observedSubnets_keys hvpc hc) e).mpr h')

theorem observeStage_matchable {s : Service} {w : World} (hw : Matchable s w) :
    Matchable s (after (observeStage s) w) := by
  obtain ⟨hc, hl⟩ := observeStage_after s w
  have hsub : (after (observeStage s) w).subnets = w.subnets := hl.resolve_right fun h => hw.nonempty h.1
  exact ⟨hsub ▸ hw.nonempty, by rw [hsub, hc]; exact hw.found⟩

theorem matchLoop_matchable {s : Service} (hvpc : s.scope.vpc.id ≠ "") {v : World} (hw : Matchable s v) :
    Matchable s (after (runLoop (matchSubnets s true (observedSubnets s v.cloud))) v) := by
  obtain ⟨r, v₂, hl⟩ := matchSubnets_returns s true (observedSubnets s v.cloud) v.subnets v
  rw [after_runLoop hl]
  have htags : v₂.cloud.untagged = v.cloud.untagged :=
    ((matchSubnets_inv (G := tagsOnly) (P := fun _ => True) s (fun _ _ _ => tagsOnly_ensure
      (fun _ _ _ _ _ => trivial) _ _) _).of_ok trivial hl).1
  have hfound := fun e he => findEqual_isSome_of_untagged hvpc htags.symm (hw.found e he)
  obtain ⟨k, -, hr, -⟩ := matchSubnets_ok hl
  refine ⟨fun h => hw.nonempty ?_, fun e he => ?_⟩
  · have hlen := congrArg List.length (hr.symm.trans h)
    simp only [List.length_append, List.length_map, List.length_take, List.length_drop, List.length_nil] at hlen
    exact List.eq_nil_of_length_eq_zero (by omega)
  · have he : e ∈ r.1 := he
    rw [hr] at he
    rcases List.mem_append.mp he with he | he
    · obtain ⟨e₀, he₀, rfl⟩ := List.mem_map.mp he
      cases hx : (observedSubnets s v.cloud).findEqual e₀ with
      | none =>
        rw [matchedEntry, hx]
        exact hfound e₀ (List.mem_of_mem_take he₀)
      | some x =>
        rw [matchedEntry, hx]
        exact findEqual_observed_isSome hvpc htags.symm (Subnets.findEqual_mem hx)
    · exact hfound e (List.mem_of_mem_drop he)

theorem reconcileSubnets_matchable {s : Service} (hu : s.scope.vpc.isUnmanaged s.scope.name = true)
    (hsec : s.scope.secondaryCidrBlock = none) {w : World} (hw : Matchable s w) :
    Matchable s (after (reconcileSubnets s) w) :=
  reconcileSubnets_after_of hsec (P := Matchable s) (fun _ => observeStage_matchable)
    (fun _ hv => by rw [hu]; exact matchLoop_matchable (VPCSpec.id_ne_of_isUnmanaged hu) hv)
    (fun h => by simp [hu] at h) hw

/-- On an unmanaged VPC whose every stored entry an observed subnet equals, whatever calls fail in
the first `n` passes, every pass after them with an API that fails no call returns nil. -/
theorem unmanaged_recovers (s : Service) (hu : s.scope.vpc.isUnmanaged s.scope.name = true)
    (hsec : s.scope.secondaryCidrBlock = none) {w : World} (hne : w.subnets ≠ [])
    (hall : ∀ e ∈ w.subnets, ((observedSubnets s w.cloud).findEqual e).isSome) (n m : Nat) :
    ∃ w', reconcileSubnets s (runPasses s m { runPasses s n w with fault := fun _ => none }) = .ok () w' := by
  have hrun := runPasses_of (P := Matchable s) (fun _ => reconcileSubnets_matchable hu hsec) n w ⟨hne, hall⟩
  have hfound : ∀ v, Found s v → Found s (after (reconcileSubnets s) v) := fun v hv => by
    obtain ⟨v', h, -, hv'⟩ := found_pass hu hsec hv
    rwa [after_of_ok h]
  have hclear : Found s { runPasses s n w with fault := fun _ => none } := ⟨fun _ => rfl, hrun.nonempty, hrun.found⟩
  obtain ⟨w', h, -⟩ := found_pass hu hsec (runPasses_of (P := Found s) hfound m _ hclear)
  exact ⟨w', h⟩


/-- The declared entry of `foundSubnetWorld`, with the API of `tagFailureWorld`, which refuses the
tag write of the first pass. -/
def taggingRefusedWorld : World := { foundSubnetWorld with fault := tagFailureWorld.fault }

theorem unmanaged_recovers_taggingRefusedWorld :
    userVpcService.scope.vpc.isUnmanaged userVpcService.scope.name = true ∧
      userVpcService.scope.secondaryCidrBlock = none ∧ taggingRefusedWorld.subnets ≠ [] ∧
      (∀ e ∈ taggingRefusedWorld.subnets,
        ((observedSubnets userVpcService taggingRefusedWorld.cloud).findEqual e).isSome) ∧
      ∃ w', reconcileSubnets userVpcService
        (runPasses userVpcService 2 { runPasses userVpcService 1 taggingRefusedWorld with fault := fun _ => none }) =
          .ok () w' :=
  ⟨by decide, rfl, by decide, by decide, unmanaged_recovers userVpcService (by decide) rfl (by decide) (by decide) 1 2⟩

end CapaSubnets
