import CapaSubnets.Progress
/-!
# No block is made twice

A pass on a managed VPC creates a subnet for each entry of the stored list that has no ID and
that no observed subnet equals. Its calls may fail anywhere, and the next pass starts from the
list the failed one stored, so an entry can reach the creation loop again after its subnet was
made: when the `CreateSubnet` returns and a later call of `createSubnet` fails, the entry is
stored without the subnet's ID. The next pass still makes no second subnet for it: its describe
observes the new subnet, and `FindEqual` matches the entry to it by its block.

So on a managed VPC that has an ID and no secondary block, from a cloud whose subnets have IDs
and whose VPC has distinct blocks, and a stored list whose entries with no ID have distinct
blocks, every run of passes keeps the VPC's blocks distinct, however its calls fail: no pass
makes a subnet with a block the VPC already has. The defaults a pass stores for an empty list
have distinct blocks when the split keeps the contract of `Defaults` and each block it returns
holds an address. With a secondary block the stored list may hold an entry twice (`Runs`), and
the argument does not apply.
-/

namespace CapaSubnets

-- ---------------------------------------------------------------------------
-- The blocks of the VPC and of the entries to create
-- ---------------------------------------------------------------------------

def Cloud.blocksOf (c : Cloud) (vpc : String) : List String :=
  (c.subnets.filter fun sn => sn.vpcId == vpc).map (·.cidrBlock)

/-- The blocks of the entries with no ID: those the creation loop makes a subnet for. -/
def Subnets.pending (l : Subnets) : List String :=
  (l.filter fun e => e.id == "").map (·.cidrBlock)

theorem Subnets.pending_cons (e : SubnetSpec) (l : Subnets) :
    Subnets.pending (e :: l) = if e.id = "" then e.cidrBlock :: l.pending else l.pending := by
  by_cases h : e.id = "" <;> simp [Subnets.pending, List.filter_cons, h]

theorem Subnets.pending_append (l l' : Subnets) : (l ++ l').pending = l.pending ++ l'.pending := by
  simp [Subnets.pending, List.filter_append]

theorem Subnets.pending_map_sublist {f : SubnetSpec → SubnetSpec} (hf : ∀ e, (f e).id = "" → f e = e)
    (l : Subnets) : (Subnets.pending (l.map f)).Sublist l.pending := by
  induction l with
  | nil => exact List.Sublist.slnil
  | cons e l ih =>
    rw [List.map_cons, Subnets.pending_cons, Subnets.pending_cons]
    by_cases hfe : (f e).id = ""
    · have he : e.id = "" := hf e hfe ▸ hfe
      rw [if_pos hfe, if_pos he, hf e hfe]
      exact ih.cons₂ _
    · rw [if_neg hfe]
      split
      · exact ih.cons _
      · exact ih

theorem Cloud.blocksOf_map (c : Cloud) {f : Ec2Subnet → Ec2Subnet} (hvpc : ∀ sn, (f sn).vpcId = sn.vpcId)
    (hb : ∀ sn, (f sn).cidrBlock = sn.cidrBlock) (vpc : String) :
    ({ c with subnets := c.subnets.map f } : Cloud).blocksOf vpc = c.blocksOf vpc := by
  simp [Cloud.blocksOf, List.filter_map, Function.comp_def, hvpc, hb]

theorem Cloud.blocksOf_append (c : Cloud) {sn : Ec2Subnet} {vpc : String} (hv : sn.vpcId = vpc) :
    ({ c with subnets := c.subnets ++ [sn] } : Cloud).blocksOf vpc = c.blocksOf vpc ++ [sn.cidrBlock] := by
  simp [Cloud.blocksOf, List.filter_append, hv]

theorem observedSubnets_blocks {s : Service} (hvpc : s.scope.vpc.id ≠ "") (c : Cloud) :
    (observedSubnets s c).map (·.cidrBlock) = c.blocksOf s.scope.vpc.id := by
  have hfilter : describeSubnetsFilter s = fun sn => sn.vpcId == s.scope.vpc.id := by
    funext sn
    simp [describeSubnetsFilter, hvpc]
  simp [observedSubnets, Cloud.blocksOf, hfilter, Function.comp_def]

-- ---------------------------------------------------------------------------
-- Calls that keep the blocks
-- ---------------------------------------------------------------------------

def keepsBlocks (vpc : String) : Guarantee where
  rel w w' := w'.cloud.blocksOf vpc = w.cloud.blocksOf vpc ∧ w'.cloud.subnetIds = w.cloud.subnetIds
  refl _ := ⟨rfl, rfl⟩
  trans h h' := ⟨h'.1.trans h.1, h'.2.trans h.2⟩

section
variable {vpc : String} {P : World → Prop}
  (hP : ∀ w c l, P w → c.blocksOf vpc = w.cloud.blocksOf vpc → c.subnetIds = w.cloud.subnetIds →
    P { w with cloud := c, calls := l })
include hP

theorem keepsBlocks_issue {α : Type} {call : Call} {effect : Cloud → α × Cloud}
    (h : ∀ c, (effect c).2.blocksOf vpc = c.blocksOf vpc ∧ (effect c).2.subnetIds = c.subnetIds) :
    (keepsBlocks vpc).Inv P (issue call effect) := fun w hw => by
  simp only [after, issue]
  cases w.fault w.calls.length with
  | some _ => exact ⟨⟨rfl, rfl⟩, hP w w.cloud _ hw rfl rfl⟩
  | none => exact ⟨h w.cloud, hP w _ _ hw (h w.cloud).1 (h w.cloud).2⟩

theorem keepsBlocks_issue_map {α : Type} {call : Call} {a : α} {f : Ec2Subnet → Ec2Subnet}
    (hf : ∀ sn, (f sn).subnetId = sn.subnetId ∧ (f sn).vpcId = sn.vpcId ∧ (f sn).cidrBlock = sn.cidrBlock) :
    (keepsBlocks vpc).Inv P (issue call fun c => (a, { c with subnets := c.subnets.map f })) :=
  keepsBlocks_issue hP fun c =>
    ⟨c.blocksOf_map (fun sn => (hf sn).2.1) (fun sn => (hf sn).2.2) vpc, by
      simp [Cloud.subnetIds, Function.comp_def, fun sn => (hf sn).1]⟩

theorem keepsBlocks_describes : (keepsBlocks vpc).Describes P where
  describe _ _ _ := keepsBlocks_issue hP fun _ => ⟨rfl, rfl⟩
  getSubnets _ hw := ⟨⟨rfl, rfl⟩, hw⟩

theorem keepsBlocks_ensure (params : BuildParams) (current : Tags) :
    (keepsBlocks vpc).Inv P (ensure params current) :=
  .ite (fun _ => keepsBlocks_issue_map hP fun sn => by split <;> exact ⟨rfl, rfl, rfl⟩) fun _ => .pure ()

theorem keepsBlocks_setSubnetAttribute (id : String) (attr : SubnetAttribute) (what : String) :
    (keepsBlocks vpc).Inv P (setSubnetAttribute id attr what) :=
  .adaptExcept _ (waitForWithRetryable_inv _ (keepsBlocks_issue_map hP fun sn => by
    split
    · cases attr <;> exact ⟨rfl, rfl, rfl⟩
    · exact ⟨rfl, rfl, rfl⟩) _)

end

theorem markIPv6_keeps (s : Service) (sn : SubnetSpec) :
    (markIPv6 s sn).id = sn.id ∧ (markIPv6 s sn).cidrBlock = sn.cidrBlock ∧ (markIPv6 s sn).isPublic = sn.isPublic := by
  unfold markIPv6
  split <;> exact ⟨rfl, rfl, rfl⟩

theorem createSubnet_blocks (s : Service) (e : SubnetSpec) {w : World} (hn : w.cloud.Named) :
    (after (createSubnet s e) w).cloud.Named ∧
      ((after (createSubnet s e) w).cloud.blocksOf s.scope.vpc.id = w.cloud.blocksOf s.scope.vpc.id ∨
        (after (createSubnet s e) w).cloud.blocksOf s.scope.vpc.id =
          w.cloud.blocksOf s.scope.vpc.id ++ [e.cidrBlock]) := by
  have hcs : createSubnet s e = EStateM.adaptExcept (Fault.wrap "failed to create subnet")
      (EC2Client.createSubnet _) >>= _ := rfl
  rw [hcs, after_bind]
  cases h₁ : EStateM.adaptExcept (Fault.wrap "failed to create subnet") (EC2Client.createSubnet _) w with
  | error err w₁ =>
    obtain ⟨_, h₀⟩ := adaptExcept_error h₁
    obtain ⟨-, rfl⟩ := issue_error h₀
    exact ⟨hn, .inl rfl⟩
  | ok out w₁ =>
    dsimp only
    obtain ⟨hid, hv, hcidr, -, -, -, hc, -⟩ := createSubnetCall_ok (adaptExcept_ok.mp h₁)
    have hc' : w₁.cloud = { w.cloud with subnets := w.cloud.subnets ++ [out] } := hc
    obtain ⟨⟨hb, hids⟩, -⟩ := createSubnet_rest_holds (G := keepsBlocks s.scope.vpc.id) (markIPv6 s e) out
      (keepsBlocks_issue (fun _ _ _ _ _ _ => trivial) fun _ => ⟨rfl, rfl⟩)
      (fun _ _ => keepsBlocks_setSubnetAttribute (fun _ _ _ _ _ _ => trivial) _ _ _) w₁ trivial
    refine ⟨fun id hmem => ?_, .inr ?_⟩
    · rw [hids, hc'] at hmem
      simp only [Cloud.subnetIds, List.map_append, List.map_cons, List.map_nil, List.mem_append,
        List.mem_singleton] at hmem
      rcases hmem with hmem | rfl
      · exact hn id hmem
      · exact hid ▸ w.cloud.freshSubnetId_ne
    · have hblocks : w₁.cloud.blocksOf s.scope.vpc.id = w.cloud.blocksOf s.scope.vpc.id ++ [e.cidrBlock] := by
        rw [hc', Cloud.blocksOf_append _ (hv.trans rfl), hcidr]
      exact hb.trans hblocks

-- ---------------------------------------------------------------------------
-- The creation loop
-- ---------------------------------------------------------------------------

theorem blocksOf_created {B B' rest : List String} {b : String} (hB : B.Nodup) (hb : b ∉ B)
    (hrest : b ∉ rest) (hfresh : ∀ x ∈ rest, x ∉ B) (h : B' = B ∨ B' = B ++ [b]) :
    B'.Nodup ∧ ∀ x ∈ rest, x ∉ B' := by
  rcases h with rfl | rfl
  · exact ⟨hB, hfresh⟩
  · refine ⟨List.nodup_append.mpr ⟨hB, List.nodup_singleton b, by simpa using hb⟩, fun x hx hmem => ?_⟩
    rcases List.mem_append.mp hmem with hmem | hmem
    · exact hfresh x hx hmem
    · exact hrest (List.mem_singleton.mp hmem ▸ hx)

theorem createSubnets_blocks (s : Service) {l : Subnets} {w : World} (hn : w.cloud.Named)
    (hb : (w.cloud.blocksOf s.scope.vpc.id).Nodup) (hp : l.pending.Nodup)
    (hfresh : ∀ b ∈ l.pending, b ∉ w.cloud.blocksOf s.scope.vpc.id) :
    ∃ r w', createSubnets s l w = .ok r w' ∧ w'.cloud.Named ∧ (w'.cloud.blocksOf s.scope.vpc.id).Nodup ∧
      r.1.pending.Sublist l.pending := by
  induction l generalizing w with
  | nil => exact ⟨_, w, rfl, hn, hb, List.Sublist.slnil⟩
  | cons e rest ih =>
    rw [createSubnets]
    by_cases hid : e.id = ""
    · rw [if_neg (by simpa using hid)]
      rw [Subnets.pending_cons, if_pos hid] at hp hfresh ⊢
      obtain ⟨he, hrest⟩ := List.nodup_cons.mp hp
      obtain ⟨hn₁, hb₁⟩ := createSubnet_blocks s e hn
      obtain ⟨hnd₁, hfresh₁⟩ := blocksOf_created hb (hfresh _ (List.mem_cons_self _ _)) he
        (fun x hx => hfresh x (List.mem_cons_of_mem _ hx)) hb₁
      cases hc : createSubnet s e w with
      | error err w₁ =>
        rw [after_of_error hc] at hn₁ hnd₁
        refine ⟨_, w₁, by rw [bind_of_ok (attempt_of_error hc)]; rfl, hn₁, hnd₁, ?_⟩
        obtain ⟨hmid, hmcidr, -⟩ := markIPv6_keeps s e
        rw [Subnets.pending_cons, if_pos (hmid.trans hid), hmcidr]
      | ok nsn w₁ =>
        rw [after_of_ok hc] at hn₁ hnd₁ hfresh₁
        obtain ⟨r, w₂, h₂, hn₂, hnd₂, hsub⟩ := ih hn₁ hnd₁ hrest hfresh₁
        refine ⟨_, w₂, by rw [bind_of_ok (attempt_of_ok hc)]; dsimp only; rw [bind_of_ok h₂]; rfl,
          hn₂, hnd₂, ?_⟩
        have hnsn : nsn.id ≠ "" := (createSubnet_ok hc).1 ▸ w.cloud.freshSubnetId_ne
        rw [Subnets.pending_cons, if_neg hnsn]
        exact hsub.cons _
    · rw [if_pos (by simpa using hid)]
      rw [Subnets.pending_cons, if_neg hid] at hp hfresh ⊢
      obtain ⟨r, w', h, hn', hb', hsub⟩ := ih hn hb hp hfresh
      refine ⟨_, w', by rw [bind_of_ok h]; rfl, hn', hb', ?_⟩
      rw [Subnets.pending_cons, if_neg hid]
      exact hsub

@[simp] theorem after_resume (exit : Exit) (w : World) : after exit.resume w = w := by
  cases exit <;> rfl

theorem after_runLoop {loop : Subnets → Ec2 (Subnets × Exit)} {w w' : World} {r : Subnets × Exit}
    (h : loop w.subnets w = .ok r w') : after (runLoop loop) w = { w' with subnets := r.1 } := by
  obtain ⟨l, exit⟩ := r
  simp only [runLoop, after_bind, getSubnets, h, setSubnets, after_resume]

-- ---------------------------------------------------------------------------
-- The stages of a pass
-- ---------------------------------------------------------------------------

/-- A world from which no pass makes a subnet with a block its VPC has: the subnets have IDs,
the VPC's blocks are distinct, and so are the blocks of the stored entries with no ID. -/
structure DistinctBlocks (s : Service) (w : World) : Prop where
  named : w.cloud.Named
  blocks : (w.cloud.blocksOf s.scope.vpc.id).Nodup
  pending : w.subnets.pending.Nodup

/-- What the matching loop starts from: a describe returned `existing`, whose blocks are the
VPC's and whose subnets have IDs. -/
structure Matching (s : Service) (existing : Subnets) (w : World) extends DistinctBlocks s w : Prop where
  observed : existing.map (·.cidrBlock) = w.cloud.blocksOf s.scope.vpc.id
  ids : ∀ x ∈ existing, x.id ≠ ""

/-- What the creation loop starts from: no block of a stored entry with no ID is the VPC's. -/
structure Creating (s : Service) (w : World) extends DistinctBlocks s w : Prop where
  fresh : ∀ b ∈ w.subnets.pending, b ∉ w.cloud.blocksOf s.scope.vpc.id

section
variable {s : Service} {w : World} {c : Cloud} (hb : c.blocksOf s.scope.vpc.id = w.cloud.blocksOf s.scope.vpc.id)
  (hid : c.subnetIds = w.cloud.subnetIds) (l : List Call)
include hb hid

theorem DistinctBlocks.stable (h : DistinctBlocks s w) : DistinctBlocks s { w with cloud := c, calls := l } :=
  ⟨fun id hmem => h.named id (hid ▸ hmem), hb ▸ h.blocks, h.pending⟩

theorem Matching.stable {existing : Subnets} (h : Matching s existing w) :
    Matching s existing { w with cloud := c, calls := l } :=
  ⟨h.toDistinctBlocks.stable hb hid l, hb ▸ h.observed, h.ids⟩

theorem Creating.stable (h : Creating s w) : Creating s { w with cloud := c, calls := l } :=
  ⟨h.toDistinctBlocks.stable hb hid l, hb ▸ h.fresh⟩

end

section
variable {s : Service} (hm : s.scope.vpc.isUnmanaged s.scope.name = false) (hvpc : s.scope.vpc.id ≠ "")

theorem getD_mem {α : Type} {l : List α} {j : Nat} (h : j < l.length) (d : α) : l.getD j d ∈ l := by
  rw [List.getD_eq_getElem?_getD, List.getElem?_eq_getElem h, Option.getD_some]
  exact List.getElem_mem _

theorem getDefaultSubnets_pending {Addr : Type} {mem : String → Addr → Prop} (h4 : s.cidr.SplitsIPv4 mem)
    (hocc : ∀ c k bs, s.cidr.splitIntoSubnetsIPv4 c k = .ok bs → ∀ b ∈ bs, ∃ a, mem b a)
    {l : Subnets} {w w' : World} (h : getDefaultSubnets s w = .ok l w') : l.pending.Nodup := by
  obtain ⟨zones, blocks, first, publics, ipv6, w₁, -, -, hblocks, hfirst, hpublics, -, hloop⟩ :=
    getDefaultSubnets_ok h
  obtain ⟨-, hids, -, hcidrs, -⟩ := zoneSubnets_ok hloop
  obtain ⟨hb, -, hbd⟩ := h4.split _ _ _ hblocks
  obtain ⟨hp, hpw, hpd⟩ := h4.split _ _ _ hpublics
  have hpend : l.pending = l.map (·.cidrBlock) := by
    rw [Subnets.pending, List.filter_eq_self.mpr fun e he => by simp [hids e he]]
  -- every block of the loop is one a split returned, so it holds an address
  have hocc' : ∀ b ∈ l.map (·.cidrBlock), ∃ a, mem b a := by
    rw [hcidrs]
    intro b hmem
    simp only [List.mem_flatMap, List.mem_range'_1, List.mem_cons, List.mem_singleton,
      List.not_mem_nil, or_false] at hmem
    obtain ⟨j, ⟨-, hj⟩, rfl | rfl⟩ := hmem
    · exact hocc _ _ _ hpublics _ (getD_mem (by omega) _)
    · exact hocc _ _ _ hblocks _ (List.mem_of_mem_drop (getD_mem (by simp; omega) _))
  have hdisj : (l.map (·.cidrBlock)).Pairwise (BlocksDisjoint mem) :=
    hcidrs ▸ zoneBlocks_disjoint hfirst (by omega) (by omega) hbd hpw hpd
  rw [hpend]
  exact hdisj.imp_of_mem fun ha _ hd heq => (hocc' _ ha).elim fun a hma => hd a hma (heq ▸ hma)

theorem matchedEntry_unmatched {existing : Subnets} (hids : ∀ x ∈ existing, x.id ≠ "") {e : SubnetSpec}
    (he : (matchedEntry existing e).id = "") : matchedEntry existing e = e ∧ existing.findEqual e = none := by
  cases hx : existing.findEqual e with
  | none => exact ⟨by rw [matchedEntry, hx]; rfl, rfl⟩
  | some x =>
    rw [matchedEntry, hx] at he
    exact absurd he (hids x (Subnets.findEqual_mem hx))

include hvpc

theorem observeStage_distinct {Addr : Type} {mem : String → Addr → Prop} (h4 : s.cidr.SplitsIPv4 mem)
    (hocc : ∀ c k bs, s.cidr.splitIntoSubnetsIPv4 c k = .ok bs → ∀ b ∈ bs, ∃ a, mem b a) :
    (keepsBlocks s.scope.vpc.id).Inv (DistinctBlocks s) (observeStage s) ∧
      ∀ w ex w', DistinctBlocks s w → observeStage s w = .ok ex w' → Matching s ex w' := by
  have hinv : (keepsBlocks s.scope.vpc.id).Inv (DistinctBlocks s) (observeStage s) := by
    refine observeStage_inv (keepsBlocks_describes fun _ _ _ h hb hid => h.stable hb hid _) s
      (Q := fun _ => True) (fun _ _ => trivial) fun subnets _ => ?_
    unfold setDefaultSubnets
    refine .ite (fun _ => .ite (fun _ => .throw _) fun _ => ?_) fun _ => .pure ()
    refine ((getDefaultSubnets_inv (keepsBlocks_describes fun _ _ _ h hb hid => h.stable hb hid _) s).adaptExcept
      _).bind_of (R := fun l => l.pending.Nodup)
      (fun _ _ _ _ h => getDefaultSubnets_pending h4 hocc (adaptExcept_ok.mp h)) fun l hl => ?_
    exact Guarantee.Inv.bind (fun w hw => ⟨⟨rfl, rfl⟩, ⟨hw.named, hw.blocks, hl⟩⟩) fun _ =>
      keepsBlocks_issue (fun _ _ _ h hb hid => h.stable hb hid _) fun _ => ⟨rfl, rfl⟩
  refine ⟨hinv, fun w ex w' hw h => ?_⟩
  obtain ⟨rfl, hc, -⟩ := observeStage_ok h
  have hw' := (hinv.of_ok hw h).2
  exact ⟨hw', hc ▸ observedSubnets_blocks hvpc w.cloud, fun x hx => hw.named _ (observedSubnets_id_mem hx)⟩

omit hvpc in
theorem matchSubnets_distinct (existing : Subnets) :
    (keepsBlocks s.scope.vpc.id).Inv (Matching s existing) (runLoop (matchSubnets s false existing)) ∧
      ∀ w w', Matching s existing w → runLoop (matchSubnets s false existing) w = .ok () w' →
        Creating s w' := by
  have hloop := @matchSubnets_inv (keepsBlocks s.scope.vpc.id) (Matching s existing) s false existing
    fun _ _ _ => keepsBlocks_ensure (fun _ _ _ h hb hid => h.stable hb hid _) _ _
  have hinv : (keepsBlocks s.scope.vpc.id).Inv (Matching s existing) (runLoop (matchSubnets s false existing)) :=
    runLoop_inv_of (keepsBlocks_describes fun _ _ _ h hb hid => h.stable hb hid _)
      (Q := fun l => l.pending.Nodup) (R := fun l => l.pending.Nodup) (fun _ hw => hw.pending)
      (fun l _ => hloop l) (fun l w r w' hl hw h => by
        obtain ⟨k, -, hr, -⟩ := matchSubnets_ok h
        rw [hr, Subnets.pending_append]
        refine (List.Sublist.append (Subnets.pending_map_sublist (fun _ he => (matchedEntry_unmatched hw.ids he).1) _)
          (List.Sublist.refl _)).nodup ?_
        rwa [← Subnets.pending_append, List.take_append_drop])
      fun w l hw hl => ⟨⟨rfl, rfl⟩, ⟨⟨hw.named, hw.blocks, hl⟩, hw.observed, hw.ids⟩⟩
  refine ⟨hinv, fun w w' hw h => ⟨(hinv.of_ok hw h).2.toDistinctBlocks, ?_⟩⟩
  obtain ⟨l, exit, w₁, hl, hexit, rfl⟩ := runLoop_ok h
  obtain ⟨k, -, hr, -, hdone, hbroke⟩ := matchSubnets_ok hl
  have hk : k = w.subnets.length := by
    cases exit with
    | done => exact hdone rfl
    | broke => exact absurd (hbroke rfl).1 Bool.false_ne_true
    | failed err => exact absurd rfl (hexit err)
  rw [hk, List.take_length, List.drop_length, List.append_nil] at hr
  have hw₁ := (hloop w.subnets).of_ok hw hl
  intro b hb
  simp only [hr, Subnets.pending, List.mem_map, List.mem_filter] at hb
  obtain ⟨_, ⟨⟨e, he, rfl⟩, hid'⟩, rfl⟩ := hb
  obtain ⟨heq, hnone⟩ := matchedEntry_unmatched hw.ids (by simpa using hid')
  show _ ∉ w₁.cloud.blocksOf _
  rw [hw₁.1.1, ← hw.observed, heq]
  intro hmem
  obtain ⟨x, hx, hxc⟩ := List.mem_map.mp hmem
  simp only [Subnets.findEqual, List.find?_eq_none] at hnone
  exact hnone x hx (by simp [hxc])

omit hvpc in
theorem createLoop_distinct {w : World} (hw : Creating s w) :
    DistinctBlocks s (after (runLoop (createSubnets s)) w) := by
  obtain ⟨r, w', h, hn, hb, hsub⟩ := createSubnets_blocks s hw.named hw.blocks hw.pending hw.fresh
  rw [after_runLoop h]
  exact ⟨hn, hb, hsub.nodup hw.pending⟩

variable (hsec : s.scope.secondaryCidrBlock = none) {Addr : Type} {mem : String → Addr → Prop}
  (h4 : s.cidr.SplitsIPv4 mem) (hocc : ∀ c k bs, s.cidr.splitIntoSubnetsIPv4 c k = .ok bs → ∀ b ∈ bs, ∃ a, mem b a)
include hm hsec h4 hocc

/-- A pass keeps `DistinctBlocks`, however it ends: it makes a subnet only for an entry with no ID
that no observed subnet equals, and at most once. -/
theorem reconcileSubnets_distinct {w : World} (hw : DistinctBlocks s w) :
    DistinctBlocks s (after (reconcileSubnets s) w) := by
  obtain ⟨hobs, hmatching⟩ := observeStage_distinct hvpc h4 hocc
  rw [reconcileSubnets_eq, after_bind]
  cases ho : observeStage s w with
  | error _ w₁ => exact (hobs.of_error hw ho).2
  | ok ex w₁ =>
    obtain ⟨hloop, hcreating⟩ := matchSubnets_distinct ex
    have hq := hmatching w ex w₁ hw ho
    dsimp only
    rw [hm, appendSecondary_none hsec, pure_bind, after_bind]
    cases hl : runLoop (matchSubnets s false ex) w₁ with
    | error _ w₂ => exact (hloop.of_error hq hl).2.toDistinctBlocks
    | ok _ w₂ =>
      have hc := hcreating w₁ w₂ hq hl
      have hchk := checkSubnets_inv (keepsBlocks_describes (P := Creating s) fun _ _ _ h hb hid => h.stable hb hid _)
        false
      dsimp only
      rw [after_bind]
      cases hk : checkSubnets false w₂ with
      | error _ w₃ => exact (hchk.of_error hc hk).2.toDistinctBlocks
      | ok _ w₃ => exact createLoop_distinct (hchk.of_ok hc hk).2

end

/-- On a managed VPC, every run of passes from a world with `DistinctBlocks`, however its calls
fail, keeps the VPC's blocks distinct. -/
theorem managed_runPasses_blocks_nodup (s : Service) (hm : s.scope.vpc.isUnmanaged s.scope.name = false)
    (hvpc : s.scope.vpc.id ≠ "") (hsec : s.scope.secondaryCidrBlock = none) {Addr : Type}
    (mem : String → Addr → Prop) (h4 : s.cidr.SplitsIPv4 mem)
    (hocc : ∀ c k bs, s.cidr.splitIntoSubnetsIPv4 c k = .ok bs → ∀ b ∈ bs, ∃ a, mem b a)
    {w : World} (hw : DistinctBlocks s w) (n : Nat) :
    ((runPasses s n w).cloud.blocksOf s.scope.vpc.id).Nodup :=
  (runPasses_inv (G := placed) (fun _ hw => ⟨(placed_reconcileSubnets s _ trivial).1,
    reconcileSubnets_distinct hm hvpc hsec h4 hocc hw⟩) hw n).2.blocks

theorem zonesWorld_distinct : DistinctBlocks dottedService (zonesWorld ["b", "a"]) :=
  ⟨(fun _ h => nomatch h), by decide, by decide⟩

theorem managed_runPasses_blocks_nodup_zonesWorld :
    dottedService.scope.vpc.isUnmanaged dottedService.scope.name = false ∧ dottedService.scope.vpc.id ≠ "" ∧
      dottedService.scope.secondaryCidrBlock = none ∧
      dottedService.cidr.SplitsIPv4 (fun b (a : List Char) => List.IsPrefix b.data a) ∧
      (∀ c k bs, dottedService.cidr.splitIntoSubnetsIPv4 c k = .ok bs → ∀ b ∈ bs,
        ∃ a : List Char, List.IsPrefix b.data a) ∧
      DistinctBlocks dottedService (zonesWorld ["b", "a"]) ∧
      ((runPasses dottedService 2 (zonesWorld ["b", "a"])).cloud.blocksOf dottedService.scope.vpc.id).Nodup :=
  ⟨by decide, by decide, rfl, dottedSplit_splitsIPv4, fun _ _ _ _ b _ => ⟨b.data, List.prefix_refl _⟩,
    zonesWorld_distinct, managed_runPasses_blocks_nodup dottedService (by decide) (by decide) rfl _
      dottedSplit_splitsIPv4 (fun _ _ _ _ b _ => ⟨b.data, List.prefix_refl _⟩) zonesWorld_distinct 2⟩

end CapaSubnets
