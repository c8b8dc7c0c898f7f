import CapaSubnets.Configuration
/-!
# A pass with an API that fails no call

With an API that fails no call, a pass of `reconcileSubnets` from a non-empty list, on a VPC
with no secondary block, fails only where the source checks the configuration. On a managed VPC
its outcome is that of the public/private checks on the list matched against the observed
subnets: the tag writes of the matching loop and every `createSubnet` return. On an unmanaged VPC
it is decided by the first entry that no observed subnet equals, whose error names the entry's ID
and block; when there is none, the pass returns nil.

Not covered here: an empty list on a managed VPC, which goes through `getDefaultSubnets` and the
splits of the package `cidr` first (`Convergence`), and a secondary block, whose stage can fail
on its own (`Runs`).
-/

namespace CapaSubnets

-- ---------------------------------------------------------------------------
-- Computations that return
-- ---------------------------------------------------------------------------

/-- From every world with an API that fails no call, `x` returns, in such a world. -/
def Succeeds {α : Type} (x : Ec2 α) : Prop := ∀ w, FaultFree w → ∃ a w', x w = .ok a w' ∧ FaultFree w'

namespace Succeeds

variable {α β : Type} {x y : Ec2 α} {f : α → Ec2 β}

theorem pure (a : α) : Succeeds (Pure.pure a : Ec2 α) := fun w hw => ⟨a, w, rfl, hw⟩

theorem bind (hx : Succeeds x) (hf : ∀ a, Succeeds (f a)) : Succeeds (x >>= f) := fun w hw =>
  let ⟨a, w₁, h₁, hw₁⟩ := hx w hw
  let ⟨b, w₂, h₂, hw₂⟩ := hf a w₁ hw₁
  ⟨b, w₂, (bind_of_ok h₁).trans h₂, hw₂⟩

theorem ite {c : Prop} [Decidable c] (hx : c → Succeeds x) (hy : ¬c → Succeeds y) :
    Succeeds (if c then x else y) := by
  by_cases hc : c
  · simpa [hc] using hx hc
  · simpa [hc] using hy hc

theorem adaptExcept (g : Fault → Fault) (hx : Succeeds x) : Succeeds (EStateM.adaptExcept g x) := fun w hw =>
  let ⟨a, w', h, hw'⟩ := hx w hw
  ⟨a, w', adaptExcept_ok.mpr h, hw'⟩

theorem issue (call : Call) (effect : Cloud → α × Cloud) : Succeeds (CapaSubnets.issue call effect) :=
  fun w hw => ⟨(effect w.cloud).1, { w with cloud := (effect w.cloud).2, calls := call :: w.calls },
    by simp [CapaSubnets.issue, hw w.calls.length], hw⟩

theorem waitForWithRetryable {retryable : List String} {condition : Ec2 Unit} (h : Succeeds condition)
    (steps : Nat) : Succeeds (CapaSubnets.waitForWithRetryable retryable condition (steps + 1)) := fun w hw =>
  let ⟨_, w', h', hw'⟩ := h w hw
  ⟨(), w', waitForWithRetryable_of_ok h' steps, hw'⟩

end Succeeds

-- ---------------------------------------------------------------------------
-- The stages
-- ---------------------------------------------------------------------------

theorem describeVpcSubnets_succeeds (s : Service) : Succeeds (describeVpcSubnets s) :=
  (Succeeds.adaptExcept _ (.issue _ _)).bind fun _ => (Succeeds.issue _ _).bind fun _ =>
    (Succeeds.issue _ _).bind fun _ => .pure _

theorem setSubnetAttribute_succeeds (id : String) (attr : SubnetAttribute) (what : String) :
    Succeeds (setSubnetAttribute id attr what) :=
  .adaptExcept _ (.waitForWithRetryable (.issue _ _) 9)

theorem createSubnet_succeeds (s : Service) (sn : SubnetSpec) : Succeeds (createSubnet s sn) :=
  (Succeeds.adaptExcept _ (.issue _ _)).bind fun _ => (Succeeds.adaptExcept _ (.issue _ _)).bind fun _ =>
    (Succeeds.ite (fun _ => setSubnetAttribute_succeeds _ _ _) fun _ => .pure ()).bind fun _ =>
      (Succeeds.ite (fun _ => setSubnetAttribute_succeeds _ _ _) fun _ => .pure ()).bind fun _ => .pure _

theorem runLoop_done {loop : Subnets → Ec2 (Subnets × Exit)} {w w' : World} {l : Subnets}
    (h : loop w.subnets w = .ok (l, .done) w') : runLoop loop w = .ok () { w' with subnets := l } := by
  rw [runLoop, bind_of_ok (rfl : getSubnets w = .ok w.subnets w), bind_of_ok h]
  rfl

theorem observeStage_succeeds {s : Service} {w : World} (hf : FaultFree w) (hne : w.subnets ≠ []) :
    ∃ w', observeStage s w = .ok (observedSubnets s w.cloud) w' ∧ w'.cloud = w.cloud ∧
      w'.subnets = w.subnets ∧ FaultFree w' := by
  have hdescribe : ∀ (c : Bool) ex, Succeeds (if c = true then describeVpcSubnets s else pure ex) :=
    fun _ _ => .ite (fun _ => describeVpcSubnets_succeeds s) fun _ => .pure _
  have hdef : setDefaultSubnets s (s.scope.vpc.isUnmanaged s.scope.name) w.subnets = pure () := by
    simp [setDefaultSubnets, hne]
  obtain ⟨ex, w', h, hf'⟩ := ((hdescribe _ _).bind fun ex =>
    (hdef ▸ Succeeds.pure () : Succeeds (setDefaultSubnets s _ w.subnets)).bind fun _ => hdescribe _ ex) w hf
  have hobs : observeStage s w = .ok ex w' := (bind_of_ok rfl).trans h
  obtain ⟨rfl, hc, hs⟩ := observeStage_ok hobs
  exact ⟨w', hobs, hc, hs.resolve_right fun h' => hne h'.1, hf'⟩

theorem appendSecondary_none {s : Service} (hsec : s.scope.secondaryCidrBlock = none) (existing : Subnets) :
    appendSecondary s existing = pure () := by
  simp [appendSecondary, hsec]

theorem checkSubnets_false_bind {β : Type} (f : Unit → Ec2 β) (w : World) :
    (checkSubnets false >>= f) w =
      if (Subnets.filterPrivate w.subnets).length < 1 then
        .error (.error "expected at least 1 private subnet but got 0") w
      else if (Subnets.filterPublic w.subnets).length < 1 then
        .error (.error "expected at least 1 public subnet but got 0") w
      else f () w := by
  rw [checkSubnets, bind_assoc, bind_of_ok (rfl : getSubnets w = .ok w.subnets w)]
  simp only [Bool.not_false, if_true]
  split_ifs <;> rfl

theorem checkSubnets_true_bind {β : Type} (f : Unit → Ec2 β) (w : World) :
    (checkSubnets true >>= f) w =
      if w.subnets.length < 1 then .error (.error "expected at least 1 subnet but got 0") w else f () w := by
  rw [checkSubnets, bind_assoc, bind_of_ok (rfl : getSubnets w = .ok w.subnets w)]
  simp only [Bool.not_true, Bool.false_eq_true, if_false]
  split_ifs <;> rfl

theorem runLoop_failed {loop : Subnets → Ec2 (Subnets × Exit)} {w w' : World} {l : Subnets} {err : Fault}
    (h : loop w.subnets w = .ok (l, .failed err) w') : runLoop loop w = .error err { w' with subnets := l } := by
  rw [runLoop, bind_of_ok (rfl : getSubnets w = .ok w.subnets w), bind_of_ok h]
  rfl

-- ---------------------------------------------------------------------------
-- The loops
-- ---------------------------------------------------------------------------

theorem matchSubnets_succeeds {s : Service} {u : Bool} {existing subnets : Subnets}
    (hu : u = false ∨ ∀ e ∈ subnets, (existing.findEqual e).isSome) {w : World} (hf : FaultFree w) :
    ∃ w', matchSubnets s u existing subnets w = .ok (subnets.map (matchedEntry existing), .done) w' ∧
      FaultFree w' := by
  induction subnets generalizing w with
  | nil => exact ⟨w, rfl, hf⟩
  | cons sub rest ih =>
    have hrest := hu.imp_right fun h e he => h e (List.mem_cons_of_mem _ he)
    cases hx : existing.findEqual sub with
    | none =>
      obtain rfl : u = false := hu.resolve_right fun h => by simpa [hx] using h sub (List.mem_cons_self _ _)
      obtain ⟨w', h', hf'⟩ := ih hrest hf
      refine ⟨w', ?_, hf'⟩
      rw [matchSubnets, hx]
      simp [bind_of_ok h', matchedEntry, hx]
    | some x =>
      obtain ⟨w₁, hf₁, hstep⟩ := matchSubnets_found rest hx hf
      obtain ⟨w₂, h₂, hf₂⟩ := ih hrest hf₁
      exact ⟨w₂, by simpa [matchedEntry, hx] using hstep _ _ h₂, hf₂⟩

theorem matchSubnets_missing {s : Service} {existing subnets : Subnets} {e : SubnetSpec}
    (he : subnets.find? (fun e => (existing.findEqual e).isNone) = some e) {w : World} (hf : FaultFree w) :
    ∃ l w', matchSubnets s true existing subnets w = .ok (l, .failed (.error ("usign unmanaged vpc and subnet " ++
      e.id ++ " (cidr " ++ e.cidrBlock ++ ") specified but it doesn't exist in vpc " ++ s.scope.vpc.id))) w' := by
  induction subnets generalizing w with
  | nil => cases he
  | cons sub rest ih =>
    rw [List.find?_cons] at he
    cases hx : existing.findEqual sub with
    | none =>
      simp only [hx, Option.isNone_none, Option.some.injEq] at he
      subst he
      exact ⟨_, _, by rw [matchSubnets, hx]; rfl⟩
    | some x =>
      simp only [hx, Option.isNone_some] at he
      obtain ⟨w₁, hf₁, hstep⟩ := matchSubnets_found rest hx hf
      obtain ⟨l, w₂, h₂⟩ := ih he hf₁
      exact ⟨_, _, hstep _ _ h₂⟩

theorem createSubnets_succeeds (s : Service) (subnets : Subnets) {w : World} (hf : FaultFree w) :
    ∃ l w', createSubnets s subnets w = .ok (l, .done) w' ∧ FaultFree w' := by
  induction subnets generalizing w with
  | nil => exact ⟨[], w, rfl, hf⟩
  | cons sub rest ih =>
    rw [createSubnets]
    split
    · obtain ⟨l, w', h, hf'⟩ := ih hf
      exact ⟨sub :: l, w', by rw [bind_of_ok h]; rfl, hf'⟩
    · obtain ⟨nsn, w₁, h₁, hf₁⟩ := createSubnet_succeeds s sub w hf
      obtain ⟨l, w', h, hf'⟩ := ih hf₁
      refine ⟨nsn :: l, w', ?_, hf'⟩
      rw [bind_of_ok (attempt_of_ok h₁)]
      dsimp only
      rw [bind_of_ok h]
      rfl

-- ---------------------------------------------------------------------------
-- A pass
-- ---------------------------------------------------------------------------

/-- With an API that fails no call, a managed pass with no secondary block from a non-empty list
runs the matching loop to the end and gets to its checks with the matched list. -/
theorem reconcileSubnets_faultFree {s : Service} (hm : s.scope.vpc.isUnmanaged s.scope.name = false)
    (hsec : s.scope.secondaryCidrBlock = none) {w : World} (hf : FaultFree w) (hne : w.subnets ≠ []) :
    ∃ w₁ w₂, w₁.cloud = w.cloud ∧ FaultFree w₂ ∧
      matchSubnets s false (observedSubnets s w.cloud) w.subnets w₁ =
        .ok (w.subnets.map (matchedEntry (observedSubnets s w.cloud)), .done) w₂ ∧
      reconcileSubnets s w = (checkSubnets false >>= fun _ => runLoop (createSubnets s))
        { w₂ with subnets := w.subnets.map (matchedEntry (observedSubnets s w.cloud)) } := by
  obtain ⟨w₁, hobs, hc₁, hs₁, hf₁⟩ := observeStage_succeeds (s := s) hf hne
  obtain ⟨w₂, hmatch, hf₂⟩ := @matchSubnets_succeeds s false (observedSubnets s w.cloud) w₁.subnets (.inl rfl) _ hf₁
  refine ⟨w₁, w₂, hc₁, hf₂, hs₁ ▸ hmatch, ?_⟩
  rw [reconcileSubnets_eq, bind_of_ok hobs]
  simp only [hm, appendSecondary_none hsec, pure_bind, Bool.not_false, if_true]
  rw [bind_of_ok (runLoop_done hmatch), hs₁]

/-- With an API that fails no call, a managed pass from a non-empty list fails only at the checks
for a private and a public entry, and otherwise returns nil. -/
theorem managed_faultFree_pass (s : Service) (hm : s.scope.vpc.isUnmanaged s.scope.name = false)
    (hsec : s.scope.secondaryCidrBlock = none) {w : World} (hf : ∀ n, w.fault n = none)
    (hne : w.subnets ≠ []) :
    ∃ w₁ w₂, reconcileSubnets s w =
      if (Subnets.filterPrivate (w.subnets.map (matchedEntry (observedSubnets s w.cloud)))).length < 1 then
        .error (.error "expected at least 1 private subnet but got 0") w₁
      else if (Subnets.filterPublic (w.subnets.map (matchedEntry (observedSubnets s w.cloud)))).length < 1 then
        .error (.error "expected at least 1 public subnet but got 0") w₁
      else .ok () w₂ := by
  obtain ⟨_, w₂, -, hf₂, -, hpass⟩ := reconcileSubnets_faultFree hm hsec hf hne
  obtain ⟨l, w₃, hcreate, -⟩ := createSubnets_succeeds s (w.subnets.map (matchedEntry (observedSubnets s w.cloud)))
    (w := { w₂ with subnets := w.subnets.map (matchedEntry (observedSubnets s w.cloud)) }) hf₂
  exact ⟨_, _, by rw [hpass, checkSubnets_false_bind, runLoop_done hcreate]⟩

theorem managed_faultFree_pass_nameTagWorld :
    ownedVpcService.scope.vpc.isUnmanaged ownedVpcService.scope.name = false ∧
      ownedVpcService.scope.secondaryCidrBlock = none ∧ (∀ n, nameTagWorld.fault n = none) ∧
      nameTagWorld.subnets ≠ [] ∧
      ∃ w₁ w₂, reconcileSubnets ownedVpcService nameTagWorld =
        if (Subnets.filterPrivate (nameTagWorld.subnets.map
            (matchedEntry (observedSubnets ownedVpcService nameTagWorld.cloud)))).length < 1 then
          .error (.error "expected at least 1 private subnet but got 0") w₁
        else if (Subnets.filterPublic (nameTagWorld.subnets.map
            (matchedEntry (observedSubnets ownedVpcService nameTagWorld.cloud)))).length < 1 then
          .error (.error "expected at least 1 public subnet but got 0") w₁
        else .ok () w₂ :=
  ⟨by decide, rfl, fun _ => rfl, by decide,
    managed_faultFree_pass ownedVpcService (by decide) rfl (fun _ => rfl) (by decide)⟩

theorem unmanaged_found_pass {s : Service} (hu : s.scope.vpc.isUnmanaged s.scope.name = true)
    (hsec : s.scope.secondaryCidrBlock = none) {w : World} (hf : FaultFree w) (hne : w.subnets ≠ [])
    (hall : ∀ e ∈ w.subnets, ((observedSubnets s w.cloud).findEqual e).isSome) :
    ∃ w', reconcileSubnets s w = .ok () w' ∧ FaultFree w' ∧ w'.cloud.untagged = w.cloud.untagged ∧
      w'.subnets = w.subnets.map (matchedEntry (observedSubnets s w.cloud)) := by
  obtain ⟨w₁, hobs, hc₁, hs₁, hf₁⟩ := observeStage_succeeds (s := s) hf hne
  obtain ⟨w₂, hmatch, hf₂⟩ :=
    @matchSubnets_succeeds s true (observedSubnets s w.cloud) w₁.subnets (.inr (hs₁ ▸ hall)) _ hf₁
  have htags : w₂.cloud.untagged = w.cloud.untagged := hc₁ ▸
    ((matchSubnets_inv (G := tagsOnly) (P := fun _ => True) s (fun _ _ _ => tagsOnly_ensure
      (fun _ _ _ _ _ => trivial) _ _) _).of_ok trivial hmatch).1
  refine ⟨{ w₂ with subnets := w.subnets.map (matchedEntry (observedSubnets s w.cloud)) }, ?_, hf₂, htags, rfl⟩
  rw [reconcileSubnets_eq, bind_of_ok hobs]
  simp only [hu, appendSecondary_none hsec, pure_bind, Bool.not_true, Bool.false_eq_true, if_false]
  rw [bind_of_ok (runLoop_done hmatch), checkSubnets_true_bind, if_neg, hs₁]
  · rfl
  · simpa [hs₁, List.length_pos] using hne

/-- With an API that fails no call, an unmanaged pass returns nil when an observed subnet equals
every entry, and otherwise fails naming the first entry none equals. -/
theorem unmanaged_faultFree_pass (s : Service) (hu : s.scope.vpc.isUnmanaged s.scope.name = true)
    (hsec : s.scope.secondaryCidrBlock = none) {w : World} (hf : ∀ n, w.fault n = none)
    (hne : w.subnets ≠ []) :
    match w.subnets.find? (fun e => ((observedSubnets s w.cloud).findEqual e).isNone) with
    | none => ∃ w', reconcileSubnets s w = .ok () w'
    | some e => ∃ w', reconcileSubnets s w = .error (.error ("usign unmanaged vpc and subnet " ++ e.id ++
        " (cidr " ++ e.cidrBlock ++ ") specified but it doesn't exist in vpc " ++ s.scope.vpc.id)) w' := by
  obtain ⟨w₁, hobs, -, hs₁, hf₁⟩ := observeStage_succeeds (s := s) hf hne
  have hpass : reconcileSubnets s w = (runLoop (matchSubnets s true (observedSubnets s w.cloud)) >>= fun _ =>
      checkSubnets true >>= fun _ => (pure () : Ec2 Unit)) w₁ := by
    rw [reconcileSubnets_eq, bind_of_ok hobs]
    simp only [hu, appendSecondary_none hsec, pure_bind, Bool.not_true, Bool.false_eq_true, if_false]
  split
  · next hnone =>
    obtain ⟨w', h, -⟩ := unmanaged_found_pass hu hsec hf hne fun e he =>
      Option.ne_none_iff_isSome.mp (by simpa using List.find?_eq_none.mp hnone e he)
    exact ⟨w', h⟩
  · next e he =>
    obtain ⟨l, w₂, hmatch⟩ := matchSubnets_missing (s := s) (hs₁ ▸ he) hf₁
    exact ⟨_, by rw [hpass, bind_of_error (runLoop_failed hmatch)]⟩

theorem unmanaged_faultFree_pass_missingSubnetWorld :
    userVpcService.scope.vpc.isUnmanaged userVpcService.scope.name = true ∧
      userVpcService.scope.secondaryCidrBlock = none ∧ (∀ n, missingSubnetWorld.fault n = none) ∧
      missingSubnetWorld.subnets ≠ [] ∧
      match missingSubnetWorld.subnets.find?
          (fun e => ((observedSubnets userVpcService missingSubnetWorld.cloud).findEqual e).isNone) with
      | none => ∃ w', reconcileSubnets userVpcService missingSubnetWorld = .ok () w'
      | some e => ∃ w', reconcileSubnets userVpcService missingSubnetWorld = .error (.error
          ("usign unmanaged vpc and subnet " ++ e.id ++ " (cidr " ++ e.cidrBlock ++
            ") specified but it doesn't exist in vpc " ++ userVpcService.scope.vpc.id)) w' :=
  ⟨by decide, rfl, fun _ => rfl, by decide,
    unmanaged_faultFree_pass userVpcService (by decide) rfl (fun _ => rfl) (by decide)⟩

end CapaSubnets
