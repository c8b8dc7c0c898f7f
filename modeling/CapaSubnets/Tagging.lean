import CapaSubnets.Runs
/-!
# The tags a pass writes on a managed VPC

On a VPC the cluster owns, a pass of `reconcileSubnets` writes tags with the `CreateTags` of the
matching loop and in the `TagSpecifications` of each `CreateSubnet`. Every tag set it writes,
however its calls fail, has the cluster's ownership tag with the value `owned`, a role tag
`public` or `private`, and a `Name`; every subnet it creates is in the cluster's VPC, and it
deletes none. So does every pass of a run. All of it comes from `getSubnetTagParams`: for a subnet of a managed
VPC it asks `build` for the subnet's role and for the entry's own `Name`, or for
`<cluster>-subnet-<role>-<zone>` when the entry has none.
-/

namespace CapaSubnets

-- ---------------------------------------------------------------------------
-- The tag builder on a managed VPC
-- ---------------------------------------------------------------------------

theorem clusterTagKey_ne_role (name : String) : clusterTagKey name ≠ nameAWSClusterAPIRole := by
  intro h
  have hpre := congrArg (fun k : String => k.data.take 38) h
  simp only [clusterTagKey, String.data_append] at hpre
  rw [List.take_append_of_le_length (by decide)] at hpre
  exact absurd hpre (by decide)

theorem clusterTagKey_ne_name (name : String) : clusterTagKey name ≠ "Name" := by
  intro h
  have hlen := congrArg String.length h
  have h45 : "sigs.k8s.io/cluster-api-provider-aws/cluster/".length = 45 := by decide
  have h4 : "Name".length = 4 := by decide
  simp only [clusterTagKey, String.length_append] at hlen
  omega

theorem build_role (s : Service) (id : String) (public : Bool) (zone : String) (manual : Tags) :
    (build (getSubnetTagParams s false id public zone manual)).lookup nameAWSClusterAPIRole =
      some (if public then publicRoleTagValue else privateRoleTagValue) := by
  have hrole : nameAWSClusterAPIRole ≠ "Name" := by decide
  simp [build, getSubnetTagParams, AList.lookup_insert_ne, hrole]

theorem build_managed (s : Service) (hname : s.scope.name ≠ "") (id : String) (public : Bool)
    (zone : String) (manual : Tags) :
    (build (getSubnetTagParams s false id public zone manual)).lookup (clusterTagKey s.scope.name) =
        some resourceLifecycleOwned ∧
      (build (getSubnetTagParams s false id public zone manual)).lookup nameAWSClusterAPIRole =
        some (if public then publicRoleTagValue else privateRoleTagValue) ∧
      (build (getSubnetTagParams s false id public zone manual)).lookup "Name" =
        some ((manual.lookup "Name").getD (s.scope.name ++ "-subnet-" ++
          (if public then publicRoleTagValue else privateRoleTagValue) ++ "-" ++ zone)) := by
  have hrole : nameAWSClusterAPIRole ≠ "Name" := by decide
  simp [build, getSubnetTagParams, hname, AList.lookup_insert_ne, clusterTagKey_ne_role,
    clusterTagKey_ne_name, hrole]

/-- A tag set of a subnet of a managed VPC: the cluster's ownership tag, a role and a `Name`. -/
def ManagedTags (s : Service) (t : Tags) : Prop :=
  t.lookup (clusterTagKey s.scope.name) = some resourceLifecycleOwned ∧
    (t.lookup nameAWSClusterAPIRole = some publicRoleTagValue ∨
      t.lookup nameAWSClusterAPIRole = some privateRoleTagValue) ∧
    (t.lookup "Name").isSome

theorem managedTags_build (s : Service) (hname : s.scope.name ≠ "") (id : String) (public : Bool)
    (zone : String) (manual : Tags) : ManagedTags s (build (getSubnetTagParams s false id public zone manual)) := by
  obtain ⟨howned, hrole, hn⟩ := build_managed s hname id public zone manual
  refine ⟨howned, ?_, by simp [hn]⟩
  cases public <;> simp [hrole]

-- ---------------------------------------------------------------------------
-- The calls of a pass
-- ---------------------------------------------------------------------------

/-- What a call of a pass on a managed VPC may be: a tag write of `ManagedTags`, a `CreateSubnet`
in the cluster's VPC with `ManagedTags`, or any other call but a `DeleteSubnet`. -/
def ManagedCall (s : Service) : Call → Prop
  | .createTags _ t => ManagedTags s t
  | .createSubnet input => input.vpcId = s.scope.vpc.id ∧ ManagedTags s input.tags
  | .deleteSubnet _ => False
  | _ => True

def managedCalls (s : Service) : Guarantee := .callsOnly (ManagedCall s)

section
variable {s : Service}

theorem managedCalls_issue {α : Type} {call : Call} {effect : Cloud → α × Cloud} (h : ManagedCall s call) :
    (managedCalls s).Holds (issue call effect) :=
  Guarantee.callsOnly_issue h (fun _ _ => trivial) fun _ _ => trivial

theorem managedCalls_reads : (managedCalls s).Reads fun _ => True where
  describe call _ h := managedCalls_issue (by cases call <;> simp_all [ManagedCall, Call.isDescribe])
  getSubnets _ _ := ⟨(managedCalls s).refl _, trivial⟩
  setSubnets _ _ _ := ⟨(managedCalls s).refl _, trivial⟩

variable (hname : s.scope.name ≠ "")
include hname

theorem managedCalls_createSubnet (sn : SubnetSpec) : (managedCalls s).Holds (createSubnet s sn) :=
  (Guarantee.Inv.adaptExcept _ (managedCalls_issue (by exact ⟨rfl, managedTags_build s hname _ _ _ _⟩))).bind
    fun out => createSubnet_rest_holds _ out (managedCalls_issue (by trivial)) fun _ _ =>
      .adaptExcept _ (waitForWithRetryable_inv _ (managedCalls_issue (by trivial)) _)

theorem managedCalls_reconcileSubnets (hm : s.scope.vpc.isUnmanaged s.scope.name = false) :
    (managedCalls s).Holds (reconcileSubnets s) :=
  reconcileSubnets_inv managedCalls_reads s (R := fun _ => True) (fun _ _ _ _ _ => trivial)
    (fun _ => managedCalls_issue (by trivial))
    (fun _ _ _ _ _ => by
      rw [hm]
      exact Guarantee.Inv.ite (fun _ => managedCalls_issue (by exact managedTags_build s hname _ _ _ _))
        fun _ => .pure ())
    fun _ sn => managedCalls_createSubnet hname sn

end

/-- On a managed VPC of a named cluster, every call of every run of passes, however they fail, is a
`ManagedCall`. -/
theorem managed_runPasses_calls (s : Service) (hm : s.scope.vpc.isUnmanaged s.scope.name = false)
    (hname : s.scope.name ≠ "") (n : Nat) (w : World) :
    ∃ new, (runPasses s n w).calls = new ++ w.calls ∧ ∀ c ∈ new, ManagedCall s c :=
  (runPasses_inv (managedCalls_reconcileSubnets hname hm) trivial n).1

theorem managed_runPasses_calls_nameTagWorld :
    ownedVpcService.scope.vpc.isUnmanaged ownedVpcService.scope.name = false ∧ ownedVpcService.scope.name ≠ "" ∧
      ∃ new, (runPasses ownedVpcService 2 nameTagWorld).calls = new ++ nameTagWorld.calls ∧
        ∀ c ∈ new, ManagedCall ownedVpcService c :=
  ⟨by decide, by decide, managed_runPasses_calls ownedVpcService (by decide) (by decide) 2 nameTagWorld⟩

end CapaSubnets
