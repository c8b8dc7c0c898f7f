import CapaSubnets.Subnets

/-!
# Laws of the EC2 monad

First the inversion lemmas of `Ec2`: what a bind, a pure value, a thrown fault, an `attempt`
and an `adaptExcept` return. Then guarantees: `G.Inv P x` says that from a world with `P`,
`x` moves the world only as `G` allows and leaves it with `P`, however it ends. A guarantee
is reflexive and transitive, so these compose along binds; the properties of whole passes
below (the calls a pass may issue, the subnets it keeps) are guarantees built from one lemma
per EC2 call.
-/

namespace CapaSubnets

section
variable {α β : Type} {x : Ec2 α} {f : α → Ec2 β} {w w' w'' : World} {a : α} {b : β}

theorem bind_apply (x : Ec2 α) (f : α → Ec2 β) (w : World) :
    (x >>= f) w = match x w with
      | .ok a w' => f a w'
      | .error e w' => .error e w' := by
  show EStateM.bind x f w = _
  unfold EStateM.bind
  cases x w <;> rfl

theorem bind_ok : (x >>= f) w = .ok b w'' ↔ ∃ a w', x w = .ok a w' ∧ f a w' = .ok b w'' := by
  rw [bind_apply]
  cases x w <;> simp [and_assoc]

theorem bind_of_ok (h : x w = .ok a w') : (x >>= f) w = f a w' := by
  rw [bind_apply, h]

theorem bind_of_error (h : x w = .error e w') : (x >>= f) w = .error e w' := by
  rw [bind_apply, h]

@[simp] theorem pure_apply (a : α) (w : World) : (pure a : Ec2 α) w = .ok a w := rfl

@[simp] theorem throw_apply (e : Fault) (w : World) : (throw e : Ec2 α) w = .error e w := rfl

theorem attempt_of_ok (h : x w = .ok a w') : attempt x w = .ok (.ok a) w' := by
  simp [attempt, h]

theorem attempt_of_error (h : x w = .error e w') : attempt x w = .ok (.error e) w' := by
  simp [attempt, h]

theorem adaptExcept_apply (g : Fault → Fault) (x : Ec2 α) (w : World) :
    EStateM.adaptExcept g x w = match x w with
      | .ok a w' => .ok a w'
      | .error e w' => .error (g e) w' := by
  unfold EStateM.adaptExcept
  cases x w <;> rfl

theorem adaptExcept_ok {g : Fault → Fault} :
    EStateM.adaptExcept g x w = .ok a w' ↔ x w = .ok a w' := by
  rw [adaptExcept_apply]
  cases x w <;> simp

theorem adaptExcept_error {g : Fault → Fault} {e : Fault} (h : EStateM.adaptExcept g x w = .error e w') :
    ∃ e', x w = .error e' w' := by
  rw [adaptExcept_apply] at h
  cases hx : x w <;> rw [hx] at h <;> cases h
  exact ⟨_, rfl⟩

@[simp] theorem after_pure (a : α) (w : World) : after (pure a : Ec2 α) w = w := rfl

@[simp] theorem after_throw (e : Fault) (w : World) : after (throw e : Ec2 α) w = w := rfl

theorem after_of_ok (h : x w = .ok a w') : after x w = w' := by
  simp [after, h]

theorem after_of_error (h : x w = .error e w') : after x w = w' := by
  simp [after, h]

theorem after_bind (x : Ec2 α) (f : α → Ec2 β) (w : World) :
    after (x >>= f) w = match x w with
      | .ok a w' => after (f a) w'
      | .error _ w' => w' := by
  simp only [after, bind_apply]
  cases x w <;> rfl

theorem after_bind_of {P : World → Prop} (hx : P (after x w))
    (hf : ∀ a w', x w = .ok a w' → P w' → P (after (f a) w')) : P (after (x >>= f) w) := by
  rw [after_bind]
  cases h : x w with
  | ok a w' => exact hf a w' h (after_of_ok h ▸ hx)
  | error _ w' => exact after_of_error h ▸ hx

@[simp] theorem after_attempt (x : Ec2 α) (w : World) : after (attempt x) w = after x w := by
  simp only [after, attempt]
  cases x w <;> rfl

@[simp] theorem after_adaptExcept (g : Fault → Fault) (x : Ec2 α) (w : World) :
    after (EStateM.adaptExcept g x) w = after x w := by
  simp only [after, adaptExcept_apply]
  cases x w <;> rfl

theorem issue_ok {call : Call} {effect : Cloud → α × Cloud} (h : issue call effect w = .ok a w') :
    w.fault w.calls.length = none ∧ a = (effect w.cloud).1 ∧
      w' = { w with cloud := (effect w.cloud).2, calls := call :: w.calls } := by
  unfold issue at h
  cases hf : w.fault w.calls.length <;> simp only [hf] at h <;> cases h
  exact ⟨rfl, rfl, rfl⟩

theorem issue_error {call : Call} {effect : Cloud → α × Cloud} (h : issue call effect w = .error e w') :
    (∃ err, w.fault w.calls.length = some err ∧ e = .aws err.code err.message) ∧
      w' = { w with calls := call :: w.calls } := by
  unfold issue at h
  cases hf : w.fault w.calls.length <;> simp only [hf] at h <;> cases h
  exact ⟨⟨_, rfl, rfl⟩, rfl⟩

end

-- ---------------------------------------------------------------------------
-- Go's runtime
-- ---------------------------------------------------------------------------

section
variable {α : Type} {w w' : World} {a : α}

@[simp] theorem index_ok {xs : List α} {i : Nat} : index xs i w = .ok a w' ↔ xs[i]? = some a ∧ w' = w := by
  unfold index
  cases xs[i]? <;> simp [eq_comm]

theorem sliceTo_ok {xs ys : List α} {n : Int} :
    sliceTo xs n w = .ok ys w' ↔ (0 ≤ n ∧ n ≤ xs.length) ∧ ys = xs.take n.toNat ∧ w' = w := by
  unfold sliceTo
  split <;> simp [*, eq_comm]

@[simp] theorem fromExcept_ok {e : Except String α} : fromExcept e w = .ok a w' ↔ e = .ok a ∧ w' = w := by
  cases e <;> simp [fromExcept, eq_comm]

@[simp] theorem deref_ok {o : Option α} : deref o w = .ok a w' ↔ o = some a ∧ w' = w := by
  cases o <;> simp [deref, eq_comm]

end

-- ---------------------------------------------------------------------------
-- Guarantees
-- ---------------------------------------------------------------------------

/-- How the world may move under a computation: reflexive and transitive, so that it composes
along a bind and along a run. -/
structure Guarantee where
  rel : World → World → Prop
  refl : ∀ w, rel w w
  trans : ∀ {a b c}, rel a b → rel b c → rel a c

/-- From every world with `P`, `x` moves the world as `G` allows and leaves it with `P`,
however it ends. -/
def Guarantee.Inv {α : Type} (G : Guarantee) (P : World → Prop) (x : Ec2 α) : Prop :=
  ∀ w, P w → G.rel w (after x w) ∧ P (after x w)

/-- `x` moves the world as `G` allows, from every world. -/
abbrev Guarantee.Holds {α : Type} (G : Guarantee) (x : Ec2 α) : Prop := G.Inv (fun _ => True) x

namespace Guarantee.Inv

variable {α β : Type} {G : Guarantee} {P : World → Prop} {x y : Ec2 α}

theorem pure (a : α) : G.Inv P (Pure.pure a : Ec2 α) := fun w hw => ⟨G.refl w, hw⟩

theorem throw (e : Fault) : G.Inv P (MonadExcept.throw e : Ec2 α) := fun w hw => ⟨G.refl w, hw⟩

theorem bind_of {f : α → Ec2 β} {R : α → Prop} (hx : G.Inv P x)
    (hr : ∀ w a w', P w → x w = .ok a w' → R a) (hf : ∀ a, R a → G.Inv P (f a)) :
    G.Inv P (x >>= f) := by
  intro w hw
  obtain ⟨hg, hp⟩ := hx w hw
  rw [after_bind]
  cases hxw : x w with
  | ok a w' =>
    rw [after_of_ok hxw] at hg hp
    obtain ⟨hg', hp'⟩ := hf a (hr w a w' hw hxw) w' hp
    exact ⟨G.trans hg hg', hp'⟩
  | error e w' =>
    rw [after_of_error hxw] at hg hp
    exact ⟨hg, hp⟩

theorem bind {f : α → Ec2 β} (hx : G.Inv P x) (hf : ∀ a, G.Inv P (f a)) : G.Inv P (x >>= f) :=
  bind_of hx (R := fun _ => True) (fun _ _ _ _ _ => trivial) fun a _ => hf a

theorem ite {c : Prop} [Decidable c] (hx : c → G.Inv P x) (hy : ¬c → G.Inv P y) :
    G.Inv P (if c then x else y) := by
  by_cases hc : c
  · simpa [hc] using hx hc
  · simpa [hc] using hy hc

theorem attempt (hx : G.Inv P x) : G.Inv P (CapaSubnets.attempt x) := fun w hw => by
  simpa using hx w hw

theorem adaptExcept (g : Fault → Fault) (hx : G.Inv P x) : G.Inv P (EStateM.adaptExcept g x) :=
  fun w hw => by simpa using hx w hw

theorem of_ok {w w' : World} {a : α} (hx : G.Inv P x) (hw : P w) (h : x w = .ok a w') :
    G.rel w w' ∧ P w' := by
  simpa [after_of_ok h] using hx w hw

theorem of_error {w w' : World} {e : Fault} (hx : G.Inv P x) (hw : P w) (h : x w = .error e w') :
    G.rel w w' ∧ P w' := by
  simpa [after_of_error h] using hx w hw

end Guarantee.Inv

end CapaSubnets
