import Mate.Environment.Loads

set_option autoImplicit false

/-! # The cargoes of a new episode

The `while` loop of `reset` adds the cargoes of one pass until every warehouse sends some, so
the total is a multiple of the cargoes of one pass (`Cargo.fillCargoes_ensures`). At least four
cargoes per target are more than the targets can carry, so every target finds one to start
with (`Cargo.reset_returns`).
-/

namespace Mate

open Fallible

/-- All the cargoes in the warehouses. -/
def totalCargoes (remaining : Warehouse → Warehouse → ℤ) : ℤ := ∑ w, ∑ goal, remaining w goal

namespace Cargo

variable {n : ℕ} {G : Type} [RandomState G] {cfg : Config}

/-! ## Filling the warehouses -/

/-- Cargoes are non-negative, and none is in the warehouse it is meant for. -/
structure Proper (remaining : Warehouse → Warehouse → ℤ) : Prop where
  nonneg : ∀ w goal, 0 ≤ remaining w goal
  diagonal : ∀ w, remaining w w = 0

theorem addCargo_apply (remaining : Warehouse → Warehouse → ℤ)
    (sender recipient w goal : Warehouse) :
    addCargo remaining sender recipient w goal
      = remaining w goal + if w = sender ∧ goal = recipient then 1 else 0 := by
  unfold addCargo
  by_cases hw : w = sender
  · subst hw
    rw [Function.update_self]
    by_cases hgoal : goal = recipient
    · subst hgoal
      simp
    · simp [hgoal]
  · simp [hw]

theorem Proper.addCargo {remaining : Warehouse → Warehouse → ℤ} (h : Proper remaining)
    {sender recipient : Warehouse} (hne : sender ≠ recipient) :
    Proper (addCargo remaining sender recipient) where
  nonneg := by
    intro w goal
    have := h.nonneg w goal
    rw [addCargo_apply]
    split <;> omega
  diagonal := by
    intro w
    rw [addCargo_apply, h.diagonal, if_neg (fun heq => hne (heq.1.symm.trans heq.2)), add_zero]

theorem totalCargoes_addCargo (remaining : Warehouse → Warehouse → ℤ)
    (sender recipient : Warehouse) :
    totalCargoes (addCargo remaining sender recipient) = totalCargoes remaining + 1 := by
  have hrow : ∑ goal, addCargo remaining sender recipient sender goal
      = ∑ goal, remaining sender goal + 1 := by
    rw [sum_eq_add_of_eq_off recipient (f := fun goal => remaining sender goal)]
    · rw [addCargo_apply]
      simp
    · intro goal hgoal
      rw [addCargo_apply]
      simp [hgoal]
  rw [totalCargoes, sum_eq_add_of_eq_off sender (f := fun w => ∑ goal, remaining w goal)]
  · rw [hrow, totalCargoes]
    omega
  · intro w hw
    refine Finset.sum_congr rfl (fun goal _ => ?_)
    rw [addCargo_apply]
    simp [hw]

/-- A pass of `k` draws adds `k` cargoes. -/
theorem fillPass_spec (k : ℕ) (remaining : Warehouse → Warehouse → ℤ) (g : G)
    (h : Proper remaining) :
    Proper (fillPass k remaining g).1
      ∧ totalCargoes (fillPass k remaining g).1 = totalCargoes remaining + k := by
  induction k generalizing remaining g with
  | zero => exact ⟨h, by simp [fillPass]⟩
  | succ k ih =>
      have hne := RandomState.choicePair_ne g
      obtain ⟨hproper, htotal⟩ := ih
        (addCargo remaining (RandomState.choicePair g).1.1 (RandomState.choicePair g).1.2)
        (RandomState.choicePair g).2 (h.addCargo hne)
      refine ⟨hproper, htotal.trans ?_⟩
      rw [totalCargoes_addCargo]
      push_cast
      ring

/-- Two passes are one longer pass. -/
theorem fillPass_add (j k : ℕ) (remaining : Warehouse → Warehouse → ℤ) (g : G) :
    fillPass (k + j) remaining g
      = fillPass k (fillPass j remaining g).1 (fillPass j remaining g).2 := by
  induction j generalizing remaining g with
  | zero => rfl
  | succ j ih => exact ih _ _

/-- The pairs of a sender and a recipient that `k` draws give. -/
def draws : ℕ → G → List (Warehouse × Warehouse)
  | 0, _ => []
  | k + 1, g => (RandomState.choicePair g).1 :: draws k (RandomState.choicePair g).2

/-- A pass adds to a warehouse exactly what is drawn for it. -/
theorem fillPass_apply (k : ℕ) (remaining : Warehouse → Warehouse → ℤ) (g : G)
    (w goal : Warehouse) :
    (fillPass k remaining g).1 w goal = remaining w goal + ((draws k g).count (w, goal) : ℤ) := by
  induction k generalizing remaining g with
  | zero => simp [fillPass, draws]
  | succ k ih =>
      refine (ih (addCargo remaining (RandomState.choicePair g).1.1
        (RandomState.choicePair g).1.2) (RandomState.choicePair g).2).trans ?_
      rw [addCargo_apply, draws, List.count_cons]
      by_cases h : w = (RandomState.choicePair g).1.1 ∧ goal = (RandomState.choicePair g).1.2
      · have heq : (RandomState.choicePair g).1 = (w, goal) := Prod.ext h.1.symm h.2.symm
        simp only [heq, and_self, if_true, beq_self_eq_true]
        push_cast
        ring
      · have hne : ¬ (RandomState.choicePair g).1 = (w, goal) := by
          intro heq
          exact h ⟨by rw [heq], by rw [heq]⟩
        simp [h, hne]

theorem proper_zero : Proper 0 := ⟨fun _ _ => le_refl _, fun _ => rfl⟩

/-- The cargoes after the first pass of the `while` loop. -/
def firstPass (cfg : Config) (g : G) : Warehouse → Warehouse → ℤ :=
  (fillPass (cfg.numCargoesPerTarget * cfg.numTargets) 0 g).1

/-- The first pass is enough when it draws every warehouse as a sender. -/
theorem allSend_firstPass (g : G) :
    allSend (firstPass cfg g) = true ↔
      ∀ w, ∃ goal, (w, goal) ∈ draws (cfg.numCargoesPerTarget * cfg.numTargets) g := by
  rw [allSend, decide_eq_true_eq]
  refine forall_congr' (fun w => exists_congr (fun goal => ?_))
  rw [firstPass, fillPass_apply, ← List.count_pos_iff]
  show (0 : ℤ) + _ ≠ 0 ↔ _
  omega

/-- The warehouses of a new episode after a number of passes. -/
structure Filled (cfg : Config) (remaining : Warehouse → Warehouse → ℤ)
    (awaiting : Warehouse → ℤ) (passes : ℕ) : Prop where
  proper : Proper remaining
  total : totalCargoes remaining = passes * (cfg.numCargoesPerTarget * cfg.numTargets : ℕ)
  awaiting : 0 < passes → ∀ goal, awaiting goal = ∑ w, remaining w goal

/-- The `while` loop, entered after `passes` passes. -/
theorem fillCargoes_ensures (fuel : ℕ) (remaining : Warehouse → Warehouse → ℤ)
    (awaiting : Warehouse → ℤ) (g : G) (passes : ℕ) (h : Filled cfg remaining awaiting passes) :
    Ensures (fillCargoes cfg fuel remaining awaiting g) (fun r =>
      ∃ more, Filled cfg r.1 r.2.1 (passes + more) ∧ allSend r.1 = true
        ∧ (more = 0 ↔ allSend remaining = true)) := by
  induction fuel generalizing remaining awaiting g passes with
  | zero => intro r hr; cases hr
  | succ fuel ih =>
      rw [fillCargoes]
      by_cases hsend : allSend remaining = true
      · rw [if_pos hsend]
        exact Ensures.pure ⟨0, h, hsend, by simp [hsend]⟩
      · rw [if_neg hsend]
        obtain ⟨hproper, htotal⟩ :=
          fillPass_spec (cfg.numCargoesPerTarget * cfg.numTargets) remaining g h.proper
        refine (ih _ _ _ (passes + 1) ⟨hproper, ?_, fun _ _ => rfl⟩).mono ?_
        · rw [htotal, h.total]
          push_cast
          ring
        · rintro r ⟨more, hfilled, hr, -⟩
          refine ⟨more + 1, ?_, hr, by simp [hsend]⟩
          rw [← add_assoc, add_right_comm]
          exact hfilled

theorem fillCargoes_error {fuel : ℕ} {remaining : Warehouse → Warehouse → ℤ}
    {awaiting : Warehouse → ℤ} {g : G} {e : Error}
    (h : fillCargoes cfg fuel remaining awaiting g = .error e) : e = .outOfFuel := by
  induction fuel generalizing remaining awaiting g with
  | zero => cases h; rfl
  | succ fuel ih =>
      rw [fillCargoes] at h
      split at h
      · cases h
      · exact ih h

/-- The loop ends when some number of passes is enough. -/
theorem fillCargoes_ne_outOfFuel (k : ℕ) (remaining : Warehouse → Warehouse → ℤ)
    (awaiting : Warehouse → ℤ) (g : G)
    (h : allSend (fillPass (k * (cfg.numCargoesPerTarget * cfg.numTargets)) remaining g).1
      = true) :
    fillCargoes cfg (k + 1) remaining awaiting g ≠ .error .outOfFuel := by
  induction k generalizing remaining awaiting g with
  | zero =>
      rw [zero_mul, fillPass] at h
      rw [fillCargoes, if_pos h]
      exact fun hc => by cases hc
  | succ k ih =>
      rw [fillCargoes]
      split
      · exact fun hc => by cases hc
      · refine ih _ _ _ ?_
        rwa [← fillPass_add, ← Nat.succ_mul]

/-- The loop of `reset`: one pass, and more of them only if that one left a warehouse with
nothing to send. -/
theorem fillCargoes_zero (fuel : ℕ) (awaiting : Warehouse → ℤ) (g : G) :
    Ensures (fillCargoes cfg fuel 0 awaiting g) (fun r =>
      ∃ passes, Filled cfg r.1 r.2.1 passes ∧ 0 < passes
        ∧ (passes = 1 ↔ allSend (firstPass cfg g) = true)) := by
  cases fuel with
  | zero => intro r hr; cases hr
  | succ fuel =>
      have hzero : allSend 0 = false := by decide
      obtain ⟨hproper, htotal⟩ :=
        fillPass_spec (cfg.numCargoesPerTarget * cfg.numTargets) 0 g proper_zero
      rw [fillCargoes, if_neg (by simp [hzero])]
      refine (fillCargoes_ensures fuel _ _ _ 1 ⟨hproper, ?_, fun _ _ => rfl⟩).mono ?_
      · rw [htotal]
        simp [totalCargoes]
      · rintro r ⟨more, hfilled, -, hmore⟩
        refine ⟨1 + more, hfilled, by omega, ?_⟩
        rw [firstPass, ← hmore]
        omega

/-! ## A cargo to start with -/

section

variable {c : Cargo n}

/-- The awaited cargoes are in the warehouses or on the targets. -/
theorem Valid.sum_awaiting (h : c.Valid cfg) :
    ∑ goal, c.awaitingCargoCounts goal = totalCargoes c.remainingCargoes + ∑ t, c.weight t := by
  simp only [h.awaiting, Finset.sum_add_distrib, totalCargoes, weight]
  rw [Finset.sum_comm, Finset.sum_comm (f := fun goal t => c.targetGoalBits t goal)]

theorem Valid.weight_le_capacity (h : c.Valid cfg) (t : Fin n) :
    c.weight t ≤ c.targetCapacities t := by
  cases hgoal : c.targetGoals t with
  | none =>
      rw [(h.unloaded hgoal).weight_eq]
      exact zero_le_one.trans (h.capacity_pos t)
  | some goal =>
      obtain ⟨weight, hw⟩ := h.carries hgoal
      rw [hw.weight_eq]
      exact hw.le_capacity

/-- With more cargoes than the targets can carry, some warehouse has cargoes left. -/
theorem Valid.exists_stocked (h : c.Valid cfg) (hcap : ∀ t, c.targetCapacities t ≤ 2)
    (hmany : 2 * (n : ℤ) < ∑ goal, c.awaitingCargoCounts goal) :
    ∃ w, c.stocked w = true := by
  by_contra hnone
  have hzero : totalCargoes c.remainingCargoes = 0 := by
    refine Finset.sum_eq_zero (fun w _ => Finset.sum_eq_zero (fun goal _ => ?_))
    by_contra hne
    exact hnone ⟨w, decide_eq_true ⟨goal, hne⟩⟩
  have hweights : ∑ t, c.weight t ≤ ∑ _t : Fin n, (2 : ℤ) :=
    Finset.sum_le_sum (fun t _ => (h.weight_le_capacity t).trans (hcap t))
  rw [Finset.sum_const, Finset.card_univ, Fintype.card_fin, nsmul_eq_mul] at hweights
  have := h.sum_awaiting
  omega

end

/-- What the loop over the targets without a goal has done when it has gone through the
targets of the list. -/
structure Started (cfg : Config) (s : Ledger n G) (served : List (Fin n)) (s' : Ledger n G) :
    Prop where
  valid : s'.cargo.Valid cfg
  remaining_le : ∀ w goal, s'.cargo.remainingCargoes w goal ≤ s.cargo.remainingCargoes w goal
  awaiting : s'.cargo.awaitingCargoCounts = s.cargo.awaitingCargoCounts
  delivered : s'.cargo.numDeliveredCargoes = s.cargo.numDeliveredCargoes
  capacities : s'.cargo.targetCapacities = s.cargo.targetCapacities
  emptyBits : s'.cargo.emptyBits = s.cargo.emptyBits
  dones : s'.cargo.targetDones = s.cargo.targetDones
  debt : s'.cargo.debt cfg = s.cargo.debt cfg
  sameGoal : ∀ t, t ∉ served → s'.cargo.targetGoals t = s.cargo.targetGoals t
  assigned : ∀ t ∈ served, s'.cargo.targetGoals t ≠ none

omit [RandomState G] in
theorem Started.start {s : Ledger n G} (hs : s.cargo.Valid cfg) : Started cfg s [] s :=
  ⟨hs, fun _ _ => le_refl _, rfl, rfl, rfl, rfl, rfl, rfl, fun _ _ => rfl, fun t ht => by cases ht⟩

omit [RandomState G] in
/-- One more target, not served before. -/
theorem Started.load {s s' : Ledger n G} {served : List (Fin n)} {t : Fin n} {w goal : Warehouse}
    (h : Started cfg s served s') (hload : s'.cargo.CanLoad t w goal) (rng : G) :
    Started cfg s (served ++ [t]) { s' with cargo := s'.cargo.load cfg t w goal, rng } where
  valid := hload.valid h.valid
  remaining_le := by
    intro w' goal'
    have hpos := hload.weight_pos h.valid
    have hle := h.remaining_le w' goal'
    show (s'.cargo.load cfg t w goal).remainingCargoes w' goal' ≤ _
    rw [load_remaining]
    split <;> omega
  awaiting := h.awaiting
  delivered := h.delivered
  capacities := h.capacities
  emptyBits := h.emptyBits
  dones := h.dones
  debt := (hload.debt h.valid).trans h.debt
  sameGoal := by
    intro t' ht'
    rw [List.mem_append, not_or, List.mem_singleton] at ht'
    exact (sameLoad_load ht'.2 w goal).goal.trans (h.sameGoal t' ht'.1)
  assigned := by
    intro t' ht'
    by_cases heq : t' = t
    · subst heq
      have hgoals : (s'.cargo.load cfg t' w goal).targetGoals t' = some goal :=
        Function.update_self ..
      rw [hgoals]
      exact Option.some_ne_none goal
    · -- the targets that were served before
      have hin : t' ∈ served := by
        rcases List.mem_append.mp ht' with hin | hnew
        · exact hin
        · exact absurd (List.mem_singleton.mp hnew) heq
      rw [(sameLoad_load heq w goal).goal]
      exact h.assigned t' hin

theorem startTarget_returns {s : Ledger n G} (hs : s.cargo.Valid cfg) (t : Fin n)
    (hstocked : ∃ w, s.cargo.stocked w = true) :
    Returns (startTarget cfg s t) (fun s' => ∃ w goal rng, 0 < s.cargo.remainingCargoes w goal ∧
      s' = { s with cargo := s.cargo.load cfg t w goal, rng }) := by
  obtain ⟨w, hw⟩ := hstocked
  rw [startTarget]
  set σ := (RandomState.permutation NUM_WAREHOUSES s.rng).1 with hσ
  set rng := (RandomState.permutation NUM_WAREHOUSES s.rng).2 with hrng
  dsimp only
  cases hfind : ((List.finRange NUM_WAREHOUSES).map σ).find? s.cargo.stocked with
  | none =>
      have hmem : w ∈ (List.finRange NUM_WAREHOUSES).map σ :=
        List.mem_map.mpr ⟨σ.symm w, List.mem_finRange _, σ.apply_symm_apply w⟩
      exact absurd hw (List.find?_eq_none.mp hfind w hmem)
  | some w' =>
      have hw' : s.cargo.stocked w' = true := List.find?_some hfind
      refine (Ledger.pickUp_returns (s := { s with rng }) (hs.remaining_nonneg w') hw').mono ?_
      rintro s' ⟨goal, rng', hpos, rfl⟩
      exact ⟨w', goal, rng', hpos, rfl⟩

/-- Every target finds a cargo to start with, so the assertion holds. -/
theorem startWithCargoes_returns {s : Ledger n G} (hs : s.cargo.Valid cfg)
    (hcap : ∀ t, s.cargo.targetCapacities t ≤ 2)
    (hmany : 2 * (n : ℤ) < ∑ goal, s.cargo.awaitingCargoCounts goal) :
    Returns (startWithCargoes cfg s) (fun s' => (∃ served, Started cfg s served s') ∧
      (cfg.targetsStartWithCargoes = true → ∀ t, s'.cargo.targetGoals t ≠ none)) := by
  rw [startWithCargoes]
  by_cases hstart : cfg.targetsStartWithCargoes = true
  · rw [if_pos hstart]
    set unassigned := (List.finRange n).filter (fun t => s.cargo.targetGoals t = none) with hun
    have hnodup : unassigned.Nodup := (List.nodup_finRange n).filter _
    have hloop : Returns (unassigned.foldlM (startTarget cfg) s) (Started cfg s unassigned) := by
      refine Returns.foldlM (Started cfg s) _ s (Started.start hs) ?_
      intro served t rest s' hall h
      -- there are more cargoes than the targets can carry
      have hstocked : ∃ w, s'.cargo.stocked w = true :=
        h.valid.exists_stocked (by rw [h.capacities]; exact hcap) (by rw [h.awaiting]; exact hmany)
      have ht : t ∈ unassigned := by rw [hall]; simp
      have hnone : s.cargo.targetGoals t = none := of_decide_eq_true (List.mem_filter.mp ht).2
      have hserved : t ∉ served := by
        rw [hall] at hnodup
        exact fun hmem => (List.disjoint_of_nodup_append hnodup) hmem List.mem_cons_self
      refine (startTarget_returns h.valid t hstocked).mono ?_
      rintro s'' ⟨w, goal, rng, hpos, rfl⟩
      exact h.load ⟨(h.sameGoal t hserved).trans hnone, hpos⟩ rng
    refine hloop.bind (fun s' h => ?_)
    have hall : ∀ t, s'.cargo.targetGoals t ≠ none := by
      intro t
      by_cases ht : t ∈ unassigned
      · exact h.assigned t ht
      · rw [h.sameGoal t ht]
        intro hnone
        exact ht (List.mem_filter.mpr ⟨List.mem_finRange t, decide_eq_true hnone⟩)
    rw [if_pos hall]
    exact Returns.pure ⟨⟨unassigned, h⟩, fun _ => hall⟩
  · rw [if_neg hstart]
    exact ⟨s, rfl, ⟨[], Started.start hs⟩, fun h => absurd h hstart⟩

/-! ## The reset -/

/-- **What `reset` leaves** of the cargoes, when the generator was `g` before they were drawn. -/
structure Ready (cfg : Config) (g : G) (c : Cargo n) : Prop where
  valid : c.Valid cfg
  delivered : c.numDeliveredCargoes = 0
  debt : c.debt cfg = 0
  capacity_le : ∀ t, c.targetCapacities t ≤ 2
  dones : ∀ t, c.targetDones t = false
  empty : ∀ t w, c.emptyBits t w = true → ∀ goal, c.remainingCargoes w goal = 0
  assigned : cfg.targetsStartWithCargoes = true → ∀ t, c.targetGoals t ≠ none
  total : ∃ passes : ℕ, 0 < passes
    ∧ ∑ goal, c.awaitingCargoCounts goal
      = passes * (cfg.numCargoesPerTarget * cfg.numTargets : ℕ)
    ∧ (passes = 1 ↔ allSend (firstPass cfg g) = true)

theorem valid_clear {c : Cargo n} {remaining : Warehouse → Warehouse → ℤ}
    {awaiting : Warehouse → ℤ} (hcap : ∀ t, 1 ≤ c.targetCapacities t) (hbits : c.goalBits = 0)
    (hproper : Proper remaining) (hawaiting : ∀ goal, awaiting goal = ∑ w, remaining w goal) :
    (c.clear remaining awaiting).Valid cfg where
  remaining_nonneg := hproper.nonneg
  diagonal := hproper.diagonal
  capacity_pos := hcap
  awaiting := by
    intro goal
    show awaiting goal = ∑ w, remaining w goal + ∑ _t, (0 : ℤ)
    rw [hawaiting, Finset.sum_const_zero, add_zero]
  load := fun t => ⟨congrFun hbits t, ⟨rfl, rfl, rfl⟩⟩

theorem debt_clear (c : Cargo n) (remaining : Warehouse → Warehouse → ℤ)
    (awaiting : Warehouse → ℤ) : (c.clear remaining awaiting).debt cfg = 0 := by
  simp [debt, weight, clear]

/-- The cargo part of `reset` returns unless the bound on the `while` loop is reached: its
assertion cannot fail. -/
theorem reset_returns {c : Cargo cfg.numTargets} (fuel : ℕ)
    (inside : Fin cfg.numTargets → Warehouse → Bool) (tracked : Fin cfg.numTargets → Bool) (g : G)
    (hcap : ∀ t, 1 ≤ c.targetCapacities t ∧ c.targetCapacities t ≤ 2) (hbits : c.goalBits = 0)
    (hempty : ∀ t w, c.emptyBits t w = false) :
    fillCargoes cfg fuel 0 c.awaitingCargoCounts g = .error .outOfFuel
        ∧ c.reset cfg fuel inside tracked g = .error .outOfFuel
      ∨ Returns (c.reset cfg fuel inside tracked g) (fun s => Ready cfg g s.cargo) := by
  rw [reset]
  cases hfill : fillCargoes cfg fuel 0 c.awaitingCargoCounts g with
  | error e =>
      left
      rw [fillCargoes_error hfill]
      exact ⟨rfl, rfl⟩
  | ok r =>
      right
      obtain ⟨remaining, awaiting, g'⟩ := r
      obtain ⟨passes, hfilled, hpasses, hfirst⟩ := fillCargoes_zero _ _ _ _ hfill
      have hvalid : (c.clear remaining awaiting).Valid cfg := valid_clear (fun t => (hcap t).1) hbits hfilled.proper
        (hfilled.awaiting hpasses)
      refine (assignGoals_returns hvalid inside tracked g').bind (fun s hs => ?_)
      -- nobody had a goal, so nothing was delivered and nothing was paid
      have hawaiting : ∀ goal, s.cargo.awaitingCargoCounts goal = awaiting goal := by
        intro goal
        rw [hs.awaiting]
        simp [deliveryTo, delivers, clear]
      have hreward : s.targetTeamReward = 0 := by
        rw [hs.reward]
        have hlost : ∀ t, (c.clear remaining awaiting).lost tracked t = 0 := by
          intro t
          simp [lost, clear]
        have hpay : ∀ t, ((c.clear remaining awaiting).chargeBounties tracked).payment inside t = 0 :=
          fun _ => rfl
        simp [hlost, hpay]
      have hdelayed : s.delayedTargetTeamReward = 0 := by
        rw [hs.delayedReward]
        exact Finset.sum_eq_zero (fun _ _ => rfl)
      have hdebt : s.cargo.debt cfg = 0 := by
        have hbalance := hs.balance
        rw [debt_clear, Ledger.balance, hreward, hdelayed] at hbalance
        omega
      have hsum : ∑ goal, s.cargo.awaitingCargoCounts goal
          = passes * (cfg.numCargoesPerTarget * cfg.numTargets : ℕ) := by
        rw [← hfilled.total, totalCargoes, Finset.sum_comm]
        exact Finset.sum_congr rfl
          (fun goal _ => (hawaiting goal).trans (hfilled.awaiting hpasses goal))
      set s₁ : Ledger cfg.numTargets G :=
        { s with cargo := { s.cargo with
            targetDones := fun _ => false, numDeliveredCargoes := 0 } } with hs₁
      have hvalid₁ : s₁.cargo.Valid cfg := ⟨hs.valid.remaining_nonneg, hs.valid.diagonal,
        hs.valid.capacity_pos, hs.valid.awaiting,
        fun t => SameLoad.loadOk (c := s.cargo) ⟨rfl, rfl, rfl, rfl, rfl⟩ rfl (hs.valid.load t)⟩
      have hcap₁ : ∀ t, s₁.cargo.targetCapacities t ≤ 2 := by
        intro t
        show s.cargo.targetCapacities t ≤ 2
        rw [hs.capacities]
        exact (hcap t).2
      have hmany : 2 * (cfg.numTargets : ℤ) < ∑ goal, s₁.cargo.awaitingCargoCounts goal := by
        show _ < ∑ goal, s.cargo.awaitingCargoCounts goal
        have h4 := cfg.le_numCargoesPerTarget
        have hn : 0 < cfg.numTargets := cfg.numTargets_pos
        have hone : 4 * cfg.numTargets ≤ cfg.numCargoesPerTarget * cfg.numTargets :=
          Nat.mul_le_mul_right _ h4
        have hall : cfg.numCargoesPerTarget * cfg.numTargets
            ≤ passes * (cfg.numCargoesPerTarget * cfg.numTargets) :=
          Nat.le_mul_of_pos_left _ hpasses
        rw [hsum]
        have hbound : 2 * cfg.numTargets < passes * (cfg.numCargoesPerTarget * cfg.numTargets) := by
          omega
        exact_mod_cast hbound
      refine (startWithCargoes_returns hvalid₁ hcap₁ hmany).mono ?_
      rintro s₂ ⟨⟨served, h⟩, hassigned⟩
      exact
        { valid := h.valid
          delivered := h.delivered
          debt := h.debt.trans hdebt
          capacity_le := by rw [h.capacities]; exact hcap₁
          dones := fun t => congrFun h.dones t
          empty := by
            intro t w hbit goal
            rw [h.emptyBits] at hbit
            rcases hs.bitsSound t w hbit with hold | hnone
            · exact absurd ((hempty t w).symm.trans hold) Bool.false_ne_true
            · refine le_antisymm ?_ (h.valid.remaining_nonneg w goal)
              exact (h.remaining_le w goal).trans (hnone goal).le
          assigned := hassigned
          total := ⟨passes, hpasses, by rw [h.awaiting]; exact hsum, hfirst⟩ }

end Cargo

end Mate
