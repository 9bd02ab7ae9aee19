import Mate.Environment.Cargo
import Mate.Library.Fallible

set_option autoImplicit false

/-! # What one round of goals does

`Cargo.Valid` says that the copies of a load agree with each other and that every cargo a
warehouse awaits is either in a warehouse or on its way. `assignTarget` is first reduced to
three outcomes (`Ledger.Visited`); everything later proofs need of it is collected in
`Ledger.Served`, and everything they need of `assignGoals` in `Cargo.Assigned`.
-/

namespace Mate

open Fallible

/-- A sum of which only the term at `i` changes. -/
theorem sum_eq_add_of_eq_off {ι : Type} [Fintype ι] [DecidableEq ι] {f g : ι → ℤ} (i : ι)
    (h : ∀ j, j ≠ i → g j = f j) : ∑ j, g j = ∑ j, f j + (g i - f i) := by
  have hoff : ∑ j ∈ Finset.univ.erase i, g j = ∑ j ∈ Finset.univ.erase i, f j :=
    Finset.sum_congr rfl (fun j hj => h j (Finset.ne_of_mem_erase hj))
  have h₁ := Finset.add_sum_erase Finset.univ g (Finset.mem_univ i)
  have h₂ := Finset.add_sum_erase Finset.univ f (Finset.mem_univ i)
  omega

namespace Cargo

variable {n : ℕ}

/-! ## The invariant -/

/-- `sum_g target_goal_bits[t, g]`. -/
def weight (c : Cargo n) (t : Fin n) : ℤ := ∑ goal, c.targetGoalBits t goal

/-- The target carries `weight` cargoes to `goal`, and nothing else. -/
structure Carries (cfg : Config) (c : Cargo n) (t : Fin n) (goal : Warehouse) (weight : ℤ) :
    Prop where
  pos : 1 ≤ weight
  le_capacity : weight ≤ c.targetCapacities t
  bits : c.targetGoalBits t = Pi.single goal weight
  freight : c.freights t = weight * cfg.freightScale
  bounty_nonneg : 0 ≤ c.bounties t
  bounty_le : c.bounties t ≤ weight * cfg.bountyScale

/-- The target carries nothing. -/
structure Unloaded (c : Cargo n) (t : Fin n) : Prop where
  bits : c.targetGoalBits t = 0
  freight : c.freights t = 0
  bounty : c.bounties t = 0

/-- The five copies of the load of a target agree. -/
def LoadOk (cfg : Config) (c : Cargo n) (t : Fin n) : Prop :=
  c.goalBits t = c.targetGoalBits t ∧
    match c.targetGoals t with
    | none => c.Unloaded t
    | some goal => ∃ weight, c.Carries cfg t goal weight

structure Valid (cfg : Config) (c : Cargo n) : Prop where
  remaining_nonneg : ∀ w goal, 0 ≤ c.remainingCargoes w goal
  diagonal : ∀ w, c.remainingCargoes w w = 0
  capacity_pos : ∀ t, 1 ≤ c.targetCapacities t
  awaiting : ∀ goal, c.awaitingCargoCounts goal
    = ∑ w, c.remainingCargoes w goal + ∑ t, c.targetGoalBits t goal
  load : ∀ t, c.LoadOk cfg t

/-- The cargoes in play: delivered or awaited. -/
def units (c : Cargo n) : ℤ := c.numDeliveredCargoes + ∑ goal, c.awaitingCargoCounts goal

/-- The bounty that the loads of the targets have lost. -/
def debt (cfg : Config) (c : Cargo n) : ℤ :=
  ∑ t, (c.weight t * cfg.bountyScale - c.bounties t)

/-- The load of a target is the same in both. -/
structure SameLoad (c c' : Cargo n) (t : Fin n) : Prop where
  goal : c'.targetGoals t = c.targetGoals t
  bits : c'.targetGoalBits t = c.targetGoalBits t
  goalBits : c'.goalBits t = c.goalBits t
  freight : c'.freights t = c.freights t
  bounty : c'.bounties t = c.bounties t

theorem SameLoad.refl (c : Cargo n) (t : Fin n) : SameLoad c c t := ⟨rfl, rfl, rfl, rfl, rfl⟩

theorem SameLoad.trans {c c' c'' : Cargo n} {t : Fin n} (h : SameLoad c c' t)
    (h' : SameLoad c' c'' t) : SameLoad c c'' t :=
  ⟨h'.goal.trans h.goal, h'.bits.trans h.bits, h'.goalBits.trans h.goalBits,
    h'.freight.trans h.freight, h'.bounty.trans h.bounty⟩

theorem SameLoad.weight {c c' : Cargo n} {t : Fin n} (h : SameLoad c c' t) :
    c'.weight t = c.weight t := by
  simp only [Cargo.weight, h.bits]

theorem SameLoad.loadOk {cfg : Config} {c c' : Cargo n} {t : Fin n} (h : SameLoad c c' t)
    (hcap : c'.targetCapacities t = c.targetCapacities t) (hc : c.LoadOk cfg t) :
    c'.LoadOk cfg t := by
  refine ⟨by rw [h.goalBits, h.bits]; exact hc.1, ?_⟩
  have hload := hc.2
  rw [h.goal]
  cases hgoal : c.targetGoals t with
  | none =>
      rw [hgoal] at hload
      exact ⟨h.bits.trans hload.bits, h.freight.trans hload.freight, h.bounty.trans hload.bounty⟩
  | some goal =>
      rw [hgoal] at hload
      obtain ⟨weight, hw⟩ := hload
      exact ⟨weight, hw.pos, hcap ▸ hw.le_capacity, h.bits.trans hw.bits,
        h.freight.trans hw.freight, h.bounty ▸ hw.bounty_nonneg, h.bounty ▸ hw.bounty_le⟩

section

variable {cfg : Config} {c : Cargo n} {t : Fin n} {goal : Warehouse}

theorem Valid.unloaded (h : c.Valid cfg) (ht : c.targetGoals t = none) : c.Unloaded t := by
  have := (h.load t).2
  rwa [ht] at this

theorem Valid.carries (h : c.Valid cfg) (ht : c.targetGoals t = some goal) :
    ∃ weight, c.Carries cfg t goal weight := by
  have := (h.load t).2
  rwa [ht] at this

theorem Unloaded.weight_eq (h : c.Unloaded t) : c.weight t = 0 := by
  simp [weight, h.bits]

theorem Carries.weight_eq {weight : ℤ} (h : c.Carries cfg t goal weight) :
    c.weight t = weight := by
  simp [Cargo.weight, h.bits]

theorem Carries.bits_goal {weight : ℤ} (h : c.Carries cfg t goal weight) :
    c.targetGoalBits t goal = weight := by
  simp [h.bits]

theorem Valid.bits_nonneg (h : c.Valid cfg) (t : Fin n) (goal : Warehouse) :
    0 ≤ c.targetGoalBits t goal := by
  cases hgoal : c.targetGoals t with
  | none => rw [(h.unloaded hgoal).bits]; rfl
  | some goal' =>
      obtain ⟨weight, hw⟩ := h.carries hgoal
      rw [hw.bits]
      by_cases heq : goal = goal'
      · subst heq
        rw [Pi.single_eq_same]
        exact le_trans zero_le_one hw.pos
      · rw [Pi.single_eq_of_ne heq]

theorem Valid.awaiting_nonneg (h : c.Valid cfg) (goal : Warehouse) :
    0 ≤ c.awaitingCargoCounts goal := by
  rw [h.awaiting]
  exact add_nonneg (Finset.sum_nonneg (fun w _ => h.remaining_nonneg w goal))
    (Finset.sum_nonneg (fun t _ => h.bits_nonneg t goal))

theorem Valid.bounty_nonneg (h : c.Valid cfg) (t : Fin n) : 0 ≤ c.bounties t := by
  cases hgoal : c.targetGoals t with
  | none => exact (h.unloaded hgoal).bounty.ge
  | some goal => exact (h.carries hgoal).choose_spec.bounty_nonneg

theorem Valid.weight_nonneg (h : c.Valid cfg) (t : Fin n) : 0 ≤ c.weight t :=
  Finset.sum_nonneg (fun goal _ => h.bits_nonneg t goal)

/-- A target that is not loaded has no weight, and the other way round. -/
theorem Valid.weight_eq_zero_iff (h : c.Valid cfg) : c.weight t = 0 ↔ c.targetGoals t = none := by
  cases hgoal : c.targetGoals t with
  | none => simp [(h.unloaded hgoal).weight_eq]
  | some goal =>
      obtain ⟨weight, hw⟩ := h.carries hgoal
      have := hw.pos
      rw [hw.weight_eq]
      simp
      omega

/-- Every unit of freight and bounty of a load is paid for by its weight. -/
theorem Valid.payment_le (h : c.Valid cfg) (t : Fin n) :
    c.freights t + c.bounties t ≤ c.weight t * cfg.rewardScale := by
  rw [Config.rewardScale, mul_add]
  cases hgoal : c.targetGoals t with
  | none =>
      have hu := h.unloaded hgoal
      rw [hu.weight_eq, hu.freight, hu.bounty]
      simp
  | some goal =>
      obtain ⟨weight, hw⟩ := h.carries hgoal
      rw [hw.weight_eq, hw.freight]
      have := hw.bounty_le
      omega

end

/-! ## Steps that move no cargo -/

/-- Nothing but flags and counters differs. -/
structure Alike (c c' : Cargo n) : Prop where
  remaining : c'.remainingCargoes = c.remainingCargoes
  awaiting : c'.awaitingCargoCounts = c.awaitingCargoCounts
  delivered : c'.numDeliveredCargoes = c.numDeliveredCargoes
  capacities : c'.targetCapacities = c.targetCapacities
  sameLoad : ∀ t, SameLoad c c' t

section

variable {cfg : Config} {c c' : Cargo n} {t : Fin n}

theorem Alike.valid (h : Alike c c') (hc : c.Valid cfg) : c'.Valid cfg where
  remaining_nonneg := by rw [h.remaining]; exact hc.remaining_nonneg
  diagonal := by rw [h.remaining]; exact hc.diagonal
  capacity_pos := by rw [h.capacities]; exact hc.capacity_pos
  awaiting := by
    intro goal
    simp only [h.awaiting, h.remaining, fun t => (h.sameLoad t).bits]
    exact hc.awaiting goal
  load := fun t => (h.sameLoad t).loadOk (congrFun h.capacities t) (hc.load t)

theorem Alike.units (h : Alike c c') : c'.units = c.units := by
  rw [Cargo.units, h.awaiting, h.delivered]
  rfl

theorem Alike.debt (h : Alike c c') : c'.debt cfg = c.debt cfg := by
  simp only [Cargo.debt, fun t => (h.sameLoad t).weight, fun t => (h.sameLoad t).bounty]

theorem alike_refreshEmptyBits (c : Cargo n) (t : Fin n) (ws : List Warehouse) :
    Alike c (c.refreshEmptyBits t ws) :=
  ⟨rfl, rfl, rfl, rfl, fun _ => ⟨rfl, rfl, rfl, rfl, rfl⟩⟩

theorem alike_markDones (c c' : Cargo n) : Alike c' (c.markDones c') :=
  ⟨rfl, rfl, rfl, rfl, fun _ => ⟨rfl, rfl, rfl, rfl, rfl⟩⟩

theorem sameLoad_release {t' : Fin n} (h : t' ≠ t) : SameLoad c (c.release t) t' := by
  constructor <;> exact Function.update_of_ne h _ _

theorem sameLoad_load {t' : Fin n} (h : t' ≠ t) (w goal : Warehouse) :
    SameLoad c (c.load cfg t w goal) t' := by
  constructor <;> exact Function.update_of_ne h _ _

/-- Releasing a target that carries nothing only resets its counters. -/
theorem alike_release (h : c.Valid cfg) (ht : c.targetGoals t = none) : Alike c (c.release t) := by
  refine ⟨rfl, rfl, rfl, rfl, fun t' => ?_⟩
  by_cases heq : t' = t
  · subst heq
    have hu := h.unloaded ht
    have hbits := (h.load t').1
    constructor
    · exact (Function.update_self ..).trans ht.symm
    · exact (Function.update_self ..).trans hu.bits.symm
    · exact (Function.update_self ..).trans (hbits.trans hu.bits).symm
    · exact (Function.update_self ..).trans hu.freight.symm
    · exact (Function.update_self ..).trans hu.bounty.symm
  · exact sameLoad_release heq

/-! ## Taking a load -/

/-- A target that carries nothing takes cargoes that are there. -/
structure CanLoad (c : Cargo n) (t : Fin n) (w goal : Warehouse) : Prop where
  unassigned : c.targetGoals t = none
  remaining : 0 < c.remainingCargoes w goal

theorem load_remaining (c : Cargo n) (t : Fin n) (w goal w' goal' : Warehouse) :
    (c.load cfg t w goal).remainingCargoes w' goal'
      = c.remainingCargoes w' goal' - if w' = w ∧ goal' = goal then c.cargoWeight t w goal else 0 := by
  simp only [load]
  by_cases hw : w' = w
  · subst hw
    rw [Function.update_self]
    by_cases hgoal : goal' = goal
    · subst hgoal
      simp
    · simp [hgoal]
  · simp [hw]

theorem CanLoad.weight_pos {w goal : Warehouse} (h : c.CanLoad t w goal) (hc : c.Valid cfg) :
    1 ≤ c.cargoWeight t w goal :=
  le_min (hc.capacity_pos t) h.remaining

theorem CanLoad.carries {w goal : Warehouse} (h : c.CanLoad t w goal) (hc : c.Valid cfg) :
    (c.load cfg t w goal).Carries cfg t goal (c.cargoWeight t w goal) where
  pos := h.weight_pos hc
  le_capacity := min_le_left _ _
  bits := by
    simp only [load, Function.update_self]
    rw [(hc.unloaded h.unassigned).bits]
    rfl
  freight := by simp only [load, Function.update_self]
  bounty_nonneg := by
    simp only [load, Function.update_self]
    exact mul_nonneg (zero_le_one.trans (h.weight_pos hc)) cfg.bountyScale_nonneg
  bounty_le := by simp only [load, Function.update_self]; exact le_refl _

/-- The sum over the warehouses loses what the target takes. -/
theorem sum_load_remaining (c : Cargo n) (t : Fin n) (w goal goal' : Warehouse) :
    ∑ w', (c.load cfg t w goal).remainingCargoes w' goal'
      = ∑ w', c.remainingCargoes w' goal' - if goal' = goal then c.cargoWeight t w goal else 0 := by
  rw [sum_eq_add_of_eq_off w (f := fun w' => c.remainingCargoes w' goal')]
  · rw [load_remaining]
    simp
    omega
  · intro w' hw'
    rw [load_remaining]
    simp [hw']

theorem sum_load_bits {w goal : Warehouse} (h : c.CanLoad t w goal) (hc : c.Valid cfg)
    (goal' : Warehouse) :
    ∑ t', (c.load cfg t w goal).targetGoalBits t' goal'
      = ∑ t', c.targetGoalBits t' goal' + if goal' = goal then c.cargoWeight t w goal else 0 := by
  rw [sum_eq_add_of_eq_off t (f := fun t' => c.targetGoalBits t' goal')]
  · rw [(h.carries hc).bits, (hc.unloaded h.unassigned).bits, Pi.single_apply, Pi.zero_apply,
      sub_zero]
  · intro t' ht'
    rw [(sameLoad_load ht' w goal).bits]

theorem CanLoad.valid {w goal : Warehouse} (h : c.CanLoad t w goal) (hc : c.Valid cfg) :
    (c.load cfg t w goal).Valid cfg where
  remaining_nonneg := by
    intro w' goal'
    rw [load_remaining]
    split
    · rename_i heq
      obtain ⟨rfl, rfl⟩ := heq
      exact sub_nonneg.mpr (min_le_right _ _)
    · rw [sub_zero]
      exact hc.remaining_nonneg w' goal'
  diagonal := by
    intro w'
    -- nothing remains of a warehouse for itself, and so nothing can be loaded
    have hne : w ≠ goal := by
      rintro rfl
      exact absurd h.remaining (by rw [hc.diagonal]; exact lt_irrefl _)
    rw [load_remaining, hc.diagonal, if_neg (fun heq => hne (heq.1.symm.trans heq.2)), sub_zero]
  capacity_pos := hc.capacity_pos
  awaiting := by
    intro goal'
    rw [sum_load_remaining, sum_load_bits h hc]
    show c.awaitingCargoCounts goal' = _
    rw [hc.awaiting]
    ring
  load := by
    intro t'
    by_cases heq : t' = t
    · subst heq
      constructor
      · simp only [load, Function.update_self]
        rw [(hc.load t').1]
      · have hgoals : (c.load cfg t' w goal).targetGoals t' = some goal := Function.update_self ..
        rw [hgoals]
        exact ⟨_, h.carries hc⟩
    · exact (sameLoad_load heq w goal).loadOk rfl (hc.load t')

theorem CanLoad.debt {w goal : Warehouse} (h : c.CanLoad t w goal) (hc : c.Valid cfg) :
    (c.load cfg t w goal).debt cfg = c.debt cfg := by
  rw [Cargo.debt, sum_eq_add_of_eq_off t
    (f := fun t' => c.weight t' * cfg.bountyScale - c.bounties t')]
  · have hnew : (c.load cfg t w goal).bounties t = c.cargoWeight t w goal * cfg.bountyScale :=
      Function.update_self ..
    have hold := hc.unloaded h.unassigned
    rw [(h.carries hc).weight_eq, hnew, hold.weight_eq, hold.bounty, Cargo.debt]
    ring
  · intro t' ht'
    rw [(sameLoad_load ht' w goal).weight, (sameLoad_load ht' w goal).bounty]

end

end Cargo

namespace Ledger

open Cargo

variable {n : ℕ} {G : Type} {cfg : Config} {s s' : Ledger n G} {t : Fin n} {goal : Warehouse}

/-! ## Delivering a load -/

/-- What the two rewards differ by, apart from the bounty the loads have lost. -/
def balance (cfg : Config) (s : Ledger n G) : ℤ :=
  s.targetTeamReward - s.delayedTargetTeamReward + s.cargo.debt cfg

theorem settle_goals (cfg : Config) (s : Ledger n G) (t : Fin n) (goal : Option Warehouse) :
    (s.settle cfg t goal).cargo.targetGoals t = none := by
  simp only [settle, release, Function.update_self]

theorem settle_remaining (s : Ledger n G) (t : Fin n) (goal : Option Warehouse) :
    (s.settle cfg t goal).cargo.remainingCargoes = s.cargo.remainingCargoes := by
  cases goal <;> rfl

theorem settle_emptyBits (s : Ledger n G) (t : Fin n) (goal : Option Warehouse) :
    (s.settle cfg t goal).cargo.emptyBits = s.cargo.emptyBits := by
  cases goal <;> rfl

theorem settle_sameLoad {t' : Fin n} (h : t' ≠ t) (goal : Option Warehouse) :
    SameLoad s.cargo (s.settle cfg t goal).cargo t' := by
  cases goal <;> constructor <;> exact Function.update_of_ne h _ _

theorem settle_unloaded (cfg : Config) (s : Ledger n G) (t : Fin n) (goal : Option Warehouse) :
    (s.settle cfg t goal).cargo.Unloaded t := by
  constructor <;> simp only [settle, release, Function.update_self]

/-- Settling twice without a load in between is settling once. -/
theorem settle_none_settle_none (s : Ledger n G) (t : Fin n) :
    (s.settle cfg t none).settle cfg t none = s.settle cfg t none := by
  simp only [settle, release, Function.update_idem]

section

variable {weight : ℤ} (h : s.cargo.Carries cfg t goal weight)

include h

theorem settle_some_awaiting (goal' : Warehouse) :
    (s.settle cfg t (some goal)).cargo.awaitingCargoCounts goal'
      = s.cargo.awaitingCargoCounts goal' - if goal' = goal then weight else 0 := by
  simp only [settle, deliver, release]
  by_cases heq : goal' = goal
  · subst heq
    rw [Function.update_self, if_pos rfl, h.bits_goal]
  · rw [Function.update_of_ne heq, if_neg heq, sub_zero]

theorem settle_some_delivered :
    (s.settle cfg t (some goal)).cargo.numDeliveredCargoes
      = s.cargo.numDeliveredCargoes + weight := by
  simp only [settle, deliver, release, h.bits_goal]

theorem settle_some_units : (s.settle cfg t (some goal)).cargo.units = s.cargo.units := by
  have hsum := sum_eq_add_of_eq_off goal
    (f := s.cargo.awaitingCargoCounts)
    (g := (s.settle cfg t (some goal)).cargo.awaitingCargoCounts)
    (fun goal' hne => by rw [settle_some_awaiting h, if_neg hne, sub_zero])
  rw [settle_some_awaiting h, if_pos rfl] at hsum
  rw [units, units, settle_some_delivered h, hsum]
  omega

theorem settle_some_valid (hc : s.cargo.Valid cfg) :
    (s.settle cfg t (some goal)).cargo.Valid cfg where
  remaining_nonneg := hc.remaining_nonneg
  diagonal := hc.diagonal
  capacity_pos := hc.capacity_pos
  awaiting := by
    intro goal'
    have hsum := sum_eq_add_of_eq_off t
      (f := fun t' => s.cargo.targetGoalBits t' goal')
      (g := fun t' => (s.settle cfg t (some goal)).cargo.targetGoalBits t' goal')
      (fun t' hne => by rw [(settle_sameLoad hne (some goal)).bits])
    rw [(settle_unloaded cfg s t (some goal)).bits, h.bits, Pi.single_apply] at hsum
    rw [settle_some_awaiting h, hc.awaiting, hsum]
    show _ = ∑ w, s.cargo.remainingCargoes w goal' + _
    rw [Pi.zero_apply]
    ring
  load := by
    intro t'
    by_cases heq : t' = t
    · subst heq
      constructor
      · simp only [settle, release, Function.update_self]
      · rw [settle_goals]
        exact settle_unloaded cfg s t' _
    · exact (settle_sameLoad heq _).loadOk rfl (hc.load t')

theorem settle_some_debt :
    (s.settle cfg t (some goal)).cargo.debt cfg
      = s.cargo.debt cfg - (weight * cfg.bountyScale - s.cargo.bounties t) := by
  have hnew := settle_unloaded cfg s t (some goal)
  rw [debt, sum_eq_add_of_eq_off t
    (f := fun t' => s.cargo.weight t' * cfg.bountyScale - s.cargo.bounties t')]
  · rw [hnew.weight_eq, hnew.bounty, h.weight_eq, debt]
    ring
  · intro t' ht'
    rw [(settle_sameLoad ht' (some goal)).weight, (settle_sameLoad ht' (some goal)).bounty]

theorem settle_some_balance : (s.settle cfg t (some goal)).balance cfg = s.balance cfg := by
  rw [balance, settle_some_debt h, balance]
  simp only [settle, deliver, h.bits_goal]
  ring

end

/-! ## The warehouses a target stands in -/

/-- The three ways the loop over the warehouses `ws` can end. -/
inductive Visited (cfg : Config) (t : Fin n) (goal : Option Warehouse) (ws : List Warehouse)
    (s : Ledger n G) : Ledger n G → Prop
  /-- The target has nothing to do in any of them. -/
  | stays : (∀ w ∈ ws, goal ≠ none ∧ goal ≠ some w) → Visited cfg t goal ws s s
  /-- It gets rid of its load and finds no new one. -/
  | frees {w : Warehouse} : w ∈ ws → goal = none ∨ goal = some w →
      Visited cfg t goal ws s (s.settle cfg t goal)
  /-- It gets rid of its load and takes a new one. -/
  | loads {w new : Warehouse} {rng : G} : w ∈ ws → goal = none ∨ goal = some w →
      0 < s.cargo.remainingCargoes w new →
      Visited cfg t goal ws s
        { s.settle cfg t goal with
          cargo := (s.settle cfg t goal).cargo.load cfg t w new, rng }

variable [RandomState G]

/-- A warehouse that has cargoes left has a goal to choose. -/
theorem pickUp_returns {w : Warehouse} (hnonneg : ∀ goal, 0 ≤ s.cargo.remainingCargoes w goal)
    (hstocked : s.cargo.stocked w = true) :
    Returns (s.pickUp cfg t w) (fun s' => ∃ new rng, 0 < s.cargo.remainingCargoes w new ∧
      s' = { s with cargo := s.cargo.load cfg t w new, rng }) := by
  obtain ⟨goal, hgoal⟩ := of_decide_eq_true hstocked
  have hmem : goal ∈ s.cargo.openGoals w := by
    have := hnonneg goal
    simp only [openGoals, List.mem_filter, List.mem_finRange, true_and, decide_eq_true_eq]
    omega
  obtain ⟨new, rng, hchoice, hnew⟩ := RandomState.choice_mem (List.ne_nil_of_mem hmem) s.rng
  have hpos : 0 < s.cargo.remainingCargoes w new := of_decide_eq_true (List.mem_filter.mp hnew).2
  rw [pickUp, hchoice]
  exact Returns.pure ⟨new, rng, hpos, rfl⟩

/-- `visit` returns, in one of the three ways. -/
theorem visit_returns (goal : Option Warehouse) (ws : List Warehouse) (hnodup : ws.Nodup)
    (s : Ledger n G) (hnonneg : ∀ w goal, 0 ≤ s.cargo.remainingCargoes w goal) :
    Returns (visit cfg t goal ws s) (Visited cfg t goal ws s) := by
  induction ws generalizing s with
  | nil => exact ⟨s, rfl, Visited.stays (fun w hw => by cases hw)⟩
  | cons w ws ih =>
      obtain ⟨hw, hnodup'⟩ := List.nodup_cons.mp hnodup
      rw [visit]
      by_cases hgoal : goal = none ∨ goal = some w
      · rw [if_pos hgoal]
        have hnonneg' : ∀ w goal', 0 ≤ (s.settle cfg t goal).cargo.remainingCargoes w goal' := by
          rw [settle_remaining]
          exact hnonneg
        by_cases hstocked : (s.settle cfg t goal).cargo.stocked w = true
        · rw [if_pos hstocked]
          refine (pickUp_returns (hnonneg' w) hstocked).mono ?_
          rintro s' ⟨new, rng, hpos, rfl⟩
          rw [settle_remaining] at hpos
          exact Visited.loads List.mem_cons_self hgoal hpos
        · rw [if_neg hstocked]
          refine (ih hnodup' _ hnonneg').mono (fun s' hs' => ?_)
          -- the rest of the loop matters only for a target that had no load to begin with
          cases hs' with
          | stays => exact Visited.frees List.mem_cons_self hgoal
          | frees hw' hgoal' =>
              rcases hgoal with rfl | rfl
              · rw [settle_none_settle_none]
                exact Visited.frees List.mem_cons_self (Or.inl rfl)
              · rcases hgoal' with h | h
                · cases h
                · cases h
                  exact absurd hw' hw
          | loads hw' hgoal' hpos =>
              rcases hgoal with rfl | rfl
              · rw [settle_none_settle_none]
                rw [settle_remaining] at hpos
                exact Visited.loads (List.mem_cons_of_mem w hw') (Or.inl rfl) hpos
              · rcases hgoal' with h | h
                · cases h
                · cases h
                  exact absurd hw' hw
      · rw [if_neg hgoal]
        refine (ih hnodup' s hnonneg).mono (fun s' hs' => ?_)
        cases hs' with
        | stays h =>
            refine Visited.stays (fun w' hw' => ?_)
            rcases List.mem_cons.mp hw' with rfl | hw'
            · exact not_or.mp hgoal
            · exact h w' hw'
        | frees hw' hgoal' => exact Visited.frees (List.mem_cons_of_mem w hw') hgoal'
        | loads hw' hgoal' hpos => exact Visited.loads (List.mem_cons_of_mem w hw') hgoal' hpos

end Ledger

/-! ## One target -/

namespace Cargo

variable {n : ℕ}

/-- The target carries a cargo and stands in the warehouse it has to bring it to. -/
def delivers (inside : Fin n → Warehouse → Bool) (c : Cargo n) (t : Fin n) : Bool :=
  match c.targetGoals t with
  | some goal => inside t goal
  | none => false

theorem SameLoad.delivers {inside : Fin n → Warehouse → Bool} {c c' : Cargo n} {t : Fin n}
    (h : SameLoad c c' t) : c'.delivers inside t = c.delivers inside t := by
  rw [Cargo.delivers, Cargo.delivers, h.goal]

/-- The freight and the bounty that a target is paid. -/
def payment (inside : Fin n → Warehouse → Bool) (c : Cargo n) (t : Fin n) : ℤ :=
  if c.delivers inside t then c.freights t + c.bounties t else 0

/-- The payment less what the load has lost of its bounty. -/
def delayedPayment (cfg : Config) (inside : Fin n → Warehouse → Bool) (c : Cargo n)
    (t : Fin n) : ℤ :=
  if c.delivers inside t then
    c.freights t + c.bounties t - (c.weight t * cfg.bountyScale - c.bounties t)
  else 0

/-- The cargoes that a target delivers. -/
def delivery (inside : Fin n → Warehouse → Bool) (c : Cargo n) (t : Fin n) : ℤ :=
  if c.delivers inside t then c.weight t else 0

/-- The cargoes that a target delivers to `goal`. -/
def deliveryTo (inside : Fin n → Warehouse → Bool) (c : Cargo n) (goal : Warehouse)
    (t : Fin n) : ℤ :=
  if c.delivers inside t ∧ c.targetGoals t = some goal then c.weight t else 0

section

variable {inside : Fin n → Warehouse → Bool} {c c' : Cargo n} {t : Fin n}

theorem SameLoad.payment (h : SameLoad c c' t) : c'.payment inside t = c.payment inside t := by
  simp only [Cargo.payment, h.delivers, h.freight, h.bounty]

theorem SameLoad.delayedPayment {cfg : Config} (h : SameLoad c c' t) :
    c'.delayedPayment cfg inside t = c.delayedPayment cfg inside t := by
  simp only [Cargo.delayedPayment, h.delivers, h.freight, h.bounty, h.weight]

theorem SameLoad.delivery (h : SameLoad c c' t) :
    c'.delivery inside t = c.delivery inside t := by
  simp only [Cargo.delivery, h.delivers, h.weight]

theorem SameLoad.deliveryTo (h : SameLoad c c' t) (goal : Warehouse) :
    c'.deliveryTo inside goal t = c.deliveryTo inside goal t := by
  simp only [Cargo.deliveryTo, h.delivers, h.weight, h.goal]

end

end Cargo

namespace Ledger

open Cargo

variable {n : ℕ} {G : Type} {cfg : Config} {inside : Fin n → Warehouse → Bool}

/-- What one iteration of the loop over the targets does. -/
structure Served (cfg : Config) (inside : Fin n → Warehouse → Bool) (t : Fin n)
    (s s' : Ledger n G) : Prop where
  valid : s'.cargo.Valid cfg
  remaining_le : ∀ w goal, s'.cargo.remainingCargoes w goal ≤ s.cargo.remainingCargoes w goal
  capacities : s'.cargo.targetCapacities = s.cargo.targetCapacities
  sameLoad : ∀ t', t' ≠ t → SameLoad s.cargo s'.cargo t'
  units : s'.cargo.units = s.cargo.units
  balance : s'.balance cfg = s.balance cfg
  reward : s'.targetTeamReward = s.targetTeamReward + s.cargo.payment inside t
  delayedReward : s'.delayedTargetTeamReward
    = s.delayedTargetTeamReward + s.cargo.delayedPayment cfg inside t
  delivered : s'.cargo.numDeliveredCargoes
    = s.cargo.numDeliveredCargoes + s.cargo.delivery inside t
  awaiting : ∀ goal, s'.cargo.awaitingCargoCounts goal
    = s.cargo.awaitingCargoCounts goal - s.cargo.deliveryTo inside goal t
  done : s'.cargo.targetGoals t ≠ s.cargo.targetGoals t ∧ s.cargo.targetGoals t ≠ none
    ↔ s.cargo.delivers inside t = true
  kept : s.cargo.targetGoals t ≠ none → s.cargo.delivers inside t = false →
    SameLoad s.cargo s'.cargo t
  took : s'.cargo.targetGoals t = none → s'.cargo.remainingCargoes = s.cargo.remainingCargoes

variable {s s' : Ledger n G} {t : Fin n}

theorem mem_warehousesOf {w : Warehouse} : w ∈ warehousesOf inside t ↔ inside t w = true := by
  simp [warehousesOf]

/-- Without a delivery and without a load, nothing happened. -/
theorem served_of_alike (h : Alike s.cargo s'.cargo) (hs : s.cargo.Valid cfg)
    (hreward : s'.targetTeamReward = s.targetTeamReward)
    (hdelayed : s'.delayedTargetTeamReward = s.delayedTargetTeamReward)
    (hstays : s.cargo.delivers inside t = false) : Served cfg inside t s s' where
  valid := h.valid hs
  remaining_le := fun w goal => by rw [h.remaining]
  capacities := h.capacities
  sameLoad := fun t' _ => h.sameLoad t'
  units := h.units
  balance := by rw [Ledger.balance, hreward, hdelayed, h.debt, Ledger.balance]
  reward := by simp [hreward, payment, hstays]
  delayedReward := by simp [hdelayed, delayedPayment, hstays]
  delivered := by simp [h.delivered, delivery, hstays]
  awaiting := by simp [h.awaiting, deliveryTo, hstays]
  done := by simp [(h.sameLoad t).goal, hstays]
  kept := fun _ _ => h.sameLoad t
  took := fun _ => h.remaining

/-- A target in the warehouse of its goal gets rid of its load. -/
theorem served_settle_some {goal : Warehouse} (hs : s.cargo.Valid cfg)
    (hgoal : s.cargo.targetGoals t = some goal) (hin : inside t goal = true) :
    Served cfg inside t s (s.settle cfg t (some goal)) := by
  obtain ⟨weight, hw⟩ := hs.carries hgoal
  have hdelivers : s.cargo.delivers inside t = true := by rw [delivers, hgoal]; exact hin
  have hgoals := settle_goals cfg s t (some goal)
  exact
    { valid := settle_some_valid hw hs
      remaining_le := fun w goal => le_refl _
      capacities := rfl
      sameLoad := fun t' ht' => settle_sameLoad ht' _
      units := settle_some_units hw
      balance := settle_some_balance hw
      reward := by rw [payment, if_pos hdelivers]; rfl
      delayedReward := by
        rw [delayedPayment, if_pos hdelivers, hw.weight_eq, ← hw.bits_goal]
        rfl
      delivered := by rw [settle_some_delivered hw, delivery, if_pos hdelivers, hw.weight_eq]
      awaiting := by
        intro goal'
        rw [settle_some_awaiting hw, deliveryTo, hw.weight_eq, hgoal]
        by_cases heq : goal' = goal
        · rw [if_pos heq, if_pos ⟨hdelivers, heq ▸ rfl⟩]
        · rw [if_neg heq, if_neg (fun h => heq (Option.some.inj h.2).symm)]
      done := by simp [hgoals, hgoal, hdelivers]
      kept := fun _ h => absurd hdelivers (by simp [h])
      took := fun _ => rfl }

/-- After getting rid of its load, a target takes a new one. -/
theorem Served.load {w new : Warehouse} (h : Served cfg inside t s s')
    (hload : s'.cargo.CanLoad t w new)
    (hnew : s.cargo.targetGoals t = none ∨ s.cargo.targetGoals t = some w) (rng : G) :
    Served cfg inside t s { s' with cargo := s'.cargo.load cfg t w new, rng } := by
  have hgoals : (s'.cargo.load cfg t w new).targetGoals t = some new := Function.update_self ..
  -- cargoes for a warehouse are never in that warehouse
  have hne : w ≠ new := by
    rintro rfl
    exact absurd hload.remaining (by rw [h.valid.diagonal]; exact lt_irrefl _)
  exact
    { valid := hload.valid h.valid
      remaining_le := by
        intro w' goal'
        refine le_trans ?_ (h.remaining_le w' goal')
        have := hload.weight_pos h.valid
        show (s'.cargo.load cfg t w new).remainingCargoes w' goal' ≤ _
        rw [load_remaining]
        split <;> omega
      capacities := h.capacities
      sameLoad := fun t' ht' => (h.sameLoad t' ht').trans (sameLoad_load ht' w new)
      units := h.units
      balance := by
        rw [← h.balance, Ledger.balance, hload.debt h.valid]
        rfl
      reward := h.reward
      delayedReward := h.delayedReward
      delivered := h.delivered
      awaiting := h.awaiting
      done := by
        show (s'.cargo.load cfg t w new).targetGoals t ≠ _ ∧ _ ↔ _
        rw [← h.done, hgoals, hload.unassigned]
        rcases hnew with hnone | hsome
        · simp [hnone]
        · simp [hsome, hne.symm]
      kept := by
        intro hsome hstays
        have := (h.kept hsome hstays).goal
        exact absurd (this.symm.trans hload.unassigned) hsome
      took := by
        intro hnone
        rw [hgoals] at hnone
        cases hnone }

/-- The three outcomes, as seen from the outside. -/
theorem served_of_visited (hs : s.cargo.Valid cfg)
    (h : Visited cfg t (s.cargo.targetGoals t) (warehousesOf inside t) s s') :
    Served cfg inside t s s' := by
  have hsettle : ∀ w ∈ warehousesOf inside t,
      s.cargo.targetGoals t = none ∨ s.cargo.targetGoals t = some w →
      Served cfg inside t s (s.settle cfg t (s.cargo.targetGoals t)) := by
    intro w hw hgoal
    rcases hgoal with hnone | hsome
    · rw [hnone]
      exact served_of_alike (alike_release hs hnone) hs rfl rfl (by rw [delivers, hnone])
    · rw [hsome]
      exact served_settle_some hs hsome (mem_warehousesOf.mp hw)
  cases h with
  | stays h =>
      refine served_of_alike ⟨rfl, rfl, rfl, rfl, SameLoad.refl _⟩ hs rfl rfl ?_
      cases hgoal : s.cargo.targetGoals t with
      | none => rw [delivers, hgoal]
      | some goal =>
          rw [delivers, hgoal]
          refine Bool.eq_false_iff.mpr (fun hin => ?_)
          exact (h goal (mem_warehousesOf.mpr hin)).2 hgoal
  | frees hw hgoal => exact hsettle _ hw hgoal
  | loads hw hgoal hpos =>
      refine (hsettle _ hw hgoal).load ⟨settle_goals _ _ _ _, ?_⟩ hgoal _
      rw [settle_remaining]
      exact hpos

theorem Served.alike {s'' : Ledger n G} (h : Served cfg inside t s s')
    (ha : Alike s'.cargo s''.cargo) (hreward : s''.targetTeamReward = s'.targetTeamReward)
    (hdelayed : s''.delayedTargetTeamReward = s'.delayedTargetTeamReward) :
    Served cfg inside t s s'' where
  valid := ha.valid h.valid
  remaining_le := by rw [ha.remaining]; exact h.remaining_le
  capacities := ha.capacities.trans h.capacities
  sameLoad := fun t' ht' => (h.sameLoad t' ht').trans (ha.sameLoad t')
  units := ha.units.trans h.units
  balance := by rw [← h.balance, Ledger.balance, hreward, hdelayed, ha.debt]; rfl
  reward := hreward.trans h.reward
  delayedReward := hdelayed.trans h.delayedReward
  delivered := ha.delivered.trans h.delivered
  awaiting := by rw [ha.awaiting]; exact h.awaiting
  done := by rw [(ha.sameLoad t).goal]; exact h.done
  kept := fun hsome hstays => (h.kept hsome hstays).trans (ha.sameLoad t)
  took := by rw [(ha.sameLoad t).goal, ha.remaining]; exact h.took

/-- A bit that is set says that it was set before, or that the warehouse is empty. -/
def BitsSound (c c' : Cargo n) : Prop :=
  ∀ t w, c'.emptyBits t w = true → c.emptyBits t w = true ∨ ∀ goal, c'.remainingCargoes w goal = 0

theorem visited_emptyBits {goal : Option Warehouse} {ws : List Warehouse}
    (h : Visited cfg t goal ws s s') : s'.cargo.emptyBits = s.cargo.emptyBits := by
  cases h with
  | stays => rfl
  | frees => exact settle_emptyBits _ _ _
  | loads => exact settle_emptyBits s t goal

theorem bitsSound_refreshEmptyBits {c c' : Cargo n} (h : c'.emptyBits = c.emptyBits) (t : Fin n)
    (ws : List Warehouse) : BitsSound c (c'.refreshEmptyBits t ws) := by
  intro t' w hbit
  simp only [refreshEmptyBits] at hbit ⊢
  by_cases ht : t' = t
  · subst ht
    rw [Function.update_self] at hbit
    by_cases hw : w ∈ ws
    · right
      rw [if_pos hw, Bool.not_eq_true', stocked, decide_eq_false_iff_not] at hbit
      intro goal
      by_contra hne
      exact hbit ⟨goal, hne⟩
    · left
      rwa [if_neg hw, h] at hbit
  · left
    rwa [Function.update_of_ne ht, h] at hbit

variable [RandomState G]

theorem assignTarget_returns (hs : s.cargo.Valid cfg) (t : Fin n) :
    Returns (s.assignTarget cfg inside t)
      (fun s' => Served cfg inside t s s' ∧ BitsSound s.cargo s'.cargo) := by
  have hnodup : (warehousesOf inside t).Nodup := (List.nodup_finRange _).filter _
  refine (visit_returns _ _ hnodup s hs.remaining_nonneg).bind (fun s' hs' => Returns.pure ?_)
  exact ⟨(served_of_visited hs hs').alike (alike_refreshEmptyBits _ _ _) rfl rfl,
    bitsSound_refreshEmptyBits (visited_emptyBits hs') _ _⟩

end Ledger

/-! ## All targets -/

namespace Ledger

open Cargo

variable {n : ℕ} {G : Type} {cfg : Config} {inside : Fin n → Warehouse → Bool}

/-- What the loop has done when it has served the targets of the list. -/
structure Progress (cfg : Config) (inside : Fin n → Warehouse → Bool) (s : Ledger n G)
    (served : List (Fin n)) (s' : Ledger n G) : Prop where
  valid : s'.cargo.Valid cfg
  remaining_le : ∀ w goal, s'.cargo.remainingCargoes w goal ≤ s.cargo.remainingCargoes w goal
  capacities : s'.cargo.targetCapacities = s.cargo.targetCapacities
  sameLoad : ∀ t, t ∉ served → SameLoad s.cargo s'.cargo t
  bitsSound : BitsSound s.cargo s'.cargo
  units : s'.cargo.units = s.cargo.units
  balance : s'.balance cfg = s.balance cfg
  reward : s'.targetTeamReward
    = s.targetTeamReward + (served.map (s.cargo.payment inside)).sum
  delayedReward : s'.delayedTargetTeamReward
    = s.delayedTargetTeamReward + (served.map (s.cargo.delayedPayment cfg inside)).sum
  delivered : s'.cargo.numDeliveredCargoes
    = s.cargo.numDeliveredCargoes + (served.map (s.cargo.delivery inside)).sum
  awaiting : ∀ goal, s'.cargo.awaitingCargoCounts goal
    = s.cargo.awaitingCargoCounts goal - (served.map (s.cargo.deliveryTo inside goal)).sum
  done : ∀ t ∈ served, s'.cargo.targetGoals t ≠ s.cargo.targetGoals t
    ∧ s.cargo.targetGoals t ≠ none ↔ s.cargo.delivers inside t = true
  kept : ∀ t ∈ served, s.cargo.targetGoals t ≠ none → s.cargo.delivers inside t = false →
    SameLoad s.cargo s'.cargo t
  took : (∀ t ∈ served, s'.cargo.targetGoals t = none) →
    s'.cargo.remainingCargoes = s.cargo.remainingCargoes

theorem Progress.start {s : Ledger n G} (hs : s.cargo.Valid cfg) : Progress cfg inside s [] s where
  valid := hs
  remaining_le := fun _ _ => le_refl _
  capacities := rfl
  sameLoad := fun t _ => SameLoad.refl _ t
  bitsSound := fun _ _ h => Or.inl h
  units := rfl
  balance := rfl
  reward := by simp
  delayedReward := by simp
  delivered := by simp
  awaiting := by simp
  done := fun t ht => by cases ht
  kept := fun t ht => by cases ht
  took := fun _ => rfl

/-- One more target, not served before. -/
theorem Progress.serve {s s' s'' : Ledger n G} {served : List (Fin n)} {t : Fin n}
    (h : Progress cfg inside s served s') (ht : t ∉ served) (hstep : Served cfg inside t s' s'')
    (hbits : BitsSound s'.cargo s''.cargo) :
    Progress cfg inside s (served ++ [t]) s'' := by
  -- the load of `t` is what it was before the loop
  have hload := h.sameLoad t ht
  have hmem : ∀ {t' : Fin n}, t' ∈ served → t' ≠ t := fun ht' heq => ht (heq ▸ ht')
  exact
    { valid := hstep.valid
      remaining_le := fun w goal => (hstep.remaining_le w goal).trans (h.remaining_le w goal)
      capacities := hstep.capacities.trans h.capacities
      sameLoad := by
        intro t' ht'
        rw [List.mem_append, not_or, List.mem_singleton] at ht'
        exact (h.sameLoad t' ht'.1).trans (hstep.sameLoad t' ht'.2)
      bitsSound := by
        intro t' w hbit
        rcases hbits t' w hbit with hbit' | hempty
        · rcases h.bitsSound t' w hbit' with h₀ | hempty
          · exact Or.inl h₀
          · refine Or.inr (fun goal => le_antisymm ?_ (hstep.valid.remaining_nonneg w goal))
            rw [← hempty goal]
            exact hstep.remaining_le w goal
        · exact Or.inr hempty
      units := hstep.units.trans h.units
      balance := hstep.balance.trans h.balance
      reward := by
        rw [hstep.reward, h.reward, List.map_append, List.sum_append, hload.payment]
        simp [add_assoc]
      delayedReward := by
        rw [hstep.delayedReward, h.delayedReward, List.map_append, List.sum_append,
          hload.delayedPayment]
        simp [add_assoc]
      delivered := by
        rw [hstep.delivered, h.delivered, List.map_append, List.sum_append, hload.delivery]
        simp [add_assoc]
      awaiting := by
        intro goal
        rw [hstep.awaiting, h.awaiting, List.map_append, List.sum_append, hload.deliveryTo]
        simp [sub_sub]
      done := by
        intro t' ht'
        rcases List.mem_append.mp ht' with hin | hnew
        · rw [(hstep.sameLoad t' (hmem hin)).goal]
          exact h.done t' hin
        · rw [List.mem_singleton.mp hnew, ← hload.delivers, ← hstep.done, hload.goal]
      kept := by
        intro t' ht' hsome hstays
        rcases List.mem_append.mp ht' with hin | hnew
        · exact (h.kept t' hin hsome hstays).trans (hstep.sameLoad t' (hmem hin))
        · have heq := List.mem_singleton.mp hnew
          subst heq
          refine hload.trans (hstep.kept ?_ ?_)
          · rw [hload.goal]; exact hsome
          · rw [hload.delivers]; exact hstays
      took := by
        intro hnone
        rw [hstep.took (hnone t (by simp))]
        refine h.took (fun t' ht' => ?_)
        rw [← (hstep.sameLoad t' (hmem ht')).goal]
        exact hnone t' (List.mem_append_left _ ht') }

variable [RandomState G]

theorem foldlM_assignTarget_returns {s : Ledger n G} (hs : s.cargo.Valid cfg) :
    Returns ((List.finRange n).foldlM (assignTarget cfg inside) s)
      (Progress cfg inside s (List.finRange n)) := by
  refine Returns.foldlM (Progress cfg inside s) _ s (Progress.start hs) ?_
  intro served t rest s' hall h
  have ht : t ∉ served := by
    have hnodup := List.nodup_finRange n
    rw [hall] at hnodup
    intro hmem
    exact (List.disjoint_of_nodup_append hnodup) hmem List.mem_cons_self
  exact (assignTarget_returns h.valid t).mono (fun s'' hs'' => h.serve ht hs''.1 hs''.2)

end Ledger

namespace Cargo

open Ledger

variable {n : ℕ} {G : Type} {cfg : Config} {inside : Fin n → Warehouse → Bool}
  {tracked : Fin n → Bool} {c : Cargo n}

/-! ## Paying for being tracked -/

/-- The bounty that the load of a target loses because the target is tracked. -/
def lost (tracked : Fin n → Bool) (c : Cargo n) (t : Fin n) : ℤ :=
  if tracked t && decide (0 < c.bounties t) then 1 else 0

theorem chargeBounties_bounties (h : c.Valid cfg) (tracked : Fin n → Bool) (t : Fin n) :
    (c.chargeBounties tracked).bounties t = c.bounties t - c.lost tracked t := by
  have hnonneg := h.bounty_nonneg t
  simp only [chargeBounties, lost]
  cases tracked t with
  | false => simp [hnonneg]
  | true =>
      by_cases hpos : 0 < c.bounties t
      · simp [hpos]
        omega
      · simp [hpos]
        omega

theorem lost_nonneg (tracked : Fin n → Bool) (c : Cargo n) (t : Fin n) : 0 ≤ c.lost tracked t := by
  rw [lost]
  split <;> simp

theorem lost_le (h : c.Valid cfg) (tracked : Fin n → Bool) (t : Fin n) : c.lost tracked t ≤ c.bounties t := by
  have := h.bounty_nonneg t
  rw [lost]
  split
  · rename_i hcond
    have := of_decide_eq_true (Bool.and_eq_true_iff.mp hcond).2
    omega
  · exact this

theorem valid_chargeBounties (h : c.Valid cfg) : (c.chargeBounties tracked).Valid cfg where
  remaining_nonneg := h.remaining_nonneg
  diagonal := h.diagonal
  capacity_pos := h.capacity_pos
  awaiting := h.awaiting
  load := by
    intro t
    refine ⟨(h.load t).1, ?_⟩
    have hbounty := chargeBounties_bounties h tracked t
    have hle := lost_le h tracked t
    have hnonneg := lost_nonneg tracked c t
    show match c.targetGoals t with
      | none => _
      | some goal => _
    cases hgoal : c.targetGoals t with
    | none =>
        have hu := h.unloaded hgoal
        have hzero := hu.bounty
        exact ⟨hu.bits, hu.freight, by rw [hbounty]; omega⟩
    | some goal =>
        obtain ⟨weight, hw⟩ := h.carries hgoal
        have hbl := hw.bounty_le
        exact ⟨weight, hw.pos, hw.le_capacity, hw.bits, hw.freight, by rw [hbounty]; omega,
          by rw [hbounty]; omega⟩

theorem debt_chargeBounties (h : c.Valid cfg) :
    (c.chargeBounties tracked).debt cfg = c.debt cfg + ∑ t, c.lost tracked t := by
  rw [debt, debt, ← Finset.sum_add_distrib]
  refine Finset.sum_congr rfl (fun t _ => ?_)
  rw [chargeBounties_bounties h]
  show c.weight t * _ - _ = _
  ring

/-- **What `_assign_goals` does** to the cargoes `c`. -/
structure Assigned (cfg : Config) (inside : Fin n → Warehouse → Bool) (tracked : Fin n → Bool)
    (c : Cargo n) (s : Ledger n G) : Prop where
  valid : s.cargo.Valid cfg
  remaining_le : ∀ w goal, s.cargo.remainingCargoes w goal ≤ c.remainingCargoes w goal
  capacities : s.cargo.targetCapacities = c.targetCapacities
  bitsSound : BitsSound c s.cargo
  units : s.cargo.units = c.units
  balance : s.balance cfg = c.debt cfg
  reward : s.targetTeamReward
    = ∑ t, (c.chargeBounties tracked).payment inside t - ∑ t, c.lost tracked t
  delayedReward : s.delayedTargetTeamReward
    = ∑ t, (c.chargeBounties tracked).delayedPayment cfg inside t
  delivered : s.cargo.numDeliveredCargoes = c.numDeliveredCargoes + ∑ t, c.delivery inside t
  awaiting : ∀ goal, s.cargo.awaitingCargoCounts goal
    = c.awaitingCargoCounts goal - ∑ t, c.deliveryTo inside goal t
  dones : ∀ t, s.cargo.targetDones t = c.delivers inside t
  kept : ∀ t, c.targetGoals t ≠ none → c.delivers inside t = false →
    SameLoad (c.chargeBounties tracked) s.cargo t
  took : (∀ t, s.cargo.targetGoals t = none) → s.cargo.remainingCargoes = c.remainingCargoes

variable [RandomState G]

theorem assignGoals_returns (h : c.Valid cfg) (inside : Fin n → Warehouse → Bool)
    (tracked : Fin n → Bool) (rng : G) :
    Returns (c.assignGoals cfg inside tracked rng) (Assigned cfg inside tracked c) := by
  refine (foldlM_assignTarget_returns (s := c.openLedger tracked rng)
    (valid_chargeBounties h)).bind (fun s hs => Returns.pure ?_)
  -- the dones are marked after the loop, and no load changes with it
  have halike := alike_markDones c s.cargo
  have hsum : ∀ f : Fin n → ℤ, ((List.finRange n).map f).sum = ∑ t, f t :=
    fun f => (Fin.sum_univ_def f).symm
  exact
    { valid := halike.valid hs.valid
      remaining_le := hs.remaining_le
      capacities := hs.capacities
      bitsSound := hs.bitsSound
      units := hs.units
      balance := by
        have hbalance := hs.balance
        rw [Ledger.balance, Ledger.balance] at hbalance
        show s.targetTeamReward - s.delayedTargetTeamReward + (c.markDones s.cargo).debt cfg = _
        rw [halike.debt, hbalance]
        show -_ - 0 + (c.chargeBounties tracked).debt cfg = _
        rw [debt_chargeBounties h]
        show -(∑ t, c.lost tracked t) - 0 + _ = _
        ring
      reward := by
        show s.targetTeamReward = _
        rw [hs.reward, hsum]
        show -(∑ t, c.lost tracked t) + _ = _
        rw [neg_add_eq_sub]
        rfl
      delayedReward := by
        show s.delayedTargetTeamReward = _
        rw [hs.delayedReward, hsum]
        exact zero_add _
      delivered := by
        show s.cargo.numDeliveredCargoes = _
        rw [hs.delivered, hsum]
        rfl
      awaiting := by
        intro goal
        show s.cargo.awaitingCargoCounts goal = _
        rw [hs.awaiting, hsum]
        rfl
      dones := by
        intro t
        have hdone := hs.done t (List.mem_finRange t)
        rw [Bool.eq_iff_iff]
        refine Iff.trans ?_ hdone
        simp [markDones, openLedger, chargeBounties, Option.isSome_iff_ne_none]
      kept := fun t => (fun hsome hstays =>
        (hs.kept t (List.mem_finRange t) hsome hstays).trans (halike.sameLoad t))
      took := fun hnone => hs.took (fun t _ => hnone t) }

end Cargo

end Mate
