import Mate.Random
import Mate.Config
import Mathlib.Algebra.BigOperators.Fin

set_option autoImplicit false

/-! # Cargoes: the goals of the targets, and who carries what

The integer part of the environment. `assignGoals` is `_assign_goals`: the bounties pay for
being tracked, then every target, one after the other, goes through the warehouses it stands
in, delivers its cargo, and picks up a new one. Where the targets are (`inside`) and which of
them are tracked (`tracked`) comes from the geometry.
-/

namespace Mate

/-- The arrays of the environment about `n` targets and their cargoes, and the `goal_bits` and
`empty_bits` of the targets themselves. The goal `-1` is `none`. -/
structure Cargo (n : ℕ) where
  remainingCargoes : Warehouse → Warehouse → ℤ
  awaitingCargoCounts : Warehouse → ℤ
  numDeliveredCargoes : ℤ
  targetCapacities : Fin n → ℤ
  targetGoals : Fin n → Option Warehouse
  targetGoalBits : Fin n → Warehouse → ℤ
  goalBits : Fin n → Warehouse → ℤ
  emptyBits : Fin n → Warehouse → Bool
  freights : Fin n → ℤ
  bounties : Fin n → ℤ
  targetDones : Fin n → Bool
  targetSteps : Fin n → ℤ
  trackedSteps : Fin n → ℤ

/-- The state of the loops over cargoes: the two rewards are local to `_assign_goals`. -/
structure Ledger (n : ℕ) (G : Type) where
  cargo : Cargo n
  rng : G
  targetTeamReward : ℤ
  delayedTargetTeamReward : ℤ

namespace Cargo

variable {n : ℕ}

/-- `remaining_cargoes[warehouse].any()`. -/
def stocked (c : Cargo n) (warehouse : Warehouse) : Bool :=
  decide (∃ goal, c.remainingCargoes warehouse goal ≠ 0)

/-- `np.flatnonzero(remaining_cargoes[warehouse] > 0)`. -/
def openGoals (c : Cargo n) (warehouse : Warehouse) : List Warehouse :=
  (List.finRange NUM_WAREHOUSES).filter (fun goal => 0 < c.remainingCargoes warehouse goal)

/-- A target that has just delivered, or has nothing, gives up its load. -/
def release (c : Cargo n) (t : Fin n) : Cargo n :=
  { c with
    freights := Function.update c.freights t 0
    bounties := Function.update c.bounties t 0
    trackedSteps := Function.update c.trackedSteps t 0
    targetSteps := Function.update c.targetSteps t 0
    targetGoalBits := Function.update c.targetGoalBits t 0
    goalBits := Function.update c.goalBits t 0
    targetGoals := Function.update c.targetGoals t none }

/-- `min(capacity, remaining)`. -/
def cargoWeight (c : Cargo n) (t : Fin n) (warehouse goal : Warehouse) : ℤ :=
  min (c.targetCapacities t) (c.remainingCargoes warehouse goal)

/-- The target takes cargoes to `goal` out of `warehouse`. -/
def load (cfg : Config) (c : Cargo n) (t : Fin n) (warehouse goal : Warehouse) : Cargo n :=
  let weight := c.cargoWeight t warehouse goal
  { c with
    remainingCargoes := Function.update c.remainingCargoes warehouse
      (Function.update (c.remainingCargoes warehouse) goal
        (c.remainingCargoes warehouse goal - weight))
    targetGoalBits :=
      Function.update c.targetGoalBits t (Function.update (c.targetGoalBits t) goal weight)
    freights := Function.update c.freights t (weight * cfg.freightScale)
    bounties := Function.update c.bounties t (weight * cfg.bountyScale)
    goalBits := Function.update c.goalBits t (Function.update (c.goalBits t) goal weight)
    targetGoals := Function.update c.targetGoals t (some goal) }

/-- The target looks around in the warehouses it stands in. -/
def refreshEmptyBits (c : Cargo n) (t : Fin n) (warehouses : List Warehouse) : Cargo n :=
  { c with
    emptyBits := Function.update c.emptyBits t
      (fun w => if w ∈ warehouses then ! c.stocked w else c.emptyBits t w) }

/-- `np.maximum(bounties - tracked_bits, 0)`. -/
def chargeBounties (c : Cargo n) (tracked : Fin n → Bool) : Cargo n :=
  { c with bounties := fun t => max (c.bounties t - if tracked t then 1 else 0) 0 }

end Cargo

namespace Ledger

variable {n : ℕ} {G : Type}

/-- The target delivers the cargo it carries to `goal`. -/
def deliver (cfg : Config) (s : Ledger n G) (t : Fin n) (goal : Warehouse) : Ledger n G :=
  let weight := s.cargo.targetGoalBits t goal
  let totalBounty := weight * cfg.bountyScale
  let reward := s.cargo.freights t + s.cargo.bounties t
  { s with
    targetTeamReward := s.targetTeamReward + reward
    delayedTargetTeamReward :=
      s.delayedTargetTeamReward + (reward - (totalBounty - s.cargo.bounties t))
    cargo := { s.cargo with
      numDeliveredCargoes := s.cargo.numDeliveredCargoes + weight
      awaitingCargoCounts := Function.update s.cargo.awaitingCargoCounts goal
        (s.cargo.awaitingCargoCounts goal - weight) } }

/-- `if goal >= 0: ...` up to `self.target_goals[t] = -1`, in a warehouse the loop does not skip. -/
def settle (cfg : Config) (s : Ledger n G) (t : Fin n) (goal : Option Warehouse) : Ledger n G :=
  let s := match goal with
    | some goal => s.deliver cfg t goal
    | none => s
  { s with cargo := s.cargo.release t }

variable [RandomState G]

/-- A target picks one of the goals that `warehouse` has cargoes for. -/
def pickUp (cfg : Config) (s : Ledger n G) (t : Fin n) (warehouse : Warehouse) :
    Except Error (Ledger n G) := do
  let (goal, rng) ← RandomState.choice (s.cargo.openGoals warehouse) s.rng
  return { s with cargo := s.cargo.load cfg t warehouse goal, rng }

/-- The loop over the warehouses the target stands in. `goal` is read once, before the loop. -/
def visit (cfg : Config) (t : Fin n) (goal : Option Warehouse) :
    List Warehouse → Ledger n G → Except Error (Ledger n G)
  | [], s => .ok s
  | warehouse :: rest, s =>
      if goal = none ∨ goal = some warehouse then
        let s := s.settle cfg t goal
        if s.cargo.stocked warehouse then s.pickUp cfg t warehouse
        else visit cfg t goal rest s
      else visit cfg t goal rest s

/-- `np.flatnonzero(supremum <= consts.WAREHOUSE_RADIUS)`. -/
def warehousesOf (inside : Fin n → Warehouse → Bool) (t : Fin n) : List Warehouse :=
  (List.finRange NUM_WAREHOUSES).filter (inside t)

/-- One iteration of the loop over the targets. -/
def assignTarget (cfg : Config) (inside : Fin n → Warehouse → Bool) (s : Ledger n G)
    (t : Fin n) : Except Error (Ledger n G) := do
  let s ← visit cfg t (s.cargo.targetGoals t) (warehousesOf inside t) s
  return { s with cargo := s.cargo.refreshEmptyBits t (warehousesOf inside t) }

end Ledger

namespace Cargo

variable {n : ℕ} {G : Type} [RandomState G]

/-- The ledger after the tracked targets have paid. -/
def openLedger (c : Cargo n) (tracked : Fin n → Bool) (rng : G) : Ledger n G where
  cargo := c.chargeBounties tracked
  rng := rng
  targetTeamReward := -∑ t, if tracked t && decide (0 < c.bounties t) then 1 else 0
  delayedTargetTeamReward := 0

/-- The flags of the targets whose goal is not the one they had in `c`. -/
def markDones (c c' : Cargo n) : Cargo n :=
  { c' with
    targetDones := fun t => decide (c'.targetGoals t ≠ c.targetGoals t) && (c.targetGoals t).isSome }

/-- `_assign_goals`. -/
def assignGoals (cfg : Config) (inside : Fin n → Warehouse → Bool) (tracked : Fin n → Bool)
    (c : Cargo n) (rng : G) : Except Error (Ledger n G) := do
  let s ← (List.finRange n).foldlM (Ledger.assignTarget cfg inside) (c.openLedger tracked rng)
  return { s with cargo := c.markDones s.cargo }

/-! ## The cargoes of a new episode -/

/-- `remaining_cargoes[sender, recipient] += 1`. -/
def addCargo (remaining : Warehouse → Warehouse → ℤ) (sender recipient : Warehouse) :
    Warehouse → Warehouse → ℤ :=
  Function.update remaining sender
    (Function.update (remaining sender) recipient (remaining sender recipient + 1))

/-- One `for` loop of random cargoes. -/
def fillPass : ℕ → (Warehouse → Warehouse → ℤ) → G → (Warehouse → Warehouse → ℤ) × G
  | 0, remaining, g => (remaining, g)
  | k + 1, remaining, g =>
      let ((sender, recipient), g) := RandomState.choicePair g
      fillPass k (addCargo remaining sender recipient) g

/-- `remaining_cargoes.any(axis=-1).all()`. -/
def allSend (remaining : Warehouse → Warehouse → ℤ) : Bool :=
  decide (∀ sender, ∃ recipient, remaining sender recipient ≠ 0)

/-- The `while` loop of `reset`, for at most `fuel` tests of its condition. -/
def fillCargoes (cfg : Config) :
    ℕ → (Warehouse → Warehouse → ℤ) → (Warehouse → ℤ) → G →
      Except Error ((Warehouse → Warehouse → ℤ) × (Warehouse → ℤ) × G)
  | 0, _, _, _ => .error .outOfFuel
  | fuel + 1, remaining, awaiting, g =>
      if allSend remaining then .ok (remaining, awaiting, g)
      else
        let (remaining, g) := fillPass (cfg.numCargoesPerTarget * cfg.numTargets) remaining g
        fillCargoes cfg fuel remaining (fun goal => ∑ w, remaining w goal) g

/-- The arrays after the cargoes are drawn: nobody has a goal. -/
def clear (c : Cargo n) (remaining : Warehouse → Warehouse → ℤ) (awaiting : Warehouse → ℤ) :
    Cargo n :=
  { c with
    remainingCargoes := remaining
    awaitingCargoCounts := awaiting
    targetGoals := fun _ => none
    targetGoalBits := 0
    targetSteps := 0
    trackedSteps := 0
    freights := 0
    bounties := 0 }

/-- One iteration of the loop that gives every target a cargo to start with: the first
warehouse in a random order that has any. -/
def startTarget (cfg : Config) (s : Ledger n G) (t : Fin n) : Except Error (Ledger n G) :=
  let (σ, rng) := RandomState.permutation NUM_WAREHOUSES s.rng
  let s := { s with rng }
  match ((List.finRange NUM_WAREHOUSES).map σ).find? s.cargo.stocked with
  | some warehouse => s.pickUp cfg t warehouse
  | none => .ok s

def internalError : Error :=
  .assertionError "Internal error: not all targets have been assigned with cargoes."

/-- `if self.targets_start_with_cargoes: ...` with its assertion. -/
def startWithCargoes (cfg : Config) (s : Ledger n G) : Except Error (Ledger n G) :=
  if cfg.targetsStartWithCargoes then do
    let unassigned := (List.finRange n).filter (fun t => s.cargo.targetGoals t = none)
    let s ← unassigned.foldlM (startTarget cfg) s
    if ∀ t, s.cargo.targetGoals t ≠ none then return s else throw internalError
  else .ok s

/-- What `Target.reset` does to the bits of every target. -/
def resetBits (c : Cargo n) : Cargo n := { c with goalBits := 0, emptyBits := fun _ _ => false }

/-- The part of `reset` from `self.remaining_cargoes.fill(0)` to the assertion. -/
def reset (cfg : Config) (fuel : ℕ) (inside : Fin n → Warehouse → Bool) (tracked : Fin n → Bool)
    (c : Cargo n) (g : G) : Except Error (Ledger n G) := do
  let (remaining, awaiting, g) ← fillCargoes cfg fuel 0 c.awaitingCargoCounts g
  let s ← (c.clear remaining awaiting).assignGoals cfg inside tracked g
  startWithCargoes cfg
    { s with cargo := { s.cargo with targetDones := fun _ => false, numDeliveredCargoes := 0 } }

end Cargo

end Mate
