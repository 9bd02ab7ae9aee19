import Mate.Accounts

set_option autoImplicit false

/-! # The normalisation of the target reward

The maximum return is computed once, for `num_cargoes_per_target * num_targets` cargoes. That
many are in play only if the first pass of the `while` loop of `reset` draws every warehouse as
a sender; every further pass adds as many again (`Env.normalization_exact_iff`).
-/

namespace Mate

open Fallible Runs

namespace Cargo

variable {n : ℕ} {G : Type} {cfg : Config} {inside : Fin n → Warehouse → Bool}
  {tracked : Fin n → Bool} {c : Cargo n}

/-! ## Payments -/

theorem payment_le_delivery (h : c.Valid cfg) (t : Fin n) :
    c.payment inside t ≤ cfg.rewardScale * c.delivery inside t := by
  have := h.payment_le t
  rw [payment, delivery]
  split
  · rwa [mul_comm]
  · rw [mul_zero]

theorem Valid.bounty_le (h : c.Valid cfg) (t : Fin n) :
    c.bounties t ≤ c.weight t * cfg.bountyScale := by
  cases hgoal : c.targetGoals t with
  | none => rw [(h.unloaded hgoal).bounty, (h.unloaded hgoal).weight_eq, zero_mul]
  | some goal =>
      obtain ⟨weight, hw⟩ := h.carries hgoal
      rw [hw.weight_eq]
      exact hw.bounty_le

theorem delayedPayment_le_payment (h : c.Valid cfg) (t : Fin n) :
    c.delayedPayment cfg inside t ≤ c.payment inside t := by
  have := h.bounty_le t
  rw [delayedPayment, payment]
  split <;> omega

/-- Both rewards of a round of goals are paid for by the cargoes delivered in it. -/
theorem Assigned.reward_le {s : Ledger n G} (h : c.Valid cfg)
    (hs : Assigned cfg inside tracked c s) :
    s.targetTeamReward ≤ cfg.rewardScale * (s.cargo.numDeliveredCargoes - c.numDeliveredCargoes)
      ∧ s.delayedTargetTeamReward
        ≤ cfg.rewardScale * (s.cargo.numDeliveredCargoes - c.numDeliveredCargoes) := by
  have hcharged : (c.chargeBounties tracked).Valid cfg := valid_chargeBounties h
  have hlost : 0 ≤ ∑ t, c.lost tracked t := Finset.sum_nonneg (fun t _ => lost_nonneg tracked c t)
  have hpay : ∑ t, (c.chargeBounties tracked).payment inside t
      ≤ cfg.rewardScale * (s.cargo.numDeliveredCargoes - c.numDeliveredCargoes) := by
    rw [hs.delivered, add_sub_cancel_left, Finset.mul_sum]
    exact Finset.sum_le_sum (fun t _ => payment_le_delivery hcharged t)
  have hdelayed : ∑ t, (c.chargeBounties tracked).delayedPayment cfg inside t
      ≤ ∑ t, (c.chargeBounties tracked).payment inside t :=
    Finset.sum_le_sum (fun t _ => delayedPayment_le_payment hcharged t)
  rw [hs.reward, hs.delayedReward]
  constructor <;> linarith

end Cargo

namespace Env

variable {cfg : Config} {G V : Type} [RandomState G] [SetOrder]

/-! ## The return of an episode -/

/-- `normalized_raw_reward` of the target `t` in a call, if that is a step. -/
def normalizedReward (t : Fin cfg.numTargets) : Call cfg V → ℚ
  | .step _ _ _ result => (result.targetInfos t).normalizedRawReward
  | _ => 0

/-- The sum of `normalized_raw_reward` over the steps of a run. -/
def normalizedReturn (t : Fin cfg.numTargets) (calls : List (Call cfg V)) : ℚ :=
  (calls.map (normalizedReward t)).sum

/-- The cargoes in the warehouses and on the targets. -/
def cargoesInPlay (e : Env cfg G V) : ℤ :=
  totalCargoes e.cargo.remainingCargoes + ∑ t, e.cargo.weight t

/-- What the return is at most: the share of the delivered cargoes. -/
def deliveredShare (e : Env cfg G V) : ℚ :=
  cfg.rewardScale * e.cargo.numDeliveredCargoes / cfg.maxTargetTeamEpisodeReward

theorem Next.normalizedReward_le {total : ℤ} {self self' : Env cfg G V} {call : Call cfg V}
    (h : Next self call self') (hself : self.Consistent total) (t : Fin cfg.numTargets) :
    self.deliveredShare + normalizedReward t call ≤ self'.deliveredShare := by
  have hmax : (0 : ℚ) < cfg.maxTargetTeamEpisodeReward := by
    exact_mod_cast cfg.maxTargetTeamEpisodeReward_pos
  cases h with
  | send messages => exact (add_zero _).le
  | receive h => exact (add_zero _).le
  | write memory h => exact (add_zero _).le
  | step hstep =>
      obtain ⟨s, hs⟩ := step_stepped hself.valid hstep
      obtain ⟨hdense, hsparse⟩ := hs.assigned.reward_le hself.valid
      have hraw : ((if cfg.rewardType = .sparse then s.delayedTargetTeamReward
          else s.targetTeamReward : ℤ) : ℚ)
          ≤ cfg.rewardScale * (s.cargo.numDeliveredCargoes - self.cargo.numDeliveredCargoes) := by
        split
        · exact_mod_cast hsparse
        · exact_mod_cast hdense
      rw [normalizedReward, (hs.targetInfos t).2, hs.targetTeamReward, deliveredShare,
        deliveredShare, hs.alike.delivered, ← add_div, div_le_div_iff_of_pos_right hmax]
      linarith

/-- The return of a run is at most the share of the cargoes it has delivered. -/
theorem normalizedReturn_le {start env : Env cfg G V} {calls : List (Call cfg V)} {total : ℤ}
    (hstart : start.Consistent total) (hrun : Run Next start calls env)
    (t : Fin cfg.numTargets) :
    start.deliveredShare + normalizedReturn t calls ≤ env.deliveredShare :=
  hrun.sum_le (Consistent total) (normalizedReward t) deliveredShare hstart
    (fun _ _ _ hs hnext => ⟨hnext.consistent hs, hnext.normalizedReward_le hs t⟩)

/-- With the configured number of cargoes in play, no return exceeds one. -/
theorem normalizedReturn_le_one {start env : Env cfg G V} {calls : List (Call cfg V)}
    (hstart : start.Consistent (cfg.numCargoesPerTarget * cfg.numTargets))
    (hzero : start.cargo.numDeliveredCargoes = 0) (hrun : Run Next start calls env)
    (t : Fin cfg.numTargets) : normalizedReturn t calls ≤ 1 := by
  have hmax : (0 : ℚ) < cfg.maxTargetTeamEpisodeReward := by
    exact_mod_cast cfg.maxTargetTeamEpisodeReward_pos
  have hle := normalizedReturn_le hstart hrun t
  have henv := run_consistent hstart hrun
  have hdelivered : env.cargo.numDeliveredCargoes ≤ cfg.numCargoesPerTarget * cfg.numTargets := by
    have hunits := henv.units
    rw [Cargo.units] at hunits
    have hnonneg : 0 ≤ ∑ goal, env.cargo.awaitingCargoCounts goal :=
      Finset.sum_nonneg (fun goal _ => henv.valid.awaiting_nonneg goal)
    omega
  have hshare : env.deliveredShare ≤ 1 := by
    rw [deliveredShare, div_le_one hmax, Config.maxTargetTeamEpisodeReward]
    have hscale := cfg.rewardScale_pos.le
    have := mul_le_mul_of_nonneg_left hdelivered hscale
    rw [← mul_assoc] at this
    exact_mod_cast this
  have hstart0 : start.deliveredShare = 0 := by simp [deliveredShare, hzero]
  linarith

/-! ## How many cargoes are in play -/

omit [RandomState G] [SetOrder] in
theorem cargoesInPlay_eq {start : Env cfg G V} (h : start.cargo.Valid cfg) :
    start.cargoesInPlay = ∑ goal, start.cargo.awaitingCargoCounts goal :=
  h.sum_awaiting.symm

/-- **The normalisation is exact if and only if** the first `num_cargoes_per_target *
num_targets` draws of `reset` name every warehouse as a sender. -/
theorem normalization_exact_iff {fuel : ℕ} {seed : Option ℕ} {self start placed : Env cfg G V}
    {observations : Observations cfg} {reg : Registry}
    (hentities : self.resetEntities seed = .ok (reg, placed))
    (hreset : self.reset fuel seed = .ok (observations, reg, start)) :
    (start.cargoesInPlay = cfg.numCargoesPerTarget * cfg.numTargets
        ∧ ∀ calls env, Run Next start calls env → ∀ t, normalizedReturn t calls ≤ 1)
      ↔ ∀ w, ∃ goal,
        (w, goal) ∈ Cargo.draws (cfg.numCargoesPerTarget * cfg.numTargets) placed.rng := by
  obtain ⟨⟨placed', hentities', hready⟩, -, -, -⟩ := reset_ready hreset
  obtain rfl : placed' = placed := by
    rw [hentities] at hentities'
    cases hentities'
    rfl
  obtain ⟨passes, hpasses, htotal, hfirst⟩ := hready.total
  have hpos : 0 < cfg.numCargoesPerTarget * cfg.numTargets :=
    Nat.mul_pos (lt_of_lt_of_le (by decide) cfg.le_numCargoesPerTarget) cfg.numTargets_pos
  -- every pass of the loop deals the same number of cargoes
  have hone : start.cargoesInPlay = cfg.numCargoesPerTarget * cfg.numTargets ↔ passes = 1 := by
    rw [cargoesInPlay_eq hready.valid, htotal]
    constructor
    · intro h
      have hmul : passes * (cfg.numCargoesPerTarget * cfg.numTargets)
          = 1 * (cfg.numCargoesPerTarget * cfg.numTargets) := by
        rw [one_mul]
        exact_mod_cast h
      exact Nat.eq_of_mul_eq_mul_right hpos hmul
    · rintro rfl
      push_cast
      ring
  rw [← Cargo.allSend_firstPass, ← hfirst, ← hone]
  constructor
  · exact fun h => h.1
  · intro h
    refine ⟨h, fun calls env hrun t => ?_⟩
    refine normalizedReturn_le_one ?_ hready.delivered hrun t
    have hunits : start.cargo.units = cfg.numCargoesPerTarget * cfg.numTargets := by
      rw [Cargo.units, hready.delivered, zero_add, ← cargoesInPlay_eq hready.valid, h]
    exact hunits ▸ reset_consistent hreset

omit [SetOrder] in
theorem normalization_exact_iff_solo :
    letI := rotating
    letI := SetOrder.increasing
    ∃ (self start placed : Env (soloConfig (0, 0) 10 (by decide)) (Fin 4) Unit)
      (observations : Observations (soloConfig (0, 0) 10 (by decide))) (reg : Registry),
      self.resetEntities none = .ok (reg, placed)
        ∧ self.reset 2 none = .ok (observations, reg, start)
        ∧ start.cargoesInPlay = 4 * 1 := by
  let _ := rotating
  let _ := SetOrder.increasing
  obtain ⟨self, start, observations, reg, -, hreset⟩ :=
    exists_solo_reset (0, 0) 10 (by decide) ⟨0, fun _ => ()⟩
  obtain ⟨⟨placed, hentities, -⟩, -⟩ := reset_ready hreset
  have hdraws : ∀ g : Fin 4, ∀ w, ∃ goal, (w, goal) ∈ Cargo.draws 4 g := by decide
  exact ⟨self, start, placed, observations, reg, hentities, hreset,
    ((normalization_exact_iff hentities hreset).mpr (hdraws placed.rng)).1⟩

/-- A generator that gives every permutation four times in a row. -/
noncomputable abbrev stuttering : RandomState (Fin 16) := turning 16 (fun g => g / 4)

omit [SetOrder] in
/-- **The normalisation is not exact**: when the first four draws name the same senders again
and again, a new environment is reset with more cargoes in play than its maximum is for. -/
theorem normalization_not_exact :
    letI := stuttering
    letI := SetOrder.increasing
    ∃ (self start : Env (soloConfig (0, 0) 10 (by decide)) (Fin 16) Unit)
      (observations : Observations (soloConfig (0, 0) 10 (by decide))) (reg : Registry),
      Env.init (soloConfig (0, 0) 10 (by decide)) ⟨0, fun _ => ()⟩ = .ok self
        ∧ self.reset 6 none = .ok (observations, reg, start)
        ∧ start.cargoesInPlay ≠ 4 * 1 := by
  let _ := stuttering
  let _ := SetOrder.increasing
  obtain ⟨self, hself⟩ : ∃ self : Env (soloConfig (0, 0) 10 (by decide)) (Fin 16) Unit,
      Env.init (soloConfig (0, 0) 10 (by decide)) ⟨0, fun _ => ()⟩ = .ok self := ⟨_, rfl⟩
  have henough : ∀ g : Fin 16, Cargo.allSend (Cargo.fillPass 20 0 g).1 = true := by decide
  obtain ⟨⟨observations, reg, start⟩, hreset, -⟩ := reset_returns
    (rfl : (soloConfig (0, 0) 10 (by decide)).numCameras = 0)
    (fun awaiting g => Cargo.fillCargoes_ne_outOfFuel 5 0 awaiting g (henough g)) none self
  obtain ⟨⟨placed, -, hready⟩, -⟩ := reset_ready hreset
  obtain ⟨passes, -, htotal, hfirst⟩ := hready.total
  have hmissing : ∀ g : Fin 16, Cargo.allSend (Cargo.fillPass 4 0 g).1 = false := by decide
  refine ⟨self, start, observations, reg, hself, hreset, ?_⟩
  rw [cargoesInPlay_eq hready.valid, htotal]
  intro hfour
  have hcount : (soloConfig (0, 0) 10 (by decide)).numCargoesPerTarget
      * (soloConfig (0, 0) 10 (by decide)).numTargets = 4 := rfl
  rw [hcount] at hfour
  have hone : passes = 1 := by omega
  exact Bool.false_ne_true ((hmissing placed.rng).symm.trans (hfirst.mp hone))

end Env

end Mate
