import Mate.Environment.State

set_option autoImplicit false

/-! # `step`, `reset`, and the runs of an environment

`Env.reset` takes the bound on the `while` loop that fills the warehouses and returns the class
attributes of `Target` it leaves; `Env.step` is given the ones it finds. `Env.Next` is one call
of a method on an environment, labelled with what is passed and returned.
-/

namespace Mate

/-- An entry of the infos of `step`; `messages` is the list object of the buffer. -/
structure Info where
  rawReward : ℤ
  normalizedRawReward : ℚ
  messages : ℕ
  outCommunicationEdges : ℤ
  inCommunicationEdges : ℤ
  coverageRate : ℚ
  realCoverageRate : ℚ
  meanTransportRate : ℚ
  numDeliveredCargoes : ℤ

/-- What `step` returns. -/
structure StepResult (cfg : Config) where
  observations : Observations cfg
  cameraTeamReward : ℤ
  targetTeamReward : ℤ
  done : Bool
  cameraInfos : Fin cfg.numCameras → Info
  targetInfos : Fin cfg.numTargets → Info

def NUM_RESET_RETRIES : ℕ := 500

namespace Env

variable {cfg : Config} {G V : Type} [RandomState G]

/-! ## The step -/

/-- The state of a step after its round of goals. -/
noncomputable def withGoals (self : Env cfg G V) (s : Ledger cfg.numTargets G) : Env cfg G V :=
  { self.measureDistances with
    cargo := s.cargo
    rng := s.rng
    targetTeamEpisodeReward := self.targetTeamEpisodeReward + s.targetTeamReward
    delayedTargetTeamEpisodeReward :=
      self.delayedTargetTeamEpisodeReward + s.delayedTargetTeamReward }

/-- `target_steps += 1; tracked_steps += tracked_bits`. -/
def countSteps (self : Env cfg G V) : Env cfg G V :=
  { self with
    cargo := { self.cargo with
      targetSteps := fun t => self.cargo.targetSteps t + 1
      trackedSteps := fun t => self.cargo.trackedSteps t + if self.trackedBits t then 1 else 0 }
    episodeStep := self.episodeStep + 1 }

/-- `not (episode_step <= max_episode_steps and awaiting_cargo_counts.any())`. -/
def isDone (self : Env cfg G V) : Bool :=
  ! (decide (self.episodeStep ≤ cfg.maxEpisodeSteps)
    && decide (∃ goal, self.cargo.awaitingCargoCounts goal ≠ 0))

/-- The info of agent `i` of a team, with the list object of its messages. -/
def info (self : Env cfg G V) (team : Team) (i : Fin (cfg.teamSize team)) (messages : ℕ)
    (rawReward : ℤ) : Info where
  rawReward := rawReward
  normalizedRawReward := rawReward / cfg.maxTargetTeamEpisodeReward
  messages := messages
  outCommunicationEdges := ∑ j, self.mail.edges team i j
  inCommunicationEdges := ∑ j, self.mail.edges team j i
  coverageRate := self.coverageRate
  realCoverageRate := self.realCoverageRate
  meanTransportRate := self.meanTransportRate
  numDeliveredCargoes := self.cargo.numDeliveredCargoes

/-- `step` after `_assign_goals`: what it returns, and the state it leaves. -/
noncomputable def finishStep (self : Env cfg G V) (reward delayedReward : ℤ) :
    StepResult cfg × Env cfg G V :=
  let (observations, self) := self.jointObservation
  let targetTeamReward := if cfg.rewardType = .sparse then delayedReward else reward
  let self := self.countSteps
  let (cameraLists, mail) := self.mail.bufferLists .camera (List.range cfg.numCameras)
  let (targetLists, mail) := mail.bufferLists .target (List.range cfg.numTargets)
  ({ observations
     cameraTeamReward := -targetTeamReward
     targetTeamReward
     done := self.isDone
     cameraInfos := fun c => self.info .camera c (cameraLists.getD c 0) (-targetTeamReward)
     targetInfos := fun t => self.info .target t (targetLists.getD t 0) targetTeamReward },
    { self with mail := mail.endStep })

/-- `step`, where the class attributes of `Target` are `reg`. -/
noncomputable def step [SetOrder] (reg : Registry) (self : Env cfg G V)
    (cameraJointAction : Fin cfg.numCameras → ℝ × ℝ) (targetJointAction : Fin cfg.numTargets → ℂ) :
    Except Error (StepResult cfg × Env cfg G V) := do
  let self ← self.simulate reg cameraJointAction targetJointAction
  let s ← self.cargo.assignGoals cfg self.inside self.trackedBits self.rng
  return (self.withGoals s).finishStep s.targetTeamReward s.delayedTargetTeamReward

/-! ## Shuffling and capacities -/

/-- `entity.seed(np_random.randint(int_max))` for the entities of a list, in its order. -/
def seedAll {n : ℕ} (g : G) : (Fin n → G) × G :=
  (List.finRange n).foldl
    (fun (seeds, g) i =>
      let (seed, g) := RandomState.randint INT_MAX INT_MAX_pos g
      (Function.update seeds i (RandomState.seed seed), g))
    (fun _ => g, g)

/-- `seed`. The seeds go through the entities in the order of the configuration; the box of the
radii is left with the seed of the last obstacle. -/
def reseed (self : Env cfg G V) (seed : ℕ) : Env cfg G V :=
  let g : G := RandomState.seed seed
  let (cameraSeeds, g) := seedAll (n := cfg.numCameras) g
  let (targetSeeds, g) := seedAll (n := cfg.numTargets) g
  let (obstacleSeeds, g) := seedAll (n := cfg.numObstacles) g
  { self with
    rng := g
    radiusRng := ((List.finRange cfg.numObstacles).getLast?.map obstacleSeeds).getD self.radiusRng
    cameras := fun c => { self.cameras c with rng := cameraSeeds (self.cameraOrder c) }
    targets := fun t => { self.targets t with rng := targetSeeds (self.targetOrder t) }
    obstacles := fun o => { self.obstacles o with rng := obstacleSeeds (self.obstacleOrder o) } }

/-- `self.cameras = list(self.cameras_ordered)` and the like. -/
def restoreOrder (self : Env cfg G V) : Env cfg G V :=
  { self with
    cameras := fun c => self.cameras (self.cameraOrder.symm c)
    targets := fun t => self.targets (self.targetOrder.symm t)
    obstacles := fun o => self.obstacles (self.obstacleOrder.symm o)
    cameraOrder := 1
    targetOrder := 1
    obstacleOrder := 1 }

/-- `if self.shuffle_entities: ...`. -/
def shuffle (self : Env cfg G V) : Env cfg G V :=
  if cfg.shuffleEntities then
    let (σ, g) := RandomState.permutation cfg.numCameras self.rng
    let (τ, g) := RandomState.permutation cfg.numTargets g
    let (υ, g) := RandomState.permutation cfg.numObstacles g
    { self with
      rng := g
      cameras := fun c => self.cameras (σ c)
      targets := fun t => self.targets (τ t)
      obstacles := fun o => self.obstacles (υ o)
      cameraOrder := σ.trans self.cameraOrder
      targetOrder := τ.trans self.targetOrder
      obstacleOrder := υ.trans self.obstacleOrder }
  else self

/-- The capacity of a target with or without high capacity. -/
def capacityOf (high : Bool) : ℤ := if high then 2 else 1

theorem capacityOf_pos (high : Bool) : 0 < capacityOf high := by cases high <;> decide

/-- The capacities of the targets. Without targets of high capacity only the array is set. -/
noncomputable def drawCapacities (self : Env cfg G V) : Env cfg G V :=
  if 0 < cfg.numHighCapacityTargets then
    let (high, rng) :=
      if cfg.shuffleEntities then
        RandomState.choiceSet cfg.numTargets cfg.numHighCapacityTargets self.rng
      else (fun t => decide ((t : ℕ) < cfg.numHighCapacityTargets), self.rng)
    { self with
      rng
      targets := fun t => (self.targets t).setCapacity (capacityOf (high t)) (capacityOf_pos _)
      cargo := { self.cargo with targetCapacities := fun t => capacityOf (high t) } }
  else { self with cargo := { self.cargo with targetCapacities := fun _ => capacityOf false } }

/-! ## Placing the entities -/

/-- The obstacles in the corners that nothing is placed on. -/
noncomputable def warehouseBodies : List Body :=
  (List.finRange NUM_WAREHOUSES).map
    (fun w => ⟨warehouseLocation w, (3 / 4 * WAREHOUSE_RADIUS : ℚ), none⟩)

/-- The retry loop for one entity: `resetEntity` until there is no overlap. The flag tells
whether the loop was left by `break`. -/
noncomputable def retry {E : Type} (resetEntity : E → Except Error E) (body : E → Body)
    (minDistance : ℝ) (placed : List Body) : ℕ → E → Except Error (E × Bool)
  | 0, e => .ok (e, false)
  | k + 1, e => do
      let e ← resetEntity e
      if placed.all (fun r => ! (body e).overlap r minDistance) then return (e, true)
      else retry resetEntity body minDistance placed k e

/-- Obstacles and cameras keep their distance from each other. -/
noncomputable def minDistance (cfg : Config) : ℝ := ((cfg.target.stepSize : ℚ) : ℝ)

noncomputable def placeCameras (self : Env cfg G V) (placed : List Body) :
    Except Error (List Body × Env cfg G V) :=
  (List.finRange cfg.numCameras).foldlM
    (fun (placed, self) c => do
      let (camera, _) ←
        retry Camera.reset Camera.body (minDistance cfg) placed NUM_RESET_RETRIES (self.cameras c)
      return (placed ++ [camera.body],
        { self with cameras := Function.update self.cameras c camera }))
    (placed, self)

/-- An obstacle that cannot be placed gets the radius zero. -/
noncomputable def placeObstacles (self : Env cfg G V) (placed : List Body) :
    Except Error (List Body × Env cfg G V) :=
  (List.finRange cfg.numObstacles).foldlM
    (fun (placed, self) o => do
      let ((obstacle, radiusRng), found) ←
        retry (fun e => .ok (e.1.reset e.2)) (fun e => e.1.body) (minDistance cfg) placed
          NUM_RESET_RETRIES (self.obstacles o, self.radiusRng)
      let obstacle := if found then obstacle else { obstacle with radius := 0 }
      return (placed ++ [obstacle.body],
        { self with obstacles := Function.update self.obstacles o obstacle, radiusRng }))
    (placed, self)

/-- `Target.reset` clears the bits of the target, too. -/
noncomputable def placeTargets (self : Env cfg G V) (placed : List Body) :
    Except Error (List Body × Env cfg G V) :=
  (List.finRange cfg.numTargets).foldlM
    (fun (placed, self) t => do
      let (target, _) ←
        retry (fun e => .ok e.reset) Target.body 0 placed NUM_RESET_RETRIES (self.targets t)
      return (placed ++ [target.body],
        { self with targets := Function.update self.targets t target }))
    (placed, { self with cargo := self.cargo.resetBits })

noncomputable def placeEntities (self : Env cfg G V) : Except Error (Env cfg G V) := do
  let (placed, self) ← self.placeCameras warehouseBodies
  let (placed, self) ← self.placeObstacles placed
  let (_, self) ← self.placeTargets placed
  return self

/-! ## Obstacles -/

/-- What the cameras can see in principle, and what blocks the targets. -/
noncomputable def registerObstacles [SetOrder] (self : Env cfg G V) : Registry × Env cfg G V :=
  let obstacles := List.ofFn self.obstacles
  let cameras := fun c => (self.cameras c).clearObstacles.addObstacles obstacles
  (Registry.empty.addObstacles
      (obstacles.map Obstacle.disc ++ List.ofFn (fun c => (cameras c).disc)),
    { self with cameras })

/-- The block `if self.num_obstacles > 0`; without obstacles the arrays are empty. -/
noncomputable def observeObstacles (self : Env cfg G V) : Env cfg G V :=
  let flaggedStates := fun o => flagged (self.obstacles o).state
  let mask := fun c (o : Fin cfg.numObstacles) => decide ((o : ℕ) ∈ (self.cameras c).obstacles)
  { self with
    obstacleStatesFlagged := flaggedStates
    cameraObstacleViewMask := mask
    targetObstacleViewMask := fun _ _ => false
    cameraObstacleObservations := fun c o => whereMask (mask c o) (flaggedStates o) }

/-! ## The reset -/

/-- The state of a reset after the cargoes are drawn. -/
noncomputable def withStock (self : Env cfg G V) (s : Ledger cfg.numTargets G) : Env cfg G V :=
  { self.measureDistances with
    cargo := s.cargo
    rng := s.rng
    targetTeamEpisodeReward := 0
    delayedTargetTeamEpisodeReward := 0 }

/-- A target looks at its goal, or anywhere. -/
noncomputable def orientTargets (self : Env cfg G V) : Env cfg G V :=
  (List.finRange cfg.numTargets).foldl
    (fun self t =>
      match self.cargo.targetGoals t with
      | some goal =>
          { self with
            targetOrientations := Function.update self.targetOrientations t
              (arctan2Deg (warehouseLocation goal - (self.targets t).location)) }
      | none =>
          let (u, rng) := RandomState.random self.rng
          { self with
            rng
            targetOrientations := Function.update self.targetOrientations t
              (normalizeAngle (360 * u)) })
    { self with targetOrientations := fun _ => 0 }

/-- The part of `reset` before the cargoes: entities, obstacles and views. -/
noncomputable def resetEntities [SetOrder] (seed : Option ℕ) (self : Env cfg G V) :
    Except Error (Registry × Env cfg G V) := do
  let self := match seed with
    | some seed => self.reseed seed
    | none => self
  let self ← self.restoreOrder.shuffle.drawCapacities.placeEntities
  let (reg, self) := self.registerObstacles
  let self ← self.observeObstacles.updateView
  return (reg, self)

/-- The end of `reset`: the stores of messages and the step counter. -/
noncomputable def finishReset (self : Env cfg G V) : Observations cfg × Env cfg G V :=
  jointObservation { self.orientTargets with mail := self.mail.reset, episodeStep := 0 }

/-- `reset`, with the class attributes of `Target` that it leaves. -/
noncomputable def reset [SetOrder] (fuel : ℕ) (seed : Option ℕ) (self : Env cfg G V) :
    Except Error (Observations cfg × Registry × Env cfg G V) := do
  let (reg, self) ← self.resetEntities seed
  let s ← self.cargo.reset cfg fuel self.inside self.trackedBits self.rng
  let (observations, self) := (self.withStock s).finishReset
  return (observations, reg, self)

/-! ## Runs -/

/-- A call of a method between two resets, with what it is given and what it returns. The last
one stands for the agents, who change the contents of messages and make new ones. -/
inductive Call (cfg : Config) (V : Type)
  | step (reg : Registry) (cameraJointAction : Fin cfg.numCameras → ℝ × ℝ)
      (targetJointAction : Fin cfg.numTargets → ℂ) (result : StepResult cfg)
  | send (messages routed : List Message) (result : Except Error Unit)
  | receive (agentId : Option AgentId) (agent : Option AgentHandle) (received : Received)
  | write (memory : Memory V)

def Call.isStep : Call cfg V → Bool
  | .step _ _ _ _ => true
  | _ => false

/-- One call that returns, or a `send_messages` that may raise. -/
inductive Next [SetOrder] : Env cfg G V → Call cfg V → Env cfg G V → Prop
  | step {self self' : Env cfg G V} {reg : Registry}
      {cameraJointAction : Fin cfg.numCameras → ℝ × ℝ} {targetJointAction : Fin cfg.numTargets → ℂ}
      {result : StepResult cfg} :
      self.step reg cameraJointAction targetJointAction = .ok (result, self') →
      Next self (.step reg cameraJointAction targetJointAction result) self'
  | send {self : Env cfg G V} (messages : List Message) :
      Next self (.send messages (self.mail.routed messages) (self.mail.sendMessages messages).1)
        { self with mail := (self.mail.sendMessages messages).2 }
  | receive {self : Env cfg G V} {agentId : Option AgentId} {agent : Option AgentHandle}
      {received : Received} {mail : Mail cfg V} :
      self.mail.receiveMessages agentId agent = .ok (received, mail) →
      Next self (.receive agentId agent received) { self with mail }
  | write {self : Env cfg G V} (memory : Memory V) : self.mail.memory.next ≤ memory.next →
      Next self (.write memory) { self with mail := { self.mail with memory } }

end Env

end Mate
