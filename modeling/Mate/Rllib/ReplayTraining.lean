import Mate.Library.Fallible
import Mate.Library.RingBuffer
import Mate.Library.Runs
import Mate.Random

set_option autoImplicit false

/-! # Training from replayed episodes

The execution plan of `ValueFactorizationTrainer`: the rollouts of the workers go into a replay buffer,
and from the warmup on batches that are drawn from it are put together until they are large enough to
learn from. The two iterators are pulled in turn. -/

namespace Mate.Rllib.Execution

variable {R G : Type}

/-- A batch of rows that counts the steps of the environment. -/
structure SampleBatch (R : Type) where
  rows : List R
  count : ℕ

/-- `SampleBatch.concat_samples`. -/
def SampleBatch.concatSamples (samples : List (SampleBatch R)) : SampleBatch R where
  rows := (samples.map SampleBatch.rows).flatten
  count := (samples.map SampleBatch.count).sum

/-! ## The replay buffer -/

structure SimpleReplayBuffer (R : Type) where
  numSlots : ℕ
  replayBatches : List (SampleBatch R)
  replayIndex : ℕ

namespace SimpleReplayBuffer

def new (numSlots : ℕ) : SimpleReplayBuffer R := ⟨numSlots, [], 0⟩

def addBatch (buffer : SimpleReplayBuffer R) (sampleBatch : SampleBatch R) : SimpleReplayBuffer R :=
  if 0 < buffer.numSlots then
    if buffer.replayBatches.length < buffer.numSlots then
      { buffer with replayBatches := buffer.replayBatches ++ [sampleBatch] }
    else
      { buffer with
        replayBatches := buffer.replayBatches.set buffer.replayIndex sampleBatch
        replayIndex := (buffer.replayIndex + 1) % buffer.numSlots }
  else buffer

/-- `random.choice(self.replay_batches)`. -/
def replay [RandomState G] (buffer : SimpleReplayBuffer R) (random : G) :
    Except Error (SampleBatch R × G) :=
  if h : 0 < buffer.replayBatches.length then
    let (i, random) := RandomState.randint buffer.replayBatches.length h random
    .ok (buffer.replayBatches.get i, random)
  else .error (.indexError "Cannot choose from an empty sequence")

end SimpleReplayBuffer

/-! ## Putting batches together -/

structure ConcatBatches (R : Type) where
  minBatchSize : ℕ
  buffer : List (SampleBatch R)
  count : ℕ

def ConcatBatches.new (minBatchSize : ℕ) : ConcatBatches R := ⟨minBatchSize, [], 0⟩

/-- `ConcatBatches.__call__`: the list it returns has one batch, or none. -/
def ConcatBatches.call (concat : ConcatBatches R) (batch : SampleBatch R) :
    Option (SampleBatch R) × ConcatBatches R :=
  if batch.count = 0 then (none, concat)
  else
    let count := concat.count + batch.count
    let buffer := concat.buffer ++ [batch]
    if concat.minBatchSize ≤ count then
      (some (SampleBatch.concatSamples buffer), { concat with buffer := [], count := 0 })
    else (none, { concat with buffer := buffer, count := count })

/-! ## The execution plan -/

/-- What the plan reads of the configuration, and what the workers do with a batch. -/
structure Plan (R P : Type) where
  bufferSize : ℕ
  learningStarts : ℤ
  trainBatchSize : ℕ
  /-- `learn_on_batch` of the local worker -/
  learnOnBatch : P → SampleBatch R → Except Error P

/-- The state of the iterators, and the policy. -/
structure ValueFactorizationTrainer (R G P : Type) where
  stepsSampled : ℕ
  stepsTrained : ℕ
  replayBuffer : SimpleReplayBuffer R
  concat : ConcatBatches R
  policy : P
  random : G

namespace ValueFactorizationTrainer

variable {P : Type} [RandomState G]

def new (plan : Plan R P) (policy : P) (random : G) : ValueFactorizationTrainer R G P where
  stepsSampled := 0
  stepsTrained := 0
  replayBuffer := .new plan.bufferSize
  concat := .new plan.trainBatchSize
  policy := policy
  random := random

/-- A pull from `rollouts`: the steps are reported and the batch is stored. -/
def store (trainer : ValueFactorizationTrainer R G P) (rollout : SampleBatch R) :
    ValueFactorizationTrainer R G P :=
  { trainer with
    stepsSampled := trainer.stepsSampled + rollout.count
    replayBuffer := trainer.replayBuffer.addBatch rollout }

/-- A pull from `replay_after_warmup(…)`. Before the warmup it has no value ready. -/
def replayAfterWarmup (learningStarts : ℤ) (trainer : ValueFactorizationTrainer R G P) :
    Except Error (Option (SampleBatch R) × ValueFactorizationTrainer R G P) :=
  if (trainer.stepsSampled : ℤ) ≤ learningStarts then .ok (none, trainer)
  else do
    let (item, random) ← trainer.replayBuffer.replay trainer.random
    return (some item, { trainer with random })

/-- A pull from `combine`: it goes on until there is a batch that is large enough, or no value is
ready. -/
def combine (learningStarts : ℤ) : ℕ → ValueFactorizationTrainer R G P →
    Except Error (Option (SampleBatch R) × ValueFactorizationTrainer R G P)
  | 0, _ => .error .outOfFuel
  | fuel + 1, trainer => do
    let (item, trainer) ← trainer.replayAfterWarmup learningStarts
    match item with
    | none => return (none, trainer)
    | some item =>
      let (batch, concat) := trainer.concat.call item
      let trainer := { trainer with concat }
      match batch with
      | some batch => return (some batch, trainer)
      | none => combine learningStarts fuel trainer

/-- `TrainOneStep`. -/
def trainOneStep (plan : Plan R P) (trainer : ValueFactorizationTrainer R G P)
    (batch : SampleBatch R) : Except Error (ValueFactorizationTrainer R G P) := do
  let policy ← plan.learnOnBatch trainer.policy batch
  return { trainer with policy, stepsTrained := trainer.stepsTrained + batch.count }

/-- One turn of `Concurrently`: a rollout is stored, and then the train iterator is pulled. Only what it
has learned from is output. -/
def turn (plan : Plan R P) (fuel : ℕ) (trainer : ValueFactorizationTrainer R G P)
    (rollout : SampleBatch R) :
    Except Error (Option (SampleBatch R) × ValueFactorizationTrainer R G P) := do
  let (batch, trainer) ← (trainer.store rollout).combine plan.learningStarts fuel
  match batch with
  | none => return (none, trainer)
  | some batch => do
    let trainer ← trainer.trainOneStep plan batch
    return (some batch, trainer)

/-- A turn that ends, with its rollout and what was learned from. -/
def Turn (plan : Plan R P) (trainer : ValueFactorizationTrainer R G P)
    (label : SampleBatch R × Option (SampleBatch R)) (trainer' : ValueFactorizationTrainer R G P) :
    Prop :=
  ∃ fuel, trainer.turn plan fuel label.1 = .ok (label.2, trainer')

end ValueFactorizationTrainer

end Mate.Rllib.Execution
