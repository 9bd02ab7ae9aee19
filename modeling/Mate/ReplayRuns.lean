import Mate.Environment.Init
import Mate.Rllib.ReplayTraining

set_option autoImplicit false

/-! # What is learned from

Every turn stores one rollout. The first turns only store; from the one on that passes the warmup, each
learns once, from batches drawn out of the last rollouts, as many as it takes (`Trained.turn`). So the
two iterators never hold each other up, and what was learned from can be told from the rollouts
(`trains_from_recent`). -/

namespace Mate.Rllib.Execution

open Fallible Runs RingBuffer

variable {R G P : Type}

/-! ## The buffer -/

def SimpleReplayBuffer.ring (buffer : SimpleReplayBuffer R) : Slots (SampleBatch R) :=
  ⟨buffer.replayBatches, buffer.replayIndex⟩

/-- The buffer has a number of slots, and holds what is left of a history. -/
structure SimpleReplayBuffer.Keeps (numSlots : ℕ) (buffer : SimpleReplayBuffer R)
    (history : List (SampleBatch R)) : Prop where
  numSlots_eq : buffer.numSlots = numSlots
  holds : Holds numSlots buffer.ring history

theorem SimpleReplayBuffer.keeps_new {numSlots : ℕ} (h : 0 < numSlots) :
    (SimpleReplayBuffer.new numSlots : SimpleReplayBuffer R).Keeps numSlots [] :=
  ⟨rfl, holds_empty h⟩

/-- `add_batch` is a push. -/
theorem SimpleReplayBuffer.Keeps.addBatch {numSlots : ℕ} {buffer : SimpleReplayBuffer R}
    {history : List (SampleBatch R)} (h : buffer.Keeps numSlots history) (rollout : SampleBatch R) :
    (buffer.addBatch rollout).Keeps numSlots (history ++ [rollout]) := by
  obtain ⟨rfl, hholds⟩ := h
  have hring : (buffer.addBatch rollout).ring = buffer.ring.push buffer.numSlots rollout := by
    unfold SimpleReplayBuffer.addBatch SimpleReplayBuffer.ring Slots.push
    split
    · split
      · rfl
      · rfl
    · rfl
  have hslots : (buffer.addBatch rollout).numSlots = buffer.numSlots := by
    unfold SimpleReplayBuffer.addBatch
    split
    · split
      · rfl
      · rfl
    · rfl
  refine ⟨hslots, ?_⟩
  rw [hring]
  exact hholds.push rollout

/-! ## One pull -/

/-- The batch is put together from draws, of which the last one was needed. -/
structure DrawnFrom (minBatchSize : ℕ) (held draws : List (SampleBatch R)) (batch : SampleBatch R) :
    Prop where
  eq_concat : batch = SampleBatch.concatSamples draws
  mem : ∀ d ∈ draws, d ∈ held ∧ 0 < d.count
  enough : minBatchSize ≤ batch.count
  needed : draws.length = 1 ∨ (SampleBatch.concatSamples draws.dropLast).count < minBatchSize

/-- What has been drawn already is not enough. -/
structure Collecting (minBatchSize : ℕ) (held : List (SampleBatch R)) (concat : ConcatBatches R) :
    Prop where
  minBatchSize_eq : concat.minBatchSize = minBatchSize
  count_eq : concat.count = (SampleBatch.concatSamples concat.buffer).count
  mem : ∀ d ∈ concat.buffer, d ∈ held ∧ 0 < d.count
  too_few : concat.buffer = [] ∨ concat.count < minBatchSize

theorem count_concatSamples_concat (draws : List (SampleBatch R)) (d : SampleBatch R) :
    (SampleBatch.concatSamples (draws ++ [d])).count
      = (SampleBatch.concatSamples draws).count + d.count := by
  show ((draws ++ [d]).map SampleBatch.count).sum = _
  rw [List.map_append, List.sum_append, List.map_singleton, List.sum_singleton]
  rfl

theorem Collecting.call {minBatchSize : ℕ} {held : List (SampleBatch R)} {concat : ConcatBatches R}
    (h : Collecting minBatchSize held concat) {item : SampleBatch R} (hitem : item ∈ held)
    {out : Option (SampleBatch R)} {concat' : ConcatBatches R}
    (hcall : concat.call item = (out, concat')) :
    (out = none ∧ Collecting minBatchSize held concat'
        ∧ (0 < item.count → concat.count + item.count = concat'.count
          ∧ concat'.count < minBatchSize))
      ∨ ∃ batch draws, out = some batch ∧ DrawnFrom minBatchSize held draws batch
        ∧ concat' = .new minBatchSize := by
  unfold ConcatBatches.call at hcall
  by_cases hzero : item.count = 0
  · rw [if_pos hzero] at hcall
    cases hcall
    exact Or.inl ⟨rfl, h, fun hpos => absurd hzero hpos.ne'⟩
  · rw [if_neg hzero] at hcall
    have hcount := count_concatSamples_concat concat.buffer item
    have hmem : ∀ d ∈ concat.buffer ++ [item], d ∈ held ∧ 0 < d.count := by
      intro d hd
      rcases List.mem_append.mp hd with hd | hd
      · exact h.mem d hd
      · rw [List.mem_singleton.mp hd]
        exact ⟨hitem, Nat.pos_of_ne_zero hzero⟩
    by_cases henough : concat.minBatchSize ≤ concat.count + item.count
    · rw [if_pos henough] at hcall
      cases hcall
      right
      refine ⟨_, concat.buffer ++ [item], rfl, ⟨rfl, hmem, ?_, ?_⟩, ?_⟩
      · rw [hcount, ← h.count_eq, ← h.minBatchSize_eq]
        exact henough
      · rw [List.dropLast_concat, ← h.count_eq]
        rcases h.too_few with hnil | hlt
        · left
          rw [hnil]
          rfl
        · exact Or.inr hlt
      · rw [← h.minBatchSize_eq]
        rfl
    · rw [if_neg henough] at hcall
      cases hcall
      have hlt : concat.count + item.count < minBatchSize := by
        rw [← h.minBatchSize_eq]
        omega
      left
      refine ⟨rfl, ⟨h.minBatchSize_eq, ?_, hmem, Or.inr hlt⟩, fun _ => ⟨rfl, hlt⟩⟩
      show concat.count + item.count = _
      rw [hcount, h.count_eq]

theorem collecting_new (minBatchSize : ℕ) (held : List (SampleBatch R)) :
    Collecting minBatchSize held (.new minBatchSize) :=
  ⟨rfl, rfl, fun _ hd => absurd hd List.not_mem_nil, Or.inl rfl⟩

namespace ValueFactorizationTrainer

variable [RandomState G]

/-- A draw is one of the batches that are held. -/
theorem mem_of_replay {buffer : SimpleReplayBuffer R} {random random' : G} {item : SampleBatch R}
    (h : buffer.replay random = .ok (item, random')) : item ∈ buffer.replayBatches := by
  unfold SimpleReplayBuffer.replay at h
  split at h
  · cases h
    exact List.get_mem _ _
  · cases h

/-- After the warmup a pull returns a batch that was drawn, and is ready for the next one. -/
theorem combine_spec {learningStarts : ℤ} {minBatchSize fuel : ℕ}
    {trainer trainer' : ValueFactorizationTrainer R G P} {out : Option (SampleBatch R)}
    (hwarm : learningStarts < trainer.stepsSampled)
    (hcollecting : Collecting minBatchSize trainer.replayBuffer.replayBatches trainer.concat)
    (h : trainer.combine learningStarts fuel = .ok (out, trainer')) :
    ∃ batch draws random, out = some batch
      ∧ DrawnFrom minBatchSize trainer.replayBuffer.replayBatches draws batch
      ∧ trainer' = { trainer with concat := .new minBatchSize, random := random } := by
  induction fuel generalizing trainer with
  | zero => cases h
  | succ fuel ih =>
      obtain ⟨⟨item, drawn⟩, hreplay, h⟩ := bind_eq_ok.mp h
      rw [replayAfterWarmup, if_neg (not_le.mpr hwarm)] at hreplay
      obtain ⟨⟨item', random⟩, hdraw, hreplay⟩ := bind_eq_ok.mp hreplay
      cases hreplay
      have hitem := mem_of_replay hdraw
      rcases hcall : trainer.concat.call item' with ⟨result, concat⟩
      dsimp only at h
      rw [hcall] at h
      rcases hcollecting.call hitem hcall with ⟨rfl, hrest, -⟩ | ⟨batch, draws, rfl, hdrawn, rfl⟩
      · obtain ⟨batch, draws, random', hout, hdrawn, htrainer⟩ :=
          @ih { trainer with random, concat } hwarm hrest h
        exact ⟨batch, draws, random', hout, hdrawn, htrainer⟩
      · cases h
        exact ⟨batch, draws, random, rfl, hdrawn, rfl⟩

/-- Before the warmup a pull has nothing ready. -/
theorem combine_of_cold {learningStarts : ℤ} {fuel : ℕ}
    {trainer trainer' : ValueFactorizationTrainer R G P} {out : Option (SampleBatch R)}
    (hcold : (trainer.stepsSampled : ℤ) ≤ learningStarts)
    (h : trainer.combine learningStarts fuel = .ok (out, trainer')) : out = none ∧ trainer' = trainer := by
  cases fuel with
  | zero => cases h
  | succ fuel =>
      obtain ⟨⟨item, drawn⟩, hreplay, h⟩ := bind_eq_ok.mp h
      rw [replayAfterWarmup, if_pos hcold] at hreplay
      cases hreplay
      cases h
      exact ⟨rfl, rfl⟩

/-- **A pull ends.** Every draw has a step, so there are enough of them at some time. -/
theorem combine_returns (learningStarts : ℤ) {minBatchSize fuel : ℕ}
    {trainer : ValueFactorizationTrainer R G P} (hsome : trainer.replayBuffer.replayBatches ≠ [])
    (hsteps : ∀ b ∈ trainer.replayBuffer.replayBatches, 0 < b.count)
    (hcollecting : Collecting minBatchSize trainer.replayBuffer.replayBatches trainer.concat)
    (hfuel : minBatchSize - trainer.concat.count < fuel) :
    ∃ out trainer', trainer.combine learningStarts fuel = .ok (out, trainer') := by
  induction fuel generalizing trainer with
  | zero => exact absurd hfuel (Nat.not_lt_zero _)
  | succ fuel ih =>
      by_cases hcold : (trainer.stepsSampled : ℤ) ≤ learningStarts
      · refine ⟨none, trainer, ?_⟩
        rw [combine, replayAfterWarmup, if_pos hcold]
        rfl
      · have hpos := List.length_pos_of_ne_nil hsome
        obtain ⟨⟨item, random⟩, hdraw⟩ : ∃ drawn, trainer.replayBuffer.replay trainer.random
            = .ok drawn := by
          rw [SimpleReplayBuffer.replay, dif_pos hpos]
          exact ⟨_, rfl⟩
        have hitem := mem_of_replay hdraw
        have hpull : trainer.replayAfterWarmup learningStarts
            = .ok (some item, { trainer with random }) := by
          rw [replayAfterWarmup, if_neg hcold, hdraw]
          rfl
        rcases hcall : trainer.concat.call item with ⟨result, concat⟩
        rcases hcollecting.call hitem hcall with ⟨rfl, hrest, hcount⟩ | ⟨batch, draws, rfl, -, rfl⟩
        · obtain ⟨hsum, hlt⟩ := hcount (hsteps item hitem)
          have hone := hsteps item hitem
          obtain ⟨out, trainer', hout⟩ := @ih { trainer with random, concat } hsome hsteps hrest
            (by show minBatchSize - concat.count < fuel; omega)
          refine ⟨out, trainer', ?_⟩
          rw [combine, hpull]
          dsimp only [Bind.bind, Except.bind]
          rw [hcall]
          exact hout
        · refine ⟨some batch, { trainer with random, concat := .new minBatchSize }, ?_⟩
          rw [combine, hpull]
          dsimp only [Bind.bind, Except.bind]
          rw [hcall]
          rfl

/-! ## Turns -/

/-- The steps of the rollouts so far. -/
def sampled (labels : List (SampleBatch R × Option (SampleBatch R))) : ℕ :=
  (labels.map (fun label => label.1.count)).sum

/-- The batches that were learned from so far. -/
def learned (labels : List (SampleBatch R × Option (SampleBatch R))) : List (SampleBatch R) :=
  labels.filterMap Prod.snd

/-- A trainer after the given turns. -/
structure Trained (plan : Plan R P) (policy : P)
    (labels : List (SampleBatch R × Option (SampleBatch R)))
    (trainer : ValueFactorizationTrainer R G P) : Prop where
  stepsSampled_eq : trainer.stepsSampled = sampled labels
  stepsTrained_eq : trainer.stepsTrained = ((learned labels).map SampleBatch.count).sum
  keeps : trainer.replayBuffer.Keeps plan.bufferSize (labels.map Prod.fst)
  concat_eq : trainer.concat = .new plan.trainBatchSize
  policy_eq : (learned labels).foldlM plan.learnOnBatch policy = .ok trainer.policy

theorem sampled_concat (labels : List (SampleBatch R × Option (SampleBatch R)))
    (label : SampleBatch R × Option (SampleBatch R)) :
    sampled (labels ++ [label]) = sampled labels + label.1.count := by
  rw [sampled, List.map_append, List.sum_append, List.map_singleton, List.sum_singleton]
  rfl

omit [RandomState G] in
theorem trained_new {plan : Plan R P} (hslots : 0 < plan.bufferSize) (policy : P) (random : G) :
    Trained plan policy [] (.new plan policy random) :=
  ⟨rfl, rfl, SimpleReplayBuffer.keeps_new hslots, rfl, rfl⟩

omit [RandomState G] in
/-- The trainer when the rollout of a turn has been stored. -/
theorem Trained.store {plan : Plan R P} {policy : P}
    {labels : List (SampleBatch R × Option (SampleBatch R))}
    {trainer : ValueFactorizationTrainer R G P} (h : Trained plan policy labels trainer)
    (rollout : SampleBatch R) :
    (trainer.store rollout).stepsSampled = sampled labels + rollout.count
      ∧ (trainer.store rollout).replayBuffer.Keeps plan.bufferSize (labels.map Prod.fst ++ [rollout])
      ∧ Collecting plan.trainBatchSize (trainer.store rollout).replayBuffer.replayBatches
        (trainer.store rollout).concat := by
  refine ⟨?_, h.keeps.addBatch rollout, ?_⟩
  · show trainer.stepsSampled + rollout.count = _
    rw [h.stepsSampled_eq]
  · show Collecting _ _ trainer.concat
    rw [h.concat_eq]
    exact collecting_new plan.trainBatchSize _

/-- **One turn.** -/
theorem Trained.turn {plan : Plan R P} {policy : P}
    {labels : List (SampleBatch R × Option (SampleBatch R))}
    {trainer trainer' : ValueFactorizationTrainer R G P} (h : Trained plan policy labels trainer)
    {label : SampleBatch R × Option (SampleBatch R)} (hturn : Turn plan trainer label trainer') :
    Trained plan policy (labels ++ [label]) trainer'
      ∧ (label.2.isSome ↔ plan.learningStarts < (sampled (labels ++ [label]) : ℤ))
      ∧ ∀ batch ∈ label.2, ∃ draws, DrawnFrom plan.trainBatchSize
          (lastOf plan.bufferSize ((labels ++ [label]).map Prod.fst)) draws batch := by
  obtain ⟨rollout, out⟩ := label
  obtain ⟨fuel, hturn⟩ := hturn
  obtain ⟨⟨pulled, trainer₁⟩, hcombine, hturn⟩ := bind_eq_ok.mp hturn
  obtain ⟨hsampled, hkeeps, hcollecting⟩ := h.store rollout
  have hsum := sampled_concat labels (rollout, out)
  have hhistory : (labels ++ [(rollout, out)]).map Prod.fst = labels.map Prod.fst ++ [rollout] := by
    rw [List.map_append, List.map_singleton]
  by_cases hwarm : plan.learningStarts < ((trainer.store rollout).stepsSampled : ℤ)
  · obtain ⟨batch, draws, random, rfl, hdrawn, rfl⟩ := combine_spec hwarm hcollecting hcombine
    obtain ⟨trainer₂, hlearn, hturn⟩ := bind_eq_ok.mp hturn
    obtain ⟨policy', hpolicy, hlearn⟩ := bind_eq_ok.mp hlearn
    cases hlearn
    cases hturn
    have hlearned : learned (labels ++ [(rollout, some batch)]) = learned labels ++ [batch] := by
      rw [learned, List.filterMap_append]
      rfl
    refine ⟨⟨?_, ?_, ?_, rfl, ?_⟩, ?_, ?_⟩
    · rw [hsum]
      exact hsampled
    · show trainer.stepsTrained + batch.count = _
      rw [hlearned, h.stepsTrained_eq, List.map_append, List.sum_append, List.map_singleton,
        List.sum_singleton]
    · rw [hhistory]
      exact hkeeps
    · rw [hlearned, List.foldlM_append, h.policy_eq]
      show (plan.learnOnBatch trainer.policy batch >>= pure) = _
      rw [bind_pure]
      exact hpolicy
    · rw [hsum, ← hsampled]
      exact ⟨fun _ => hwarm, fun _ => rfl⟩
    · intro batch' hbatch'
      cases hbatch'
      refine ⟨draws, hdrawn.eq_concat, fun d hd => ?_, hdrawn.enough, hdrawn.needed⟩
      rw [hhistory]
      exact ⟨hkeeps.holds.perm.mem_iff.mp (hdrawn.mem d hd).1, (hdrawn.mem d hd).2⟩
  · obtain ⟨rfl, rfl⟩ := combine_of_cold (not_lt.mp hwarm) hcombine
    cases hturn
    have hlearned : learned (labels ++ [(rollout, none)]) = learned labels := by
      rw [learned, List.filterMap_append]
      exact List.append_nil _
    refine ⟨⟨?_, ?_, ?_, h.concat_eq, ?_⟩, ?_, fun batch hbatch => absurd hbatch (by simp)⟩
    · rw [hsum]
      exact hsampled
    · rw [hlearned]
      exact h.stepsTrained_eq
    · rw [hhistory]
      exact hkeeps
    · rw [hlearned]
      exact h.policy_eq
    · rw [hsum, ← hsampled]
      exact ⟨fun hsome => absurd hsome (by simp), fun hlt => absurd hlt hwarm⟩

/-- **A turn can be taken** with every rollout, when no batch is empty and learning returns. -/
theorem Trained.exists_turn {plan : Plan R P} {policy : P}
    {labels : List (SampleBatch R × Option (SampleBatch R))}
    {trainer : ValueFactorizationTrainer R G P} (h : Trained plan policy labels trainer)
    {rollout : SampleBatch R} (hsteps : ∀ b ∈ labels.map Prod.fst ++ [rollout], 0 < b.count)
    (hlearn : ∀ p batch, ∃ p', plan.learnOnBatch p batch = .ok p') :
    ∃ out trainer', Turn plan trainer (rollout, out) trainer' := by
  obtain ⟨-, hkeeps, hcollecting⟩ := h.store rollout
  have hperm := hkeeps.holds.perm
  have hlast : rollout ∈ lastOf plan.bufferSize (labels.map Prod.fst ++ [rollout]) := by
    have hslots : 0 < plan.bufferSize := Nat.lt_of_le_of_lt (Nat.zero_le _) hkeeps.holds.index_lt
    rw [lastOf, List.drop_append_of_le_length (by simp; omega)]
    simp
  obtain ⟨pulled, trainer₁, hcombine⟩ := combine_returns plan.learningStarts
    (List.ne_nil_of_mem (hperm.mem_iff.mpr hlast))
    (fun b hb => hsteps b (List.mem_of_mem_drop (hperm.mem_iff.mp hb))) hcollecting
    (Nat.lt_succ_self _)
  cases pulled with
  | none =>
      refine ⟨none, trainer₁, plan.trainBatchSize - (trainer.store rollout).concat.count + 1, ?_⟩
      show (ValueFactorizationTrainer.combine _ _ (trainer.store rollout) >>= _) = _
      rw [hcombine]
      rfl
  | some batch =>
      obtain ⟨p', hp'⟩ := hlearn trainer₁.policy batch
      refine ⟨some batch, { trainer₁ with
        policy := p', stepsTrained := trainer₁.stepsTrained + batch.count },
        plan.trainBatchSize - (trainer.store rollout).concat.count + 1, ?_⟩
      show (ValueFactorizationTrainer.combine _ _ (trainer.store rollout) >>= _) = _
      rw [hcombine]
      show (trainer₁.trainOneStep plan batch >>= _) = _
      rw [trainOneStep, hp']
      rfl

/-! ## Runs -/

theorem Trained.run {plan : Plan R P} (hslots : 0 < plan.bufferSize) {policy : P} {random : G}
    {labels : List (SampleBatch R × Option (SampleBatch R))}
    {trainer : ValueFactorizationTrainer R G P}
    (hrun : Run (Turn plan) (.new plan policy random) labels trainer) :
    Trained plan policy labels trainer :=
  hrun.induct (Trained plan policy) (trained_new hslots policy random)
    (fun _ _ _ _ h hturn => (h.turn hturn).1)

/-- **Training from recent rollouts.** After any turns the buffer holds the last rollouts, and the policy
has learned, in order, from the batches that were output. A turn outputs one exactly if with its own
rollout more than `learning_starts` steps have been sampled, and it is put together from rollouts that
were among the last ones then, of which the last draw was needed. Another turn can always be taken. -/
theorem trains_from_recent {plan : Plan R P} (hslots : 0 < plan.bufferSize) {policy : P} {random : G}
    {labels : List (SampleBatch R × Option (SampleBatch R))}
    {trainer : ValueFactorizationTrainer R G P}
    (hrun : Run (Turn plan) (.new plan policy random) labels trainer) :
    trainer.replayBuffer.replayBatches.Perm (lastOf plan.bufferSize (labels.map Prod.fst))
      ∧ (learned labels).foldlM plan.learnOnBatch policy = .ok trainer.policy
      ∧ trainer.stepsSampled = sampled labels
      ∧ trainer.stepsTrained = ((learned labels).map SampleBatch.count).sum
      ∧ (∀ before label after, labels = before ++ label :: after →
        (label.2.isSome ↔ plan.learningStarts < (sampled (before ++ [label]) : ℤ))
          ∧ ∀ batch ∈ label.2, ∃ draws, DrawnFrom plan.trainBatchSize
            (lastOf plan.bufferSize ((before ++ [label]).map Prod.fst)) draws batch)
      ∧ ((∀ p batch, ∃ p', plan.learnOnBatch p batch = .ok p') → ∀ rollout : SampleBatch R,
        (∀ b ∈ labels.map Prod.fst ++ [rollout], 0 < b.count) →
          ∃ out trainer', Turn plan trainer (rollout, out) trainer') := by
  have htrained := Trained.run hslots hrun
  refine ⟨htrained.keeps.holds.perm, htrained.policy_eq, htrained.stepsSampled_eq,
    htrained.stepsTrained_eq, ?_, fun hlearn rollout hsteps => htrained.exists_turn hsteps hlearn⟩
  rintro before label after rfl
  obtain ⟨middle, next, hbefore, hturn, -⟩ := hrun.split
  exact ((Trained.run hslots hbefore).turn hturn).2

/-- One slot, and two steps to learn from. The policy counts what it has learned from. -/
def smallPlan : Plan Unit ℕ where
  bufferSize := 1
  learningStarts := 0
  trainBatchSize := 2
  learnOnBatch learned batch := .ok (learned + batch.count)

/-- A rollout of one step. -/
def oneStep : SampleBatch Unit := ⟨[()], 1⟩

/-- Two draws of the only rollout are enough for the first turn. -/
theorem trains_from_recent_oneStep :
    letI := Env.rotating
    ∃ (out : Option (SampleBatch Unit)) (trainer : ValueFactorizationTrainer Unit (Fin 4) ℕ),
      Run (Turn smallPlan) (.new smallPlan 0 0) [(oneStep, out)] trainer
        ∧ trainer.replayBuffer.replayBatches.Perm [oneStep]
        ∧ ∃ batch draws, out = some batch ∧ DrawnFrom 2 [oneStep] draws batch := by
  let _ := Env.rotating
  have hslots : 0 < smallPlan.bufferSize := by decide
  have hempty : Trained smallPlan 0 []
      (.new smallPlan 0 0 : ValueFactorizationTrainer Unit (Fin 4) ℕ) := trained_new hslots 0 0
  obtain ⟨out, trainer, hturn⟩ : ∃ out trainer,
      Turn smallPlan (.new smallPlan 0 0) (oneStep, out) trainer :=
    hempty.exists_turn (fun b hb => by rw [List.mem_singleton.mp hb]; decide)
      (fun p batch => ⟨_, rfl⟩)
  have hrun : Run (Turn smallPlan) (.new smallPlan 0 0) [(oneStep, out)] trainer := .single hturn
  obtain ⟨hbuffer, -, -, -, houtput, -⟩ := trains_from_recent hslots hrun
  obtain ⟨hwhen, hdraws⟩ := houtput [] (oneStep, out) [] rfl
  obtain ⟨batch, rfl⟩ := Option.isSome_iff_exists.mp (hwhen.mpr Int.one_pos)
  obtain ⟨draws, hdrawn⟩ := hdraws batch rfl
  exact ⟨some batch, trainer, hrun, hbuffer, batch, draws, rfl, hdrawn⟩

end ValueFactorizationTrainer

end Mate.Rllib.Execution
