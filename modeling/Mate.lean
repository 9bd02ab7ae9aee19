import Mate.Library.Numerals
import Mate.Library.Fallible
import Mate.Library.Runs
import Mate.Library.Ball
import Mate.Library.Interference
import Mate.Utils
import Mate.Random
import Mate.Config
import Mate.Entities.Camera
import Mate.Entities.Target
import Mate.Motion
import Mate.Environment.Cargo
import Mate.Environment.Loads
import Mate.Environment.Stock
import Mate.Environment.Messages
import Mate.Environment.Posting
import Mate.Environment.State
import Mate.Environment.Dynamics
import Mate.Environment.Frame
import Mate.Environment.Init
import Mate.Environment.Places
import Mate.Accounts
import Mate.Evaluate
import Mate.Normalization
import Mate.Horizon
import Mate.Delivery
import Mate.Isolation
import Mate.Library.Layout
import Mate.Spaces
import Mate.Agents.Base
import Mate.Codec
import Mate.Agents.Target
import Mate.Library.Agreement
import Mate.Knowledge
import Mate.Environment.GlobalState
import Mate.History
import Mate.Environment.EntityInvariants
import Mate.Advertised
import Mate.Transport
import Mate.Environment.Transparent
import Mate.Agents.Group
import Mate.Consensus
import Mate.Agents.Naive
import Mate.Agents.GreedyCamera
import Mate.Agents.HeuristicCamera
import Mate.Agents.Mixture
import Mate.Clock
import Mate.Library.Nets
import Mate.Rllib.RecurrentAgent
import Mate.Library.Machines
import Mate.Rllib.GroupedPolicy
import Mate.Rllib.Rollout
import Mate.Deployment
import Mate.Rllib.Sequences
import Mate.Learner
import Mate.ActionShift
import Mate.Rllib.WorldModel
import Mate.Leak
import Mate.BootstrapHistory
import Mate.DoubleQ
import Mate.MixerMonotone
import Mate.IndividualGlobalMax
import Mate.RiskSensitive
import Mate.ActingFeatures
import Mate.DelayedMessages
import Mate.FrameSkipMetrics
import Mate.Preprocessing
import Mate.RefreshedStack
import Mate.RepeatedReads
import Mate.Rllib.Coordinator
import Mate.Rllib.Hitmac
import Mate.TaskBits
import Mate.Library.MixedRadix
import Mate.ActionCodec
import Mate.FocusCodec
import Mate.RelativeRows
import Mate.TargetSelections
import Mate.CandidateDiscs
import Mate.Responsibilities
import Mate.PaddedBeliefs
import Mate.TrustGate
import Mate.SightBoundary
import Mate.CachedVectors
import Mate.Neighbours
import Mate.Library.PlaneReflection
import Mate.EvasionSymmetry
import Mate.PoseScores
import Mate.SplitObservations
import Mate.Library.Dict
import Mate.ConfigValues
import Mate.ReadConfig
import Mate.ConfigRefinement
import Mate.AllOrNothing
import Mate.SharedFieldOfView
import Mate.Library.LoadBalance
import Mate.GreedyLoads
import Mate.ChunkedCredit
import Mate.BeliefBlend
import Mate.FactoredCredit
import Mate.FocusOcclusion
import Mate.ActionWindows
import Mate.GateRuns
import Mate.DiscreteTargets
import Mate.JointSearch
import Mate.Rllib.TdLambda
import Mate.UnrolledHistory
import Mate.Rllib.DuelMixActing
import Mate.EnhancedObservation
import Mate.Library.Alternating
import Mate.ZoomSearch
import Mate.Wrappers.AuxiliaryRewards
import Mate.SoftCoverage
import Mate.ZoomedOut
import Mate.CoverageSpread
import Mate.AssignmentsInForce
import Mate.NearestTargets
import Mate.AgentPermutations
import Mate.QuantileMixing
import Mate.ImaginedTargets
import Mate.PolicyCorrelation
import Mate.PaddedLosses
import Mate.PosePriors
import Mate.Rllib.ActionPrior
import Mate.Library.Grouping
import Mate.Rllib.FocusTrajectory
import Mate.StepCredits
import Mate.TrajectoryJoin
import Mate.TrajectoryCredit
import Mate.FeatureStatistics
import Mate.Rllib.Distillation
import Mate.GreedyTeacher
import Mate.Rllib.FocusV2
import Mate.Specialization
import Mate.CameraMemory
import Mate.FilteredDelivery
import Mate.CommunicationArrows
import Mate.SequenceCuts
import Mate.ReplayRuns
import Mate.TargetNetworks
import Mate.PersistenceStart
import Mate.Rllib.FocussObjectives
import Mate.FocussCredit
