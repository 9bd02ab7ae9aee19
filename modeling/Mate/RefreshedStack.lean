import Mate.Codec
import Mate.Isolation
import Mate.Library.Fallible
import Mate.Wrappers.Stack

set_option autoImplicit false

/-! # Stacks after `load_config`

A wrapper that runs its constructor again caches what a new stack caches. One that does not may
only keep what it has if it has nothing that depends on the configuration, and that leaves out
`RescaledObservation`: it keeps the observation spaces of the old configuration, the wrappers
around it read them, and they are the new ones only if the numbers of entities are.
-/

namespace Mate

open Fallible

/-! ## Shapes of observations -/

/-- The shape of an array, or of a tuple of arrays. -/
inductive Shape
  | vector (n : ℕ)
  | tuple (shapes : List Shape)

namespace SpaceTree

/-- The space contains arrays of the shape, as far as the shape goes. -/
inductive Fits : SpaceTree → Shape → Prop
  | box {low high : List (WithTop ℚ)} {n : ℕ} (hlow : low.length = n) (hhigh : high.length = n) :
      Fits (.box low high) (.vector n)
  | nil : Fits (.tuple []) (.tuple [])
  | cons {space : SpaceTree} {shape : Shape} {spaces : List SpaceTree} {shapes : List Shape}
      (head : Fits space shape) (tail : Fits (.tuple spaces) (.tuple shapes)) :
      Fits (.tuple (space :: spaces)) (.tuple (shape :: shapes))

variable {space : SpaceTree} {shape : Shape}

theorem Fits.joint (h : space.Fits shape) (n : ℕ) :
    (space.joint n).Fits (.tuple (List.replicate n shape)) := by
  induction n with
  | zero => exact Fits.nil
  | succ n ih => exact Fits.cons h ih

/-- A box contains vectors of one length only. -/
theorem Fits.vector_inj {m n : ℕ} (hm : space.Fits (.vector m)) (hn : space.Fits (.vector n)) :
    m = n := by
  cases hm with
  | box hlow _ =>
      cases hn with
      | box hlow' _ => exact hlow.symm.trans hlow'

/-- Equal joint spaces have as many components. -/
theorem joint_inj {space space' : SpaceTree} {m n : ℕ} (h : space.joint m = space'.joint n) :
    m = n := by
  have hlength := congrArg List.length (SpaceTree.tuple.inj h)
  rwa [List.length_replicate, List.length_replicate] at hlength

theorem eq_of_joint {space space' : SpaceTree} {m n : ℕ} (hm : 0 < m)
    (h : space.joint m = space'.joint n) : space = space' := by
  have hmn : m = n := joint_inj h
  have hlist := SpaceTree.tuple.inj h
  have hmem : space ∈ List.replicate n space' := by
    rw [← hlist]
    exact List.mem_replicate.mpr ⟨by omega, rfl⟩
  exact (List.mem_replicate.mp hmem).2

theorem Fits.component {o : SpaceTree} (shapes : Team → Shape)
    (h : space.Fits (.tuple [shapes .camera, shapes .target])) (team : Team)
    (hcomponent : space.component (WrapperSpec.teamValue team) = .ok o) : o.Fits (shapes team) := by
  cases h with
  | cons head tail =>
      cases tail with
      | cons head' _ =>
          cases team with
          | camera => cases hcomponent; exact head
          | target => cases hcomponent; exact head'

end SpaceTree

/-- The dimension of the observations of an agent of the team. -/
def Config.observationDim (cfg : Config) (team : Team) : ℕ := (cfg.observationSpaceOf team).dim

theorem Config.observationDim_target (cfg : Config) : cfg.observationDim .target
    = 27 + cfg.numCameras * 7 + cfg.numObstacles * 4 + cfg.numTargets * 5 := by
  show (targetObservationSpaceOf cfg.numCameras cfg.numTargets cfg.numObstacles).dim = _
  simp only [targetObservationSpaceOf, Space.dim, Space.tile, List.length_append,
    List.length_flatten, List.map_replicate, List.sum_replicate_nat]
  rfl

/-- The configurations have as many entities of every kind. -/
structure Config.SameNumbers (old new : Config) : Prop where
  numCameras : old.numCameras = new.numCameras
  numTargets : old.numTargets = new.numTargets
  numObstacles : old.numObstacles = new.numObstacles

theorem Config.SameNumbers.teamSize {old new : Config} (h : old.SameNumbers new) (team : Team) :
    old.teamSize team = new.teamSize team := by
  cases team with
  | camera => exact h.numCameras
  | target => exact h.numTargets

theorem Config.SameNumbers.observationSpaceOf {old new : Config} (h : old.SameNumbers new)
    (team : Team) : old.observationSpaceOf team = new.observationSpaceOf team := by
  unfold Config.observationSpaceOf
  rw [h.numCameras, h.numTargets, h.numObstacles]

/-- The shape of the joint observation of a team: its rows. -/
def Config.rowsShape (cfg : Config) (team : Team) : Shape :=
  .tuple (List.replicate (cfg.teamSize team) (.vector (cfg.observationDim team)))

/-- The shape of what `reset` and `step` return. No wrapper changes the dimension of a row; the
wrappers for a single team return the rows of the team, or a row. -/
def Wrapped.observationShape (w : Wrapped) : Shape :=
  match w.team? with
  | none => .tuple [w.config.rowsShape .camera, w.config.rowsShape .target]
  | some team =>
      if noInstance WrapperSpec.isSingleAgent w.specs then w.config.rowsShape team
      else .vector (w.config.observationDim team)

theorem Space.toTree_fits (s : Space) : s.toTree.Fits (.vector s.dim) :=
  SpaceTree.Fits.box (List.length_map _) s.length_high

/-- The bounds of a rescaled space are as many as those of the space. -/
theorem WrapperSpec.rescaleBox_fits {s : Space} {space rescaled : SpaceTree}
    (hspace : space.Fits (.vector s.dim)) (h : rescaleBox s space = .ok rescaled) :
    rescaled.Fits (.vector s.dim) := by
  have hnormalize : ∀ x : List (WithTop ℚ), x.length = s.dim → (s.normalize x).length = s.dim := by
    intro x hx
    have hhigh : s.high.length = s.dim := s.length_high
    have hlow : s.low.length = s.dim := rfl
    rw [Space.normalize, List.length_zipWith, List.length_zip]
    omega
  cases hspace with
  | box hlow hhigh =>
      cases h
      exact SpaceTree.Fits.box (hnormalize _ hlow) (hnormalize _ hhigh)

/-! ## Constructors -/

/-- The constructor caches nothing about observations or teams. -/
structure Attributes.Blind (a : Attributes) : Prop where
  observationSpace : a.space .observationSpace = none
  observation : ∀ team, a.space (.of team .observation) = none
  jointObservation : ∀ team, a.space (.of team .jointObservation) = none
  teammate : a.teammate = fun _ => none
  opponent : a.opponent = fun _ => none
  numTeammates : a.numTeammates = none
  numOpponents : a.numOpponents = none

/-- What `SingleTeamHelper` and the classes derived from it cache. -/
structure Attributes.OfTeam (a : Attributes) (team : Team) (inner : Wrapped) : Prop where
  observation : ∀ team, a.space (.of team .observation) = none
  jointObservation : ∀ team, a.space (.of team .jointObservation) = none
  teammate : ∀ kind, a.teammate kind = some (inner.space (.of team kind))
  opponent : ∀ kind, a.opponent kind = some (inner.space (.of (WrapperSpec.otherTeam team) kind))
  numTeammates : a.numTeammates = some (inner.config.teamSize team)
  numOpponents : a.numOpponents = some (inner.config.teamSize (WrapperSpec.otherTeam team))

namespace WrapperSpec

variable {spec : WrapperSpec} {inner w : Wrapped} {a : Attributes}

theorem assertThat_eq_ok {p : Prop} [Decidable p] {message : String} :
    assertThat p message = .ok () ↔ p := by
  unfold assertThat
  constructor
  · intro h
    by_contra hp
    rw [if_neg hp] at h
    cases h
  · intro hp
    rw [if_pos hp]

theorem construct_eq_ok : spec.construct inner = .ok w ↔
    spec.check inner.specs = .ok () ∧ ∃ a, spec.attributes inner = .ok a ∧ w = .wrap spec inner a := by
  unfold construct
  rw [bind_eq_ok]
  constructor
  · rintro ⟨⟨⟩, hcheck, h⟩
    obtain ⟨a, ha, h⟩ := bind_eq_ok.mp h
    cases h
    exact ⟨hcheck, a, ha, rfl⟩
  · rintro ⟨hcheck, a, ha, rfl⟩
    exact ⟨(), hcheck, bind_eq_ok.mpr ⟨a, ha, rfl⟩⟩

/-- Two `RescaledObservation`s are refused. -/
theorem noInstance_of_check_rescaled {specs : List WrapperSpec}
    (h : check .rescaledObservation specs = .ok ()) : noInstance isRescaledObservation specs :=
  assertThat_eq_ok.mp h

/-- Wrappers for a single team are refused around one another. -/
theorem noInstance_of_check_team {specs : List WrapperSpec} {team : Team}
    (hteam : spec.team? = some team) (h : spec.check specs = .ok ()) :
    noInstance (fun spec => spec.team?.isSome) specs := by
  have hbase : assertBaseEnvironment specs = .ok () := by
    cases spec with
    | multi team => exact h
    | single team => exact h
    | _ => cases hteam
  obtain ⟨⟨⟩, -, hbase⟩ := bind_eq_ok.mp hbase
  exact assertThat_eq_ok.mp hbase

theorem blind_discrete (team : Team) (levels : ℤ) :
    (discreteAttributes team levels inner).Blind :=
  ⟨rfl, fun _ => rfl, fun _ => rfl, rfl, rfl, rfl, rfl⟩

/-- Only `RescaledObservation` and the wrappers for a single team cache observation spaces. -/
theorem blind_of_attributes (hrescaled : spec.isRescaledObservation = false)
    (hteam : spec.team? = none) (h : spec.attributes inner = .ok a) : a.Blind := by
  cases spec with
  | rescaledObservation => cases hrescaled
  | multi team => cases hteam
  | single team => cases hteam
  | discreteCamera levels =>
      obtain ⟨⟨⟩, -, h⟩ := bind_eq_ok.mp h
      cases h
      exact blind_discrete _ _
  | discreteTarget levels =>
      cases h
      exact blind_discrete _ _
  | _ =>
      cases h
      exact ⟨rfl, fun _ => rfl, fun _ => rfl, rfl, rfl, rfl, rfl⟩

theorem multi_attributes {team : Team} (h : attributes (.multi team) inner = .ok a) :
    a.OfTeam team inner ∧ ∃ observation,
      (inner.space .observationSpace).component (teamValue team) = .ok observation ∧
      a.space .observationSpace = some observation := by
  obtain ⟨⟨⟩, -, h⟩ := bind_eq_ok.mp h
  obtain ⟨action, -, h⟩ := bind_eq_ok.mp h
  obtain ⟨observation, hobservation, h⟩ := bind_eq_ok.mp h
  cases h
  exact ⟨⟨fun _ => rfl, fun _ => rfl, fun _ => rfl, fun _ => rfl, rfl, rfl⟩,
    observation, hobservation, rfl⟩

theorem single_attributes {team : Team} (h : attributes (.single team) inner = .ok a) :
    a.OfTeam team inner ∧
      a.space .observationSpace = some (inner.space (.of team .observation)) := by
  obtain ⟨⟨⟩, -, h⟩ := bind_eq_ok.mp h
  cases h
  exact ⟨⟨fun _ => rfl, fun _ => rfl, fun _ => rfl, fun _ => rfl, rfl, rfl⟩, rfl⟩

theorem ofTeam_of_attributes {team : Team} (hteam : spec.team? = some team)
    (h : spec.attributes inner = .ok a) : a.OfTeam team inner := by
  cases spec with
  | multi team => cases hteam; exact (multi_attributes h).1
  | single team => cases hteam; exact (single_attributes h).1
  | _ => cases hteam

theorem rescaled_attributes (h : attributes .rescaledObservation inner = .ok a) :
    ∃ rescaled : Team → SpaceTree, a = rescaledAttributes inner rescaled ∧
      ∀ team, rescaleBox (inner.config.observationSpaceOf team)
        (inner.space (.of team .observation)) = .ok (rescaled team) := by
  obtain ⟨camera, hcamera, h⟩ := bind_eq_ok.mp h
  obtain ⟨target, htarget, h⟩ := bind_eq_ok.mp h
  cases h
  refine ⟨_, rfl, fun team => ?_⟩
  cases team with
  | camera => exact hcamera
  | target => exact htarget

section

variable (rescaled : Team → SpaceTree)

/-- The rescaled spaces of both teams. -/
theorem rescaledAttributes_both (h : inner.team? = none) :
    (rescaledAttributes inner rescaled).space .observationSpace
        = some (.tuple [(rescaled .camera).joint (inner.config.teamSize .camera),
          (rescaled .target).joint (inner.config.teamSize .target)]) ∧
      ∀ team, (rescaledAttributes inner rescaled).space (.of team .observation)
          = some (rescaled team) ∧
        (rescaledAttributes inner rescaled).space (.of team .jointObservation)
          = some ((rescaled team).joint (inner.config.teamSize team)) := by
  unfold rescaledAttributes
  rw [h]
  exact ⟨rfl, fun _ => ⟨rfl, rfl⟩⟩

/-- The rescaled spaces of the team; those of its opponents have no name of the other team. -/
theorem rescaledAttributes_ofTeam {team : Team} (h : inner.team? = some team) :
    (rescaledAttributes inner rescaled).space .observationSpace
        = (if noInstance isSingleAgent inner.specs then
            some ((rescaled team).joint (inner.numTeammates.getD 0))
          else some (rescaled team)) ∧
      (∀ team', (rescaledAttributes inner rescaled).space (.of team' .observation)
          = (if team' = team then some (rescaled team) else none) ∧
        (rescaledAttributes inner rescaled).space (.of team' .jointObservation)
          = if team' = team then some ((rescaled team).joint (inner.config.teamSize team))
            else none) ∧
      (rescaledAttributes inner rescaled).teammate .jointObservation
        = some ((rescaled team).joint (inner.config.teamSize team)) ∧
      (rescaledAttributes inner rescaled).opponent .jointObservation
        = some ((rescaled (otherTeam team)).joint (inner.config.teamSize (otherTeam team))) ∧
      (rescaledAttributes inner rescaled).numTeammates = none ∧
      (rescaledAttributes inner rescaled).numOpponents = none := by
  unfold rescaledAttributes
  rw [h]
  exact ⟨rfl, fun _ => ⟨rfl, rfl⟩, rfl, rfl, rfl, rfl⟩

end

/-- A wrapper without `load_config` that is not a `RescaledObservation` caches nothing. -/
theorem attributes_of_forwards (hload : spec.hasLoadConfig = false)
    (hrescaled : spec.isRescaledObservation = false) : spec.attributes inner = .ok {} := by
  cases spec with
  | rescaledObservation => cases hrescaled
  | relativeCoordinates | moreTrainingInformation | auxiliaryCameraRewards
  | auxiliaryTargetRewards | messageFilter | restrictedCommunicationRange | randomMessageDropout
  | noCommunication | extraCommunicationDelays | repeatedRewardIndividualDone => rfl
  | _ => cases hload

end WrapperSpec

/-! ## Stacks that were built -/

namespace Wrapped

variable {spec : WrapperSpec} {specs : List WrapperSpec} {inner w : Wrapped} {a : Attributes}
  {cfg : Config}

theorem build_cons : build (spec :: specs) cfg = .ok w ↔
    ∃ inner, build specs cfg = .ok inner ∧ spec.check inner.specs = .ok () ∧
      ∃ a, spec.attributes inner = .ok a ∧ w = .wrap spec inner a := by
  show (build specs cfg >>= fun inner => spec.construct inner) = .ok w ↔ _
  rw [bind_eq_ok]
  simp only [WrapperSpec.construct_eq_ok]

theorem specs_of_build (h : build specs cfg = .ok w) : w.specs = specs := by
  induction specs generalizing w with
  | nil => cases h; rfl
  | cons spec specs ih =>
      obtain ⟨inner, hinner, -, a, -, rfl⟩ := build_cons.mp h
      exact congrArg (spec :: ·) (ih hinner)

theorem team?_wrap_some {team : Team} (h : spec.team? = some team) :
    (wrap spec inner a).team? = some team := by
  show (spec :: inner.specs).findSome? WrapperSpec.team? = some team
  rw [List.findSome?_cons, h]

theorem team?_wrap_none (h : spec.team? = none) : (wrap spec inner a).team? = inner.team? := by
  show (spec :: inner.specs).findSome? WrapperSpec.team? = inner.team?
  rw [List.findSome?_cons, h]
  rfl

theorem team?_eq_none (h : noInstance (fun spec => spec.team?.isSome) inner.specs) :
    inner.team? = none := by
  refine List.findSome?_eq_none_iff.mpr (fun spec hmem => ?_)
  have hspec := h spec hmem
  rwa [Option.isSome_eq_false_iff, Option.isNone_iff_eq_none] at hspec

/-- A wrapper that is not for a single team changes no shape. -/
theorem observationShape_wrap (h : spec.team? = none) :
    (wrap spec inner a).observationShape = inner.observationShape := by
  have hsingle : spec.isSingleAgent = false := by
    cases spec with
    | single team => cases h
    | _ => rfl
  have hinstance : noInstance WrapperSpec.isSingleAgent (wrap spec inner a).specs
      ↔ noInstance WrapperSpec.isSingleAgent inner.specs := by
    constructor
    · intro hall spec' hmem
      exact hall spec' (List.mem_cons_of_mem _ hmem)
    · intro hall
      exact List.forall_mem_cons.mpr ⟨hsingle, hall⟩
  unfold observationShape
  rw [team?_wrap_none h]
  simp only [hinstance]
  rfl

/-- What a stack for a single team says of the teams. -/
structure Advertises (w : Wrapped) (cfg : Config) (team : Team) : Prop where
  numTeammates : w.numTeammates = some (cfg.teamSize team)
  numOpponents : w.numOpponents = some (cfg.teamSize (WrapperSpec.otherTeam team))
  teammate : ∃ space : SpaceTree, space.Fits (.vector (cfg.observationDim team)) ∧
    w.teammate .jointObservation = some (space.joint (cfg.teamSize team))
  opponent : ∃ space : SpaceTree,
    space.Fits (.vector (cfg.observationDim (WrapperSpec.otherTeam team))) ∧
    w.opponent .jointObservation = some (space.joint (cfg.teamSize (WrapperSpec.otherTeam team)))

/-- The spaces of a stack are those of observations in the configuration. -/
structure Sound (w : Wrapped) (cfg : Config) : Prop where
  config : w.config = cfg
  observation : ∀ team,
    (w.space (.of team .observation)).Fits (.vector (cfg.observationDim team))
  jointObservation : ∀ team, w.space (.of team .jointObservation)
    = (w.space (.of team .observation)).joint (cfg.teamSize team)
  advertises : ∀ team, w.team? = some team → w.Advertises cfg team
  fits : (w.space .observationSpace).Fits w.observationShape

theorem env_sound (cfg : Config) : (env cfg).Sound cfg where
  config := rfl
  observation := fun team => (cfg.observationSpaceOf team).toTree_fits
  jointObservation := fun _ => rfl
  advertises := fun _ h => by cases h
  fits := by
    refine SpaceTree.Fits.cons ?_ (SpaceTree.Fits.cons ?_ SpaceTree.Fits.nil)
    · exact (cfg.observationSpaceOf .camera).toTree_fits.joint cfg.numCameras
    · exact (cfg.observationSpaceOf .target).toTree_fits.joint cfg.numTargets

namespace Sound

/-- A space that a wrapper does not set is that of the wrapped environment. -/
theorem space_wrap {name : SpaceName} (h : a.space name = none) :
    (wrap spec inner a).space name = inner.space name := by
  show (a.space name).getD (inner.space name) = inner.space name
  rw [h]
  rfl

theorem blind (h : inner.Sound cfg) (hteam : spec.team? = none) (ha : a.Blind) :
    (wrap spec inner a).Sound cfg := by
  refine ⟨h.config, fun team => ?_, fun team => ?_, fun team hof => ?_, ?_⟩
  · rw [space_wrap (ha.observation team)]
    exact h.observation team
  · rw [space_wrap (ha.observation team), space_wrap (ha.jointObservation team)]
    exact h.jointObservation team
  · rw [team?_wrap_none hteam] at hof
    have hadv := h.advertises team hof
    refine ⟨?_, ?_, ?_, ?_⟩
    · show a.numTeammates.orElse (fun _ => inner.numTeammates) = _
      rw [ha.numTeammates]
      exact hadv.numTeammates
    · show a.numOpponents.orElse (fun _ => inner.numOpponents) = _
      rw [ha.numOpponents]
      exact hadv.numOpponents
    · obtain ⟨space, hfits, hspace⟩ := hadv.teammate
      refine ⟨space, hfits, ?_⟩
      show (a.teammate _).orElse (fun _ => inner.teammate _) = _
      rw [ha.teammate]
      exact hspace
    · obtain ⟨space, hfits, hspace⟩ := hadv.opponent
      refine ⟨space, hfits, ?_⟩
      show (a.opponent _).orElse (fun _ => inner.opponent _) = _
      rw [ha.opponent]
      exact hspace
  · rw [space_wrap ha.observationSpace, observationShape_wrap hteam]
    exact h.fits

theorem ofTeam {team : Team} (h : inner.Sound cfg) (hteam : spec.team? = some team)
    (ha : a.OfTeam team inner)
    (hfits : ((wrap spec inner a).space .observationSpace).Fits
      (wrap spec inner a).observationShape) : (wrap spec inner a).Sound cfg := by
  refine ⟨h.config, fun team => ?_, fun team => ?_, fun team' hof => ?_, hfits⟩
  · rw [space_wrap (ha.observation team)]
    exact h.observation team
  · rw [space_wrap (ha.observation team), space_wrap (ha.jointObservation team)]
    exact h.jointObservation team
  · rw [team?_wrap_some hteam] at hof
    cases hof
    refine ⟨?_, ?_, ⟨_, h.observation team, ?_⟩, ⟨_, h.observation _, ?_⟩⟩
    · show a.numTeammates.orElse (fun _ => inner.numTeammates) = _
      rw [ha.numTeammates, h.config]
      rfl
    · show a.numOpponents.orElse (fun _ => inner.numOpponents) = _
      rw [ha.numOpponents, h.config]
      rfl
    · show (a.teammate _).orElse (fun _ => inner.teammate _) = _
      rw [ha.teammate, h.jointObservation]
      rfl
    · show (a.opponent _).orElse (fun _ => inner.opponent _) = _
      rw [ha.opponent, h.jointObservation]
      rfl

theorem multi {team : Team} (h : inner.Sound cfg) (hteam : inner.team? = none)
    (hsingle : noInstance WrapperSpec.isSingleAgent inner.specs)
    (ha : WrapperSpec.attributes (.multi team) inner = .ok a) :
    (wrap (.multi team) inner a).Sound cfg := by
  obtain ⟨hof, observation, hcomponent, hspace⟩ := WrapperSpec.multi_attributes ha
  refine h.ofTeam rfl hof ?_
  have hshape : (wrap (.multi team) inner a).observationShape = inner.config.rowsShape team := by
    have hinstance : noInstance WrapperSpec.isSingleAgent (wrap (.multi team) inner a).specs :=
      List.forall_mem_cons.mpr ⟨rfl, hsingle⟩
    unfold observationShape
    rw [team?_wrap_some rfl]
    exact if_pos hinstance
  have hinner : (inner.space .observationSpace).Fits
      (.tuple [inner.config.rowsShape .camera, inner.config.rowsShape .target]) := by
    have hfits := h.fits
    unfold observationShape at hfits
    rwa [hteam] at hfits
  show ((a.space .observationSpace).getD _).Fits _
  rw [hspace, hshape]
  exact hinner.component inner.config.rowsShape team hcomponent

theorem single {team : Team} (h : inner.Sound cfg)
    (ha : WrapperSpec.attributes (.single team) inner = .ok a) :
    (wrap (.single team) inner a).Sound cfg := by
  obtain ⟨hof, hspace⟩ := WrapperSpec.single_attributes ha
  refine h.ofTeam rfl hof ?_
  have hshape : (wrap (.single team) inner a).observationShape
      = .vector (inner.config.observationDim team) := by
    have hinstance : ¬ noInstance WrapperSpec.isSingleAgent (wrap (.single team) inner a).specs :=
      fun hall => Bool.noConfusion (hall (.single team) List.mem_cons_self)
    unfold observationShape
    rw [team?_wrap_some rfl]
    exact if_neg hinstance
  show ((a.space .observationSpace).getD _).Fits _
  rw [hspace, hshape, h.config]
  exact h.observation team

/-- The rescaled spaces have the shapes of the spaces. -/
theorem rescaled (h : inner.Sound cfg)
    (ha : WrapperSpec.attributes .rescaledObservation inner = .ok a) :
    (wrap .rescaledObservation inner a).Sound cfg := by
  obtain ⟨rescaled, rfl, hbox⟩ := WrapperSpec.rescaled_attributes ha
  have hfits : ∀ team, (rescaled team).Fits (.vector (cfg.observationDim team)) := by
    intro team
    have hteam := hbox team
    rw [h.config] at hteam
    exact WrapperSpec.rescaleBox_fits (h.observation team) hteam
  have hlookup : ∀ name, (wrap .rescaledObservation inner
      (WrapperSpec.rescaledAttributes inner rescaled)).space name
      = ((WrapperSpec.rescaledAttributes inner rescaled).space name).getD (inner.space name) :=
    fun _ => rfl
  cases hteam : inner.team? with
  | none =>
      -- around both teams, the space of the environment is a pair of joint spaces
      obtain ⟨hjoint, hof⟩ := WrapperSpec.rescaledAttributes_both rescaled hteam
      refine ⟨h.config, fun team => ?_, fun team => ?_, fun team hsome => ?_, ?_⟩
      · rw [hlookup, (hof team).1]
        exact hfits team
      · rw [hlookup, hlookup, (hof team).1, (hof team).2, h.config]
        rfl
      · rw [team?_wrap_none rfl, hteam] at hsome
        cases hsome
      · rw [hlookup, hjoint, observationShape_wrap rfl, h.config]
        unfold observationShape
        rw [hteam, h.config]
        exact SpaceTree.Fits.cons ((hfits .camera).joint _)
          (SpaceTree.Fits.cons ((hfits .target).joint _) SpaceTree.Fits.nil)
  | some team =>
      -- around one team, the spaces of the other one stay
      obtain ⟨hown, hof, hteammate, hopponent, hteammates, hopponents⟩ :=
        WrapperSpec.rescaledAttributes_ofTeam rescaled hteam
      have hadv := h.advertises team hteam
      refine ⟨h.config, fun team' => ?_, fun team' => ?_, fun team' hsome => ?_, ?_⟩
      · rw [hlookup, (hof team').1]
        by_cases heq : team' = team
        · rw [if_pos heq, heq]
          exact hfits team
        · rw [if_neg heq]
          exact h.observation team'
      · rw [hlookup, hlookup, (hof team').1, (hof team').2]
        by_cases heq : team' = team
        · rw [if_pos heq, if_pos heq, h.config, heq]
          rfl
        · rw [if_neg heq, if_neg heq]
          exact h.jointObservation team'
      · rw [team?_wrap_none rfl, hteam] at hsome
        cases hsome
        refine ⟨?_, ?_, ⟨rescaled team, hfits team, ?_⟩,
          ⟨rescaled (WrapperSpec.otherTeam team), hfits _, ?_⟩⟩
        · show Option.orElse _ (fun _ => inner.numTeammates) = _
          rw [hteammates]
          exact hadv.numTeammates
        · show Option.orElse _ (fun _ => inner.numOpponents) = _
          rw [hopponents]
          exact hadv.numOpponents
        · show Option.orElse _ (fun _ => inner.teammate _) = _
          rw [hteammate, h.config]
          rfl
        · show Option.orElse _ (fun _ => inner.opponent _) = _
          rw [hopponent, h.config]
          rfl
      · rw [hlookup, hown, observationShape_wrap rfl]
        unfold observationShape
        rw [hteam, h.config]
        -- a single agent observes its own space, several the joint one
        by_cases hsingle : noInstance WrapperSpec.isSingleAgent inner.specs
        · rw [if_pos hsingle, hadv.numTeammates]
          show ((rescaled team).joint (cfg.teamSize team)).Fits (if _ then _ else _)
          rw [if_pos hsingle]
          exact (hfits team).joint _
        · rw [if_neg hsingle]
          show (rescaled team).Fits (if _ then _ else _)
          rw [if_neg hsingle]
          exact hfits team

end Sound

/-- Every stack that is accepted is sound. -/
theorem sound_of_build (h : build specs cfg = .ok w) : w.Sound cfg := by
  induction specs generalizing w with
  | nil => cases h; exact env_sound cfg
  | cons spec specs ih =>
      obtain ⟨inner, hinner, hcheck, a, ha, rfl⟩ := build_cons.mp h
      have hsound := ih hinner
      cases hrescaled : spec.isRescaledObservation with
      | true =>
          cases spec with
          | rescaledObservation => exact hsound.rescaled ha
          | _ => cases hrescaled
      | false =>
          cases hteam : spec.team? with
          | none => exact hsound.blind hteam (WrapperSpec.blind_of_attributes hrescaled hteam ha)
          | some team =>
              have hnone := WrapperSpec.noInstance_of_check_team hteam hcheck
              have hsingle : noInstance WrapperSpec.isSingleAgent inner.specs := by
                intro spec' hmem
                have hspec' := hnone spec' hmem
                cases spec' with
                | single team => cases hspec'
                | _ => rfl
              cases spec with
              | multi team => exact hsound.multi (team?_eq_none hnone) hsingle ha
              | single team => exact hsound.single ha
              | _ => cases hteam

/-! ## Loading a configuration -/

/-- Without a `RescaledObservation` the teams have the spaces of the environment. -/
theorem space_observation (h : build specs cfg = .ok w)
    (hrescaled : noInstance WrapperSpec.isRescaledObservation specs) (team : Team) :
    w.space (.of team .observation) = (cfg.observationSpaceOf team).toTree := by
  induction specs generalizing w with
  | nil => cases h; rfl
  | cons spec specs ih =>
      obtain ⟨inner, hinner, hcheck, a, ha, rfl⟩ := build_cons.mp h
      obtain ⟨hspec, hspecs⟩ := List.forall_mem_cons.mp hrescaled
      have hnone : a.space (.of team .observation) = none := by
        cases hteam : spec.team? with
        | none => exact (WrapperSpec.blind_of_attributes hspec hteam ha).observation team
        | some team' => exact (WrapperSpec.ofTeam_of_attributes hteam ha).observation team
      show (a.space _).getD (inner.space _) = _
      rw [hnone]
      exact ih hinner hspecs

/-- What `RescaledObservation` caches depends on the numbers of entities only. -/
theorem attributes_rescaled_eq {old new : Config} {stack fresh : Wrapped}
    (hstack : build specs old = .ok stack) (hfresh : build specs new = .ok fresh)
    (hrescaled : noInstance WrapperSpec.isRescaledObservation specs)
    (hnumbers : old.SameNumbers new) :
    WrapperSpec.attributes .rescaledObservation stack
      = WrapperSpec.attributes .rescaledObservation fresh := by
  have hsound := sound_of_build hstack
  have hsound' := sound_of_build hfresh
  have hspecs : stack.specs = fresh.specs :=
    (specs_of_build hstack).trans (specs_of_build hfresh).symm
  have hteam : stack.team? = fresh.team? := congrArg (List.findSome? WrapperSpec.team?) hspecs
  have hspace : ∀ team, stack.space (.of team .observation) = fresh.space (.of team .observation) := by
    intro team
    rw [space_observation hstack hrescaled, space_observation hfresh hrescaled,
      hnumbers.observationSpaceOf]
  have hrest : WrapperSpec.rescaledAttributes stack = WrapperSpec.rescaledAttributes fresh := by
    funext rescaled
    unfold WrapperSpec.rescaledAttributes
    rw [hteam, hsound.config, hsound'.config]
    simp only [hnumbers.teamSize]
    cases hsome : fresh.team? with
    | none => rfl
    | some team =>
        have hnum : stack.numTeammates = fresh.numTeammates := by
          rw [(hsound.advertises team (hteam.trans hsome)).numTeammates,
            (hsound'.advertises team hsome).numTeammates, hnumbers.teamSize]
        rw [hspecs, hnum]
  simp only [WrapperSpec.attributes]
  rw [hrest, hspace, hspace, hsound.config, hsound'.config, hnumbers.observationSpaceOf,
    hnumbers.observationSpaceOf]

/-- Loading a configuration makes the stack a new one. -/
theorem loadConfig_eq_fresh {old new : Config} {stack fresh : Wrapped}
    (hstack : build specs old = .ok stack) (hfresh : build specs new = .ok fresh)
    (hkept : noInstance WrapperSpec.isRescaledObservation specs ∨ old.SameNumbers new) :
    stack.loadConfig new = .ok fresh := by
  induction specs generalizing stack fresh with
  | nil =>
      cases hstack
      cases hfresh
      rfl
  | cons spec specs ih =>
      obtain ⟨inner, hinner, hcheck, a, ha, rfl⟩ := build_cons.mp hstack
      obtain ⟨inner', hinner', hcheck', a', ha', rfl⟩ := build_cons.mp hfresh
      have hload := ih hinner hinner'
        (hkept.imp_left (fun hall => (List.forall_mem_cons.mp hall).2))
      show (inner.loadConfig new >>= fun inner => _) = _
      rw [hload]
      show (if spec.hasLoadConfig then _ else _) = _
      cases hspec : spec.hasLoadConfig with
      | true => exact WrapperSpec.construct_eq_ok.mpr ⟨hcheck', a', ha', rfl⟩
      | false =>
          -- without its own `load_config` the wrapper keeps what it has computed at first
          suffices ha_eq : a = a' by rw [ha_eq]; rfl
          refine Except.ok.inj (ha.symm.trans (Eq.trans ?_ ha'))
          cases hrescaled : spec.isRescaledObservation with
          | false =>
              rw [WrapperSpec.attributes_of_forwards hspec hrescaled,
                WrapperSpec.attributes_of_forwards hspec hrescaled]
          | true =>
              cases spec with
              | rescaledObservation =>
                  have hnumbers : old.SameNumbers new := by
                    refine hkept.resolve_left (fun hall => ?_)
                    cases (List.forall_mem_cons.mp hall).1
                  refine attributes_rescaled_eq hinner hinner' ?_ hnumbers
                  rw [← specs_of_build hinner]
                  exact WrapperSpec.noInstance_of_check_rescaled hcheck
              | _ => cases hrescaled

/-! ## Stale spaces -/

/-- The observation spaces are those from before, under the names of the teams or, for a single
team, of its teammates and opponents. -/
def Keeps (stack loaded : Wrapped) : Prop :=
  (∀ team, loaded.space (.of team .jointObservation) = stack.space (.of team .jointObservation)) ∨
    ∃ team, stack.team? = some team ∧
      loaded.teammate .jointObservation = stack.teammate .jointObservation ∧
      loaded.opponent .jointObservation = stack.opponent .jointObservation

/-- A `RescaledObservation` keeps the spaces that it has. -/
theorem keeps_rescaled {inner' : Wrapped}
    (ha : WrapperSpec.attributes .rescaledObservation inner = .ok a) :
    (wrap .rescaledObservation inner a).Keeps (wrap .rescaledObservation inner' a) := by
  obtain ⟨rescaled, rfl, -⟩ := WrapperSpec.rescaled_attributes ha
  cases hteam : inner.team? with
  | none =>
      obtain ⟨-, hof⟩ := WrapperSpec.rescaledAttributes_both rescaled hteam
      refine Or.inl (fun team => ?_)
      show Option.getD _ (inner'.space _) = Option.getD _ (inner.space _)
      rw [(hof team).2]
      rfl
  | some team =>
      obtain ⟨-, -, hteammate, hopponent, -⟩ :=
        WrapperSpec.rescaledAttributes_ofTeam rescaled hteam
      refine Or.inr ⟨team, (team?_wrap_none rfl).trans hteam, ?_, ?_⟩
      · show Option.orElse _ (fun _ => inner'.teammate _) = Option.orElse _ _
        rw [hteammate]
        rfl
      · show Option.orElse _ (fun _ => inner'.opponent _) = Option.orElse _ _
        rw [hopponent]
        rfl

/-- The wrappers around a `RescaledObservation` read its spaces again, or not at all. -/
theorem Keeps.wrap {inner' : Wrapped} {a' : Attributes} (h : inner.Keeps inner')
    (hrescaled : spec.isRescaledObservation = false) (hcheck : spec.check inner.specs = .ok ())
    (ha : spec.attributes inner = .ok a) (ha' : a' = a ∨ spec.attributes inner' = .ok a') :
    (wrap spec inner a).Keeps (wrap spec inner' a') := by
  -- a wrapper of one team keeps its spaces to itself; any other one shows no space
  cases hteam : spec.team? with
  | none =>
      have hblind := WrapperSpec.blind_of_attributes hrescaled hteam ha
      have hblind' : a'.Blind := by
        rcases ha' with rfl | ha'
        · exact hblind
        · exact WrapperSpec.blind_of_attributes hrescaled hteam ha'
      refine h.imp (fun hjoint team => ?_) ?_
      · show Option.getD _ _ = Option.getD _ _
        rw [hblind.jointObservation, hblind'.jointObservation]
        exact hjoint team
      · rintro ⟨team, hsome, hteammate, hopponent⟩
        refine ⟨team, (team?_wrap_none hteam).trans hsome, ?_, ?_⟩
        · show Option.orElse _ _ = Option.orElse _ _
          rw [hblind.teammate, hblind'.teammate]
          exact hteammate
        · show Option.orElse _ _ = Option.orElse _ _
          rw [hblind.opponent, hblind'.opponent]
          exact hopponent
  | some team =>
      have hof := WrapperSpec.ofTeam_of_attributes hteam ha
      have hnone : ∀ team, a'.space (.of team .jointObservation) = none := by
        rcases ha' with rfl | ha'
        · exact hof.jointObservation
        · exact (WrapperSpec.ofTeam_of_attributes hteam ha').jointObservation
      rcases h with hjoint | ⟨team', hsome, -⟩
      · refine Or.inl (fun team => ?_)
        show Option.getD _ _ = Option.getD _ _
        rw [hof.jointObservation, hnone]
        exact hjoint team
      · have hinner := team?_eq_none (WrapperSpec.noInstance_of_check_team hteam hcheck)
        rw [hinner] at hsome
        cases hsome

/-- `load_config` of a wrapper: around what it wraps, with the attributes from before or those of
the constructor. -/
theorem loadConfig_wrap {cfg : Config} {loaded : Wrapped}
    (h : (wrap spec inner a).loadConfig cfg = .ok loaded) :
    ∃ inner' a', inner.loadConfig cfg = .ok inner' ∧ loaded = wrap spec inner' a' ∧
      (a' = a ∨ spec.attributes inner' = .ok a') ∧
      (spec.hasLoadConfig = false → a' = a) := by
  obtain ⟨inner', hinner, h⟩ := bind_eq_ok.mp h
  cases hspec : spec.hasLoadConfig with
  | true =>
      rw [hspec] at h
      obtain ⟨-, a', ha', rfl⟩ := WrapperSpec.construct_eq_ok.mp h
      exact ⟨inner', a', hinner, rfl, Or.inr ha', fun hfalse => Bool.noConfusion hfalse⟩
  | false =>
      rw [hspec] at h
      cases h
      exact ⟨inner', a, hinner, rfl, Or.inl rfl, fun _ => rfl⟩

/-- With a `RescaledObservation` anywhere in the stack, the spaces stay as they were. -/
theorem keeps_of_rescaled {old new : Config} {stack loaded : Wrapped}
    (hstack : build specs old = .ok stack) (hload : stack.loadConfig new = .ok loaded)
    (hrescaled : ¬ noInstance WrapperSpec.isRescaledObservation specs) : stack.Keeps loaded := by
  induction specs generalizing stack loaded with
  | nil => exact absurd (fun _ hmem => by cases hmem) hrescaled
  | cons spec specs ih =>
      obtain ⟨inner, hinner, hcheck, a, ha, rfl⟩ := build_cons.mp hstack
      obtain ⟨inner', a', hinner', rfl, ha', hforwards⟩ := loadConfig_wrap hload
      cases hspec : spec.isRescaledObservation with
      | true =>
          cases spec with
          | rescaledObservation =>
              rw [hforwards rfl]
              exact keeps_rescaled ha
          | _ => cases hspec
      | false =>
          have hbelow : ¬ noInstance WrapperSpec.isRescaledObservation specs :=
            fun hall => hrescaled (List.forall_mem_cons.mpr ⟨hspec, hall⟩)
          exact (ih hinner hinner' hbelow).wrap hspec hcheck ha ha'

end Wrapped

/-! ## Refreshed stacks -/

/-- Equal joint spaces are those of as many agents, and of observations of one dimension. -/
theorem Config.sizes_of_joint {old new : Config} {team : Team} {space space' : SpaceTree}
    (hspace : space.Fits (.vector (old.observationDim team)))
    (hspace' : space'.Fits (.vector (new.observationDim team)))
    (h : space.joint (old.teamSize team) = space'.joint (new.teamSize team)) :
    old.teamSize team = new.teamSize team ∧
      (0 < old.teamSize team → old.observationDim team = new.observationDim team) := by
  refine ⟨SpaceTree.joint_inj h, fun hpos => ?_⟩
  rw [SpaceTree.eq_of_joint hpos h] at hspace
  exact hspace.vector_inj hspace'

/-- Sizes and dimensions of both teams determine the numbers of entities. -/
theorem Config.sameNumbers_of_sizes {old new : Config}
    (h : ∀ team, old.teamSize team = new.teamSize team ∧
      (0 < old.teamSize team → old.observationDim team = new.observationDim team)) :
    old.SameNumbers new := by
  have hcameras : old.numCameras = new.numCameras := (h .camera).1
  have htargets : old.numTargets = new.numTargets := (h .target).1
  have hdim := (h .target).2 old.numTargets_pos
  rw [Config.observationDim_target, Config.observationDim_target] at hdim
  exact ⟨hcameras, htargets, by omega⟩

namespace Wrapped

/-- The loaded stack advertises the numbers of agents and the spaces of the new one, and these
are spaces of the observations that it returns from then on. -/
structure Refreshed (loaded fresh : Wrapped) : Prop where
  config : loaded.config = fresh.config
  numTeammates : loaded.numTeammates = fresh.numTeammates
  numOpponents : loaded.numOpponents = fresh.numOpponents
  space : ∀ name, loaded.space name = fresh.space name
  teammate : ∀ kind, loaded.teammate kind = fresh.teammate kind
  opponent : ∀ kind, loaded.opponent kind = fresh.opponent kind
  fits : (loaded.space .observationSpace).Fits loaded.observationShape

variable {specs : List WrapperSpec} {old new : Config} {stack fresh loaded : Wrapped}

theorem refreshed_self (h : build specs new = .ok fresh) : fresh.Refreshed fresh :=
  ⟨rfl, rfl, rfl, fun _ => rfl, fun _ => rfl, fun _ => rfl, (sound_of_build h).fits⟩

theorem sameNumbers_of_keeps (hstack : stack.Sound old) (hfresh : fresh.Sound new)
    (hteam : stack.team? = fresh.team?) (hkeeps : stack.Keeps loaded)
    (hrefreshed : loaded.Refreshed fresh) : old.SameNumbers new := by
  refine Config.sameNumbers_of_sizes (fun team => ?_)
  rcases hkeeps with hjoint | ⟨own, hsome, hteammate, hopponent⟩
  · have heq := (hjoint team).symm.trans (hrefreshed.space _)
    rw [hstack.jointObservation, hfresh.jointObservation] at heq
    exact Config.sizes_of_joint (hstack.observation team) (hfresh.observation team) heq
  · obtain ⟨-, -, ⟨mate, hmate, hmates⟩, ⟨rival, hrival, hrivals⟩⟩ := hstack.advertises own hsome
    obtain ⟨-, -, ⟨mate', hmate', hmates'⟩, ⟨rival', hrival', hrivals'⟩⟩ :=
      hfresh.advertises own (hteam.symm.trans hsome)
    have hown : mate.joint _ = mate'.joint _ := Option.some.inj
      (hmates.symm.trans (hteammate.symm.trans ((hrefreshed.teammate _).trans hmates')))
    have hother : rival.joint _ = rival'.joint _ := Option.some.inj
      (hrivals.symm.trans (hopponent.symm.trans ((hrefreshed.opponent _).trans hrivals')))
    have hcases : team = own ∨ team = WrapperSpec.otherTeam own := by
      cases team <;> cases own <;> simp [WrapperSpec.otherTeam]
    rcases hcases with rfl | rfl
    · exact Config.sizes_of_joint hmate hmate' hown
    · exact Config.sizes_of_joint hrival hrival' hother

/-! ## A rescaled environment -/

/-- The rescaled bounds of the observations of a team. -/
def rescaledSpace (cfg : Config) (team : Team) : SpaceTree :=
  let s := cfg.observationSpaceOf team
  .box (s.normalize (s.low.map (↑))) (s.normalize s.high)

/-- `RescaledObservation(env)`. -/
def rescaledEnv (cfg : Config) : Wrapped :=
  .wrap .rescaledObservation (.env cfg)
    (WrapperSpec.rescaledAttributes (.env cfg) (rescaledSpace cfg))

theorem eq_ofTeams {α : Type} (x : Team → α) :
    (fun team => match team with | .camera => x .camera | .target => x .target) = x := by
  funext team
  cases team <;> rfl

theorem build_rescaledEnv (cfg : Config) :
    build [.rescaledObservation] cfg = .ok (rescaledEnv cfg) := by
  refine build_cons.mpr ⟨.env cfg, rfl, rfl, _, ?_, rfl⟩
  rw [← eq_ofTeams (rescaledSpace cfg)]
  rfl

/-- An obstacle more is nothing that the spaces know of. -/
theorem not_sameNumbers_besideDisc :
    ¬ (Env.soloConfig (0, 0) 10 (by decide)).SameNumbers Env.besideDisc :=
  fun h => absurd h.numObstacles (by decide)

end Wrapped

end Mate
