import TowerDefence.Session.GoalDistance
import TowerDefence.Step.Definedness

/-!
# Undefined values in a session

In arithmetic with undefined values, everything that a step writes is defined exactly
if the state before the step is `Clear`: nothing that the step normalises or divides by
the length of is zero there.  A session whose steps all start from clear states never
computes an undefined value.
-/

namespace TowerDefence

open Foundations GameState
open Foundations.Quiet (nan number)

/-! ## Steps -/

section Loops

variable {F R : Type} [Arithmetic F] [Glm F]

/-- The loops of the step from `state`: everything but the commands. -/
def World.runLoops (world : World F R) (state : GameState F R) : Exec (Frame F R) := do
  let moved ← moveEnemies world.mapData state world.fixedDelta
    (clearNext state (World.startFrame state))
  let fired ← updateTowers world.platform world.mapData world.fixedDelta world.fuel state moved
  updateProjectiles world.mapData world.fixedDelta state fired

/-- The loops of the step from `state` lead through these frames. -/
structure World.Loops (world : World F R) (state : GameState F R)
    (moved fired struck : Frame F R) : Prop where
  moves : moveEnemies world.mapData state world.fixedDelta
    (clearNext state (World.startFrame state)) = .ok moved
  fires : updateTowers world.platform world.mapData world.fixedDelta world.fuel state moved =
    .ok fired
  hits : updateProjectiles world.mapData world.fixedDelta state fired = .ok struck

theorem World.runLoops_eq_ok {world : World F R} {state : GameState F R} {struck : Frame F R} :
    world.runLoops state = .ok struck ↔ ∃ moved fired, world.Loops state moved fired struck := by
  simp only [World.runLoops, bind_eq_ok]
  constructor
  · intro executed
    rcases executed with ⟨moved, moves, fired, fires, hits⟩
    exact ⟨moved, fired, moves, fires, hits⟩
  · intro executed
    rcases executed with ⟨moved, fired, loops⟩
    exact ⟨moved, loops.moves, fired, loops.fires, loops.hits⟩

/-- A step executes the loops and then the commands. -/
theorem World.loops_of_step {world : World F R} {state next : GameState F R}
    {commands : List (GameCommand F)} {record : StepRecord F}
    (stepped : world.step state commands = .ok (next, record)) :
    ∃ moved fired struck after, world.Loops state moved fired struck ∧
      executeCommands world.platform world.mapData commands struck = .ok after ∧
      next = after.next := by
  obtain ⟨after, executed, reached, _⟩ := World.step_eq_ok.mp stepped
  obtain ⟨moved, fired, struck, moves, fires, hits, commanded⟩ := timeStep_eq_ok.mp executed
  exact ⟨moved, fired, struck, after, ⟨moves, fires, hits⟩, commanded, reached⟩

/-- No enemy that stays, no tower and no projectile is in a position from which the step
would compute an undefined value; towers and projectiles meet the enemies where the
movement loop has left them. -/
structure World.Clear (world : World F R) (state : GameState F R) : Prop where
  enemies : ∀ entry ∈ state.enemies.zipIdx, enemyStays world.mapData entry.1 = true →
    entry.1.Clear world.mapData state world.fixedDelta entry.2
  towers : ∀ moved : Frame F R,
    moveEnemies world.mapData state world.fixedDelta
      (clearNext state (World.startFrame state)) = .ok moved →
    ∀ tower ∈ state.towers, tower.Clear world.platform world.mapData moved.next.enemies
  projectiles : ∀ moved : Frame F R,
    moveEnemies world.mapData state world.fixedDelta
      (clearNext state (World.startFrame state)) = .ok moved →
    ∀ proj ∈ state.projectiles, proj.Clear moved.next.enemies

end Loops

variable {K R : Type} [Field K] [LinearOrder K] [IsStrictOrderedRing K] [Glm K]

/-- What keeps undefined values away at the start: a map that enemies can walk on,
defined speeds, a defined step, and a random engine that draws defined vectors. -/
structure World.Proper (world : World (Quiet K) R) : Prop where
  walkable : world.mapData.Walkable
  projectileSpeeds : ∀ type ∈ world.mapData.projectileTypes, type.speed.IsNumber
  delta : world.fixedDelta.IsNumber
  shifts : world.platform.ShiftsDefined

/-- The entities after the loops of a step, and the projectiles that detonated in it, are
defined. -/
structure Frame.AllDefined (frame : Frame (Quiet K) R) : Prop where
  state : frame.next.Defined
  detonations : ∀ proj ∈ detonations frame.deeds, proj.Defined

omit [LinearOrder K] [Field K] [IsStrictOrderedRing K] [Glm K] in
theorem Frame.allDefined_iff {frame : Frame (Quiet K) R} :
    frame.AllDefined ↔
      frame.next.Defined ∧ ∀ proj ∈ detonations frame.deeds, proj.Defined :=
  ⟨fun all => ⟨all.state, all.detonations⟩, fun parts => ⟨parts.1, parts.2⟩⟩

omit [LinearOrder K] [Field K] [IsStrictOrderedRing K] [Glm K] in
instance (frame : Frame (Quiet K) R) : Decidable frame.AllDefined :=
  decidable_of_iff _ Frame.allDefined_iff.symm

section Steps

variable {world : World (Quiet K) R} {state : GameState (Quiet K) R}
variable {moved fired struck : Frame (Quiet K) R}

/-- The images of the enemies are defined exactly if the enemies are clear. -/
theorem World.moved_defined_iff (exact : ExactNorm K) (proper : world.Proper)
    (moves : moveEnemies world.mapData state world.fixedDelta
      (clearNext state (World.startFrame state)) = .ok moved)
    (defined : ∀ enemy ∈ state.enemies, enemy.Defined)
    (onPath : ∀ enemy ∈ state.enemies, enemy.OnPath world.mapData.enemyPath) :
    (∀ enemy ∈ moved.next.enemies, enemy.Defined) ↔
      ∀ entry ∈ state.enemies.zipIdx, enemyStays world.mapData entry.1 = true →
        entry.1.Clear world.mapData state world.fixedDelta entry.2 := by
  obtain ⟨images, reached, carried⟩ := moveEnemies_images moves
  have enemies : moved.next.enemies = images := by
    rw [reached]
    rfl
  have clear_iff : ∀ entry ∈ state.enemies.zipIdx, ∀ image,
      Images world.mapData state world.fixedDelta entry image →
      (image.Defined ↔ entry.1.Clear world.mapData state world.fixedDelta entry.2) :=
    fun entry member image isImage => isImage.defined_iff exact proper.walkable proper.delta member
      defined (onPath entry.1 (List.fst_mem_of_mem_zipIdx member))
  rw [enemies]
  constructor
  · intro definedImages entry member stays
    cases carried.kept_or_dropped member with
    | inl leaves =>
        rw [leaves.not_stays] at stays
        cases stays
    | inr kept =>
        rcases kept with ⟨image, imageMember, isImage⟩
        exact (clear_iff entry member image isImage).mp (definedImages image imageMember)
  · intro clear image imageMember
    obtain ⟨entry, member, isImage⟩ := carried.exists_of_mem_images imageMember
    exact (clear_iff entry member image isImage).mpr (clear entry member isImage.stays)

/-- The copies of the towers are defined exactly if the towers are clear. -/
theorem turns_defined_iff (exact : ExactNorm K) {platform : Platform (Quiet K) R}
    {mapData : MapData (Quiet K)} {enemies : List (Enemy (Quiet K))} {delta : Quiet K}
    {turns : List (TowerTurn (Quiet K))}
    (follow : ∀ turn ∈ turns, turn.Follows platform mapData enemies delta)
    (defined : ∀ tower ∈ turns.map fun turn => turn.tower, tower.Defined)
    (definedEnemies : ∀ enemy ∈ enemies, enemy.Defined) :
    (∀ copy ∈ turns.map fun turn => turn.copy, copy.Defined) ↔
      ∀ tower ∈ turns.map fun turn => turn.tower, tower.Clear platform mapData enemies := by
  simp only [List.forall_mem_map] at defined ⊢
  exact forall₂_congr fun turn member =>
    (follow turn member).defined_iff exact (defined turn member) definedEnemies

omit [IsStrictOrderedRing K] in
/-- The shots of the towers are defined if their copies are. -/
theorem World.Loops.fired_shotsDefined (loops : world.Loops state moved fired struck)
    {turns : List (TowerTurn (Quiet K))}
    (towers : (turns.map fun turn => turn.tower) = state.towers)
    (follow : ∀ turn ∈ turns, turn.Follows world.platform world.mapData moved.next.enemies
      world.fixedDelta)
    (volley : Volley world.mapData moved fired (turns.map fun turn => turn.copy)
      (turns.flatMap TowerTurn.launches))
    (defined : ∀ tower ∈ state.towers, tower.Defined)
    (definedEnemies : ∀ enemy ∈ moved.next.enemies, enemy.Defined)
    (definedCopies : ∀ copy ∈ turns.map fun turn => turn.copy, copy.Defined) :
    fired.ShotsDefined := by
  obtain ⟨images, reached, _⟩ := moveEnemies_spec loops.moves
  constructor
  · have shots : fired.next.projectiles = (turns.flatMap TowerTurn.launches).map Prod.snd := by
      rw [volley.next, reached]
      rfl
    intro proj member
    rw [shots] at member
    obtain ⟨shot, launched, isShot⟩ := List.mem_map.mp member
    obtain ⟨turn, turnMember, byTurn⟩ := List.mem_flatMap.mp launched
    have wasThere : turn.tower ∈ state.towers := towers ▸ List.mem_map_of_mem turnMember
    exact (follow turn turnMember).shots_defined (defined turn.tower wasThere)
      (definedCopies turn.copy (List.mem_map_of_mem turnMember)) definedEnemies proj
      (isShot ▸ (TowerTurn.mem_launches.mp byTurn).2)
  · have none : detonations fired.deeds = [] := by
      rw [volley.deeds, reached, detonations_append]
      simp [detonations, World.startFrame, clearNext, Deed.asDetonation, List.filterMap_map,
        Function.comp_def]
    rw [none]
    exact List.forall_mem_nil _

omit [Field K] [LinearOrder K] [IsStrictOrderedRing K] [Glm K] in
/-- Clearness refers to the frame after the movement loop. -/
theorem World.Loops.clear_iff {F : Type} [Arithmetic F] [Glm F] {world : World F R}
    {state : GameState F R} {moved fired struck : Frame F R}
    (loops : world.Loops state moved fired struck) :
    world.Clear state ↔
      (∀ entry ∈ state.enemies.zipIdx, enemyStays world.mapData entry.1 = true →
        entry.1.Clear world.mapData state world.fixedDelta entry.2) ∧
      (∀ tower ∈ state.towers, tower.Clear world.platform world.mapData moved.next.enemies) ∧
      ∀ proj ∈ state.projectiles, proj.Clear moved.next.enemies := by
  constructor
  · intro clear
    exact ⟨clear.enemies, clear.towers moved loops.moves, clear.projectiles moved loops.moves⟩
  · intro clear
    rcases clear with ⟨enemies, towers, projectiles⟩
    refine ⟨enemies, ?_, ?_⟩
    · intro moved' moves
      cases loops.moves.symm.trans moves
      exact towers
    · intro moved' moves
      cases loops.moves.symm.trans moves
      exact projectiles

/-- What the loops of a step write is defined exactly if the state before is clear. -/
theorem World.loops_defined_iff (exact : ExactNorm K) (proper : world.Proper)
    (loops : world.Loops state moved fired struck) (defined : state.Defined)
    (onPath : ∀ enemy ∈ state.enemies, enemy.OnPath world.mapData.enemyPath) :
    struck.AllDefined ↔ world.Clear state := by
  obtain ⟨images, reached, _⟩ := moveEnemies_spec loops.moves
  obtain ⟨turns, towers, follow, volley⟩ := updateTowers_turns loops.fires
  obtain ⟨kept, _⟩ := updateProjectiles_spec loops.hits
  have bodies := struck_bodies loops.fires loops.hits
  have copies : struck.next.towers = turns.map fun turn => turn.copy := by
    rw [kept.towers, volley.next, reached]
    rfl
  have walkers := World.moved_defined_iff exact proper loops.moves defined.enemies onPath
  have guns := fun definedEnemies => turns_defined_iff exact follow
    (towers.symm ▸ defined.towers) definedEnemies
  have shots := fun definedEnemies => updateProjectiles_shotsDefined exact
    proper.projectileSpeeds proper.delta loops.hits defined.projectiles definedEnemies
  rw [volley.enemies] at shots
  rw [towers] at guns
  rw [loops.clear_iff]
  constructor
  · intro all
    have definedMoved := Enemy.defined_of_bodies bodies.symm all.state.enemies
    exact ⟨walkers.mp definedMoved, (guns definedMoved).mp (copies ▸ all.state.towers),
      ((shots definedMoved).mp ⟨all.state.projectiles, all.detonations⟩).2⟩
  · intro clear
    rcases clear with ⟨walk, aim, fly⟩
    have definedMoved := walkers.mpr walk
    have definedCopies := (guns definedMoved).mpr aim
    have firedShots := loops.fired_shotsDefined towers follow volley defined.towers definedMoved
      definedCopies
    have struckShots := (shots definedMoved).mpr ⟨firedShots, fly⟩
    exact ⟨⟨Enemy.defined_of_bodies bodies definedMoved, copies ▸ definedCopies,
      struckShots.projectiles⟩, struckShots.detonations⟩

/-- Everything that the loops of the step from `state` write is defined. -/
def World.StepDefined (world : World (Quiet K) R) (state : GameState (Quiet K) R) : Prop :=
  ∀ struck, world.runLoops state = .ok struck → struck.AllDefined

omit [IsStrictOrderedRing K] in
instance (world : World (Quiet K) R) (state : GameState (Quiet K) R) :
    Decidable (world.StepDefined state) :=
  match executed : world.runLoops state with
  | .ok struck =>
      decidable_of_iff struck.AllDefined
        ⟨fun all _ executed' => Except.ok.inj (executed.symm.trans executed') ▸ all,
          fun stepDefined => stepDefined struck executed⟩
  | .error _ => isTrue fun _ executed' => nomatch executed.symm.trans executed'

theorem World.stepDefined_iff (exact : ExactNorm K) (proper : world.Proper)
    {commands : List (GameCommand (Quiet K))} {next : GameState (Quiet K) R}
    {record : StepRecord (Quiet K)}
    (stepped : world.step state commands = .ok (next, record)) (defined : state.Defined)
    (onPath : ∀ enemy ∈ state.enemies, enemy.OnPath world.mapData.enemyPath) :
    world.StepDefined state ↔ world.Clear state := by
  obtain ⟨moved, fired, struck, _, loops, _, _⟩ := World.loops_of_step stepped
  have executed := World.runLoops_eq_ok.mpr ⟨moved, fired, loops⟩
  rw [← World.loops_defined_iff exact proper loops defined onPath]
  constructor
  · intro stepDefined
    exact stepDefined struck executed
  · intro all struck' executed'
    cases executed.symm.trans executed'
    exact all

omit [IsStrictOrderedRing K] in
theorem World.StepDefined.next (stepDefined : world.StepDefined state) (proper : world.Proper)
    {commands : List (GameCommand (Quiet K))} {next : GameState (Quiet K) R}
    {record : StepRecord (Quiet K)} (definedCommands : ∀ command ∈ commands, command.Defined)
    (stepped : world.step state commands = .ok (next, record)) : next.Defined := by
  obtain ⟨moved, fired, struck, after, loops, commanded, rfl⟩ := World.loops_of_step stepped
  have all := stepDefined struck (World.runLoops_eq_ok.mpr ⟨moved, fired, loops⟩)
  exact executeCommands_defined commanded proper.walkable.waypoints proper.shifts definedCommands
    all.state

end Steps

/-! ## Sessions -/

section Sessions

variable {platform : Platform (Quiet K) R} {fuel : Nat} {boot : Boot (Quiet K) R}
variable {batches : List (List (GameCommand (Quiet K)))} {process : Process (Quiet K) R}
variable {records : List (StepRecord (Quiet K))}

/-- No undefined value occurs in a session that ends in `last`: the states from which its
steps start, everything that the steps write, and the last state are defined. -/
structure Boot.NeverUndefined (platform : Platform (Quiet K) R) (fuel : Nat)
    (boot : Boot (Quiet K) R) (batches : List (List (GameCommand (Quiet K))))
    (last : GameState (Quiet K) R) : Prop where
  states : ∀ state ∈ statesFrom (boot.world platform fuel).step (boot.startState platform)
    ([] :: batches), state.Defined ∧ (boot.world platform fuel).StepDefined state
  last : last.Defined

omit [IsStrictOrderedRing K] in
instance (last : GameState (Quiet K) R) :
    Decidable (boot.NeverUndefined platform fuel batches last) :=
  decidable_of_iff ((∀ state ∈ statesFrom (boot.world platform fuel).step
      (boot.startState platform) ([] :: batches),
      state.Defined ∧ (boot.world platform fuel).StepDefined state) ∧ last.Defined)
    ⟨fun parts => ⟨parts.1, parts.2⟩, fun never => ⟨never.states, never.last⟩⟩

/-- A session never computes an undefined position, velocity or rotation exactly if each
of its steps starts from a clear state. -/
theorem Boot.play_neverUndefined_iff (exact : ExactNorm K)
    (proper : (boot.world platform fuel).Proper)
    (definedCommands : ∀ commands ∈ batches, ∀ command ∈ commands, command.Defined)
    (played : boot.play platform fuel batches = .ok (process, records)) :
    boot.NeverUndefined platform fuel batches process.session.next ↔
      EachStep (boot.world platform fuel).step
        (fun state _ => (boot.world platform fuel).Clear state)
        (boot.startState platform) ([] :: batches) := by
  let inv (state : GameState (Quiet K) R) : Prop :=
    state.Defined ∧ ∀ enemy ∈ state.enemies, enemy.OnPath boot.mapData.enemyPath
  have initially : inv (boot.startState platform) := by
    refine ⟨⟨?_, ?_, ?_⟩, ?_⟩
    · exact List.forall_mem_nil _
    · exact List.forall_mem_nil _
    · exact List.forall_mem_nil _
    · exact List.forall_mem_nil _
  have allDefined : ∀ commands ∈ [] :: batches, ∀ command ∈ commands, command.Defined :=
    List.forall_mem_cons.mpr ⟨List.forall_mem_nil _, definedCommands⟩
  have decides : ∀ state commands next record, inv state →
      (boot.world platform fuel).step state commands = .ok (next, record) →
      ((boot.world platform fuel).StepDefined state ↔ (boot.world platform fuel).Clear state) :=
    fun _ _ _ _ holds stepped => World.stepDefined_iff exact proper stepped holds.1 holds.2
  have preserved : ∀ state commands next record, commands ∈ [] :: batches → inv state →
      (boot.world platform fuel).StepDefined state →
      (boot.world platform fuel).step state commands = .ok (next, record) → inv next := by
    intro state commands next record member holds stepDefined stepped
    refine ⟨stepDefined.next proper (allDefined commands member) stepped, ?_⟩
    obtain ⟨frame, executed, rfl, _⟩ := World.step_eq_ok.mp stepped
    exact timeStep_onPath executed holds.2
  have executed := (pure_run_of_play platform fuel played).runFrom_eq
  rw [← forall_states_iff decides preserved initially executed]
  constructor
  · intro never state member
    exact (never.states state member).2
  · intro visits
    obtain ⟨states, last⟩ := forall_states_invariant preserved initially executed visits
    exact ⟨fun state member => ⟨(states state member).1, visits state member⟩, last.1⟩

end Sessions

end TowerDefence
