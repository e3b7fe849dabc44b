import TowerDefence.Session.Frames
import TowerDefence.Step.Account
import TowerDefence.Step.Blasts

/-!
# The enemies that events name

A hit and a death should name the slot of the enemy that was struck.  The events
carry the slot that the projectile remembers, so they are right for direct hits
and wrong for every enemy that the splash reaches in another slot.  The state
before a step rules this out if no blast of the step reaches a second enemy.
-/

namespace TowerDefence

open Foundations

variable {F R : Type}

/-! ## The events of strikes -/

/-- A hit or a death. -/
def GameEvent.isDamage : GameEvent F → Bool
  | .projectileHit _ _ _ => true
  | .enemyDied _ => true
  | _ => false

/-- The strike is on the slot that its projectile remembers. -/
def Strike.InOwnSlot (strike : Strike F) : Prop :=
  strike.enemyIndex = strike.projectile.targetEnemyIndex

/-- Every strike of the history is on the slot that its projectile remembers. -/
def StrikesInOwnSlots (deeds : List (Deed F)) : Prop :=
  ∀ strike ∈ strikes deeds, strike.InOwnSlot

section Strikes

variable [Arithmetic F]

/-- The events that name the enemy that was struck. -/
def Strike.namingEvents (strike : Strike F) : List (GameEvent F) :=
  .projectileHit strike.enemy.position strike.enemyIndex strike.projectile.typeIdx ::
    if strike.died then [.enemyDied strike.enemyIndex] else []

/-- The hits and deaths of a step name the enemies that its history records: for
every damage application a hit with the slot and the position of the enemy, and a
death with the slot if the health was brought to zero. -/
def StepRecord.NamesEnemies (record : StepRecord F) : Prop :=
  record.events.filter GameEvent.isDamage =
    (strikes record.deeds).flatMap Strike.namingEvents

instance [DecidableEq F] (record : StepRecord F) : Decidable record.NamesEnemies :=
  inferInstanceAs (Decidable (_ = _))

theorem Strike.events_length (strike : Strike F) :
    strike.events.length = strike.namingEvents.length := by
  rw [events, namingEvents, List.length_cons, List.length_cons]
  split
  · rfl
  · rfl

theorem Strike.events_eq_iff (strike : Strike F) :
    strike.events = strike.namingEvents ↔ strike.InOwnSlot := by
  constructor
  · intro same
    rw [events, namingEvents, List.cons.injEq] at same
    injection same.1 with _ sameSlot
    exact sameSlot.symm
  · intro inOwnSlot
    rw [events, namingEvents, inOwnSlot]

theorem flatMap_events_eq_iff (hits : List (Strike F)) :
    hits.flatMap Strike.events = hits.flatMap Strike.namingEvents ↔
      ∀ hit ∈ hits, hit.InOwnSlot := by
  induction hits with
  | nil => simp
  | cons hit hits ih =>
      rw [List.flatMap_cons, List.flatMap_cons, List.forall_mem_cons, ← ih, ← hit.events_eq_iff]
      constructor
      · intro same
        exact List.append_inj same hit.events_length
      · intro same
        rw [same.1, same.2]

/-- The hits and deaths of a frame are those of its strikes. -/
def Frame.Reports (frame : Frame F R) : Prop :=
  frame.outGameEvents.filter GameEvent.isDamage = (strikes frame.deeds).flatMap Strike.events

variable {mapData : MapData F} {frame frame' : Frame F R}

theorem Strike.events_filter (strike : Strike F) :
    strike.events.filter GameEvent.isDamage = strike.events := by
  rw [List.filter_eq_self]
  intro event member
  cases List.mem_cons.mp member with
  | inl hit => exact hit ▸ rfl
  | inr death =>
      split at death
      · exact List.mem_singleton.mp death ▸ rfl
      · cases death

theorem Volley.reports {copies : List (Tower F)} {shots : List (Tower F × Projectile F)}
    (volley : Volley mapData frame frame' copies shots) (holds : frame.Reports) :
    frame'.Reports := by
  rw [Frame.Reports, volley.filter_events fun _ _ => rfl, volley.strikes_eq]
  exact holds

theorem Impact.reports (impact : Impact mapData frame frame') (holds : frame.Reports) :
    frame'.Reports := by
  cases impact with
  | query storage => exact holds
  | detonate projectile =>
      have noStrike : strikes [Deed.detonate projectile] = [] := rfl
      rw [Frame.Reports, strikes_append, noStrike, List.append_nil]
      exact holds
  | @strike _ strike _ _ _ _ applied =>
      rw [Frame.Reports, applied.outGameEvents, applied.deeds, List.filter_append, strikes_append,
        List.flatMap_append, strike.events_filter, strikes_single, List.flatMap_singleton, holds]

theorem Obeys.outGameEvents_eq {command : GameCommand F}
    (obeys : Obeys mapData frame command frame') : frame'.outGameEvents = frame.outGameEvents := by
  cases obeys with
  | spawn _ _ _ _ _ => rfl
  | despawn => rfl
  | addGold _ => rfl
  | build _ _ _ _ => rfl
  | refuse _ _ => rfl

variable [Glm F]

/-- A step reports the strikes of its history. -/
theorem GameState.timeStep_reports {platform : Platform F R} {initial : GameState F R}
    {commands : List (GameCommand F)} {delta : F} {fuel : Nat} {after : Frame F R}
    (executed : timeStep platform mapData initial commands delta fuel frame = .ok after)
    (holds : frame.Reports) : after.Reports := by
  obtain ⟨moved, fired, struck, moves, fires, strikes, commanded⟩ := timeStep_eq_ok.mp executed
  obtain ⟨images, reached, _⟩ := moveEnemies_spec moves
  obtain ⟨copies, shots, volley, _, _⟩ := updateTowers_spec fires
  have afterMovement : moved.Reports := by
    rw [reached]
    exact holds
  have afterStrikes : struck.Reports :=
    updateProjectiles_invariant Frame.Reports strikes (volley.reports afterMovement)
      (fun _ _ impact => impact.reports) fun _ _ _ _ _ reported => reported
  apply executeCommands_invariant Frame.Reports commanded afterStrikes
  intro command state state' _ obeys reported
  rw [Frame.Reports, obeys.outGameEvents_eq, obeys.strikes_eq]
  exact reported

end Strikes

/-! ## The slots of strikes -/

section Slots

variable [Arithmetic F] {mapData : MapData F} {frame frame' : Frame F R}
variable {projectile : Projectile F} {type : ProjectileType F} {direct : Bool}

theorem GameState.applyDamageToEnemy_inOwnSlots {slot : Nat}
    (executed : applyDamageToEnemy mapData direct projectile type frame slot = .ok frame') :
    StrikesInOwnSlots frame'.deeds ↔
      StrikesInOwnSlots frame.deeds ∧ slot = projectile.targetEnemyIndex := by
  obtain ⟨enemy, applied⟩ := applyDamageToEnemy_applied executed
  rw [StrikesInOwnSlots, applied.deeds, strikes_append, strikes_single, List.forall_mem_append,
    List.forall_mem_singleton]
  rfl

theorem GameState.strikeSlots_inOwnSlots {slots : List Nat}
    (executed : slots.foldlM (applyDamageToEnemy mapData direct projectile type) frame =
      .ok frame') :
    StrikesInOwnSlots frame'.deeds ↔
      StrikesInOwnSlots frame.deeds ∧ ∀ slot ∈ slots, slot = projectile.targetEnemyIndex := by
  induction slots generalizing frame with
  | nil =>
      cases executed
      simp
  | cons slot slots ih =>
      rw [List.foldlM_cons, bind_eq_ok] at executed
      rcases executed with ⟨middle, struck, continued⟩
      rw [ih continued, applyDamageToEnemy_inOwnSlots struck, List.forall_mem_cons, and_assoc]

/-- The splash around `target` reaches an enemy in a slot that the projectile does
not remember. -/
structure Projectile.SplashesOthers (type : ProjectileType F) (target : Vec2 F)
    (enemies : List (Enemy F)) (proj : Projectile F) : Prop where
  splash : isNearlyZero type.splashRadius = false
  others : ∃ (slot : Nat) (enemy : Enemy F), slot ≠ proj.targetEnemyIndex ∧
    enemies[slot]? = some enemy ∧ enemy.inRadius target type.splashRadius = true

/-- A detonation strikes another slot exactly if its splash reaches an enemy there. -/
theorem GameState.detonate_inOwnSlots {alive : Bool} {target : Vec2 F}
    (executed : detonate mapData projectile type alive target frame = .ok frame') :
    StrikesInOwnSlots frame'.deeds ↔
      StrikesInOwnSlots frame.deeds ∧
        ¬projectile.SplashesOthers type target frame.next.enemies := by
  rw [detonate, bind_eq_ok] at executed
  rcases executed with ⟨hit, damaged, splashed⟩
  have recorded : StrikesInOwnSlots (frame.deeds ++ [.detonate projectile]) ↔
      StrikesInOwnSlots frame.deeds := by
    have noStrike : strikes [Deed.detonate projectile] = [] := rfl
    rw [StrikesInOwnSlots, strikes_append, noStrike, List.append_nil]
    rfl
  have afterHit : (StrikesInOwnSlots hit.deeds ↔ StrikesInOwnSlots frame.deeds) ∧
      ∀ slot, slot ≠ projectile.targetEnemyIndex →
        hit.next.enemies[slot]? = frame.next.enemies[slot]? := by
    rw [damageTarget] at damaged
    split at damaged
    case isTrue =>
      refine ⟨?_, ?_⟩
      · rw [applyDamageToEnemy_inOwnSlots damaged, recorded]
        exact and_iff_left rfl
      · intro slot other
        rw [applyDamageToEnemy_enemies damaged, if_neg other]
    case isFalse =>
      cases damaged
      exact ⟨recorded, fun _ _ => rfl⟩
  rw [damageSplash] at splashed
  split at splashed
  case isTrue noSplash =>
    cases splashed
    have spared : ¬projectile.SplashesOthers type target frame.next.enemies := by
      intro splashes
      rw [splashes.splash] at noSplash
      cases noSplash
    rw [afterHit.1, and_iff_left spared]
  case isFalse splash =>
    rw [strikeSlots_inOwnSlots splashed, afterHit.1]
    apply and_congr_right
    intro _
    constructor
    · intro ownSlot splashes
      rcases splashes.others with ⟨slot, enemy, other, found, reached⟩
      rw [← afterHit.2 slot other] at found
      exact other (ownSlot slot (mem_queryEnemiesInRadius_iff.mpr ⟨enemy, found, reached⟩))
    · intro spared slot reported
      by_contra other
      obtain ⟨enemy, found, reached⟩ := mem_queryEnemiesInRadius_iff.mp reported
      rw [afterHit.2 slot other] at found
      exact spared ⟨Bool.eq_false_iff.mpr splash, slot, enemy, other, found, reached⟩

variable [Glm F] {delta : F} {proj : Projectile F}

/-- The projectile detonates among `enemies` and splashes others. -/
def Projectile.DetonatesAmongOthers (mapData : MapData F) (delta : F) (enemies : List (Enemy F))
    (proj : Projectile F) : Prop :=
  ∃ alive target type, proj.Aim mapData enemies alive target type ∧
    ¬type.speed * delta < Glm.length (target - proj.position) ∧
    proj.SplashesOthers type target enemies

/-- No projectile of the loop splashes others when its turn comes. -/
def SplashesOwnSlots (mapData : MapData F) (delta : F) : Frame F R → List (Projectile F) → Prop
  | _, [] => True
  | frame, proj :: projectiles =>
      ¬proj.DetonatesAmongOthers mapData delta frame.next.enemies ∧
        ∀ frame', GameState.updateProjectile mapData delta frame proj = .ok frame' →
          SplashesOwnSlots mapData delta frame' projectiles

theorem GameState.updateProjectile_inOwnSlots
    (executed : updateProjectile mapData delta frame proj = .ok frame') :
    StrikesInOwnSlots frame'.deeds ↔
      StrikesInOwnSlots frame.deeds ∧
        ¬proj.DetonatesAmongOthers mapData delta frame.next.enemies := by
  cases updateProjectile_step executed with
  | skipped outOfRange =>
      rw [and_iff_left]
      intro detonates
      rcases detonates with ⟨_, _, _, aim, _⟩
      exact absurd aim.inRange (Nat.not_lt.mpr outOfRange)
  | flies aim farther =>
      rw [and_iff_left]
      intro detonates
      rcases detonates with ⟨_, _, _, other, near, _⟩
      obtain ⟨_, sameTarget, sameType⟩ := aim.unique other
      subst sameTarget sameType
      exact near farther
  | @detonates alive target type _ aim near detonated =>
      rw [detonate_inOwnSlots detonated]
      apply and_congr_right
      intro _
      apply not_congr
      constructor
      · intro splashes
        exact ⟨alive, target, type, aim, near, splashes.splash, splashes.others⟩
      · intro detonates
        rcases detonates with ⟨_, _, _, other, _, splashes⟩
        obtain ⟨_, sameTarget, sameType⟩ := aim.unique other
        subst sameTarget sameType
        exact ⟨splashes.splash, splashes.others⟩

theorem GameState.updateProjectiles_inOwnSlots {projectiles : List (Projectile F)}
    (executed : projectiles.foldlM (updateProjectile mapData delta) frame = .ok frame') :
    StrikesInOwnSlots frame'.deeds ↔
      StrikesInOwnSlots frame.deeds ∧ SplashesOwnSlots mapData delta frame projectiles := by
  induction projectiles generalizing frame with
  | nil =>
      cases executed
      rw [SplashesOwnSlots, and_true]
  | cons proj projectiles ih =>
      rw [List.foldlM_cons, bind_eq_ok] at executed
      rcases executed with ⟨middle, stepped, continued⟩
      rw [ih continued, updateProjectile_inOwnSlots stepped, SplashesOwnSlots, and_assoc]
      apply and_congr_right
      intro _
      apply and_congr_right
      intro _
      constructor
      · intro holds other stepped'
        rw [stepped] at stepped'
        cases stepped'
        exact holds
      · intro holds
        exact holds middle stepped

end Slots

/-! ## What the state before a step says -/

section Spared

variable [Arithmetic F] [Glm F] {mapData : MapData F} {state : GameState F R} {delta : F}
variable {proj : Projectile F} {enemies : List (Enemy F)}

/-- If the projectile goes off in the step, it strikes no enemy outside the slot that it
remembers: it has no splash, at most one enemy is left, or, in exact arithmetic, every
enemy that stays in another slot is out of reach of the blast. -/
inductive Projectile.SparesOthers (mapData : MapData F) (state : GameState F R) (delta : F)
    (proj : Projectile F) : Prop where
  | noSplash : (∀ type, mapData.projectileTypes[proj.typeIdx]? = some type →
      isNearlyZero type.splashRadius = true) → proj.SparesOthers mapData state delta
  | alone : (survivors mapData state).length ≤ 1 → proj.SparesOthers mapData state delta
  | outOfReach : IsExact F → (∀ entry ∈ (survivors mapData state).zipIdx,
      entry.2 ≠ proj.targetEnemyIndex → ¬proj.MaySplash mapData state delta entry.1) →
      proj.SparesOthers mapData state delta

theorem Projectile.SparesOthers.not_detonatesAmongOthers
    (spares : proj.SparesOthers mapData state delta)
    (holds : FromSurvivors mapData state delta enemies) :
    ¬proj.DetonatesAmongOthers mapData delta enemies := by
  intro detonates
  rcases detonates with ⟨alive, target, type, aim, near, splashes⟩
  rcases splashes.others with ⟨slot, enemy, other, found, reached⟩
  cases spares with
  | noSplash none =>
      exact Bool.eq_false_iff.mp splashes.splash (none type aim.typed)
  | alone few =>
      have sameLength := List.Forall₂.length_eq holds
      have inRange := aim.inRange
      have inside := (List.getElem?_eq_some_iff.mp found).1
      omega
  | outOfReach exact far =>
      obtain ⟨entry, survives, becomes⟩ := holds.slot found
      have listed : (entry, slot) ∈ (survivors mapData state).zipIdx :=
        List.mk_mem_zipIdx_iff_getElem?.mpr survives
      apply far (entry, slot) listed other
      cases exact with
      | intro bounds => exact aim.maySplash bounds near becomes splashes.splash reached holds

/-- If all projectiles spare the others, no splash of the loop leaves its slot. -/
theorem splashesOwnSlots_of_spares {frame : Frame F R} {projectiles : List (Projectile F)}
    (spares : ∀ proj ∈ projectiles, proj.SparesOthers mapData state delta)
    (holds : FromSurvivors mapData state delta frame.next.enemies) :
    SplashesOwnSlots mapData delta frame projectiles := by
  induction projectiles generalizing frame with
  | nil => trivial
  | cons proj projectiles ih =>
      rw [List.forall_mem_cons] at spares
      refine ⟨spares.1.not_detonatesAmongOthers holds, ?_⟩
      intro frame' stepped
      have bodies := (GameState.updateProjectile_step stepped).carries.1.bodies
      exact ih spares.2 (holds.congr bodies)

end Spared

/-! ## Steps and runs -/

section Runs

variable [Arithmetic F] [Glm F]

/-- In a step from `state`, every splash reaches at most the slot that its projectile
remembers. -/
def SplashStaysInSlot (world : World F R) (state : GameState F R) : Prop :=
  ∀ moved fired : Frame F R,
    GameState.moveEnemies world.mapData state world.fixedDelta
      (GameState.clearNext state ⟨state, [], [], []⟩) = .ok moved →
    GameState.updateTowers world.platform world.mapData world.fixedDelta world.fuel state moved =
      .ok fired →
    SplashesOwnSlots world.mapData world.fixedDelta fired state.projectiles

theorem World.step_namesEnemies_iff {world : World F R} {state next : GameState F R}
    {commands : List (GameCommand F)} {record : StepRecord F}
    (stepped : world.step state commands = .ok (next, record)) :
    record.NamesEnemies ↔ SplashStaysInSlot world state := by
  obtain ⟨after, executed, _, recorded⟩ := World.step_eq_ok.mp stepped
  have reports := GameState.timeStep_reports executed rfl
  obtain ⟨moved, fired, struck, moves, fires, hits, commanded⟩ :=
    GameState.timeStep_eq_ok.mp executed
  have sameStrikes := GameState.executeCommands_strikes commanded
  have quiet : StrikesInOwnSlots fired.deeds := by
    obtain ⟨images, reached, _⟩ := GameState.moveEnemies_spec moves
    obtain ⟨copies, shots, volley, _, _⟩ := GameState.updateTowers_spec fires
    rw [StrikesInOwnSlots, volley.strikes_eq, reached]
    intro strike member
    cases member
  have named : record.NamesEnemies ↔ StrikesInOwnSlots struck.deeds := by
    rw [Frame.Reports] at reports
    rw [recorded, StepRecord.NamesEnemies, reports, flatMap_events_eq_iff, sameStrikes]
    rfl
  rw [named, GameState.updateProjectiles_inOwnSlots hits, and_iff_right quiet]
  constructor
  · intro holds moved' fired' moves' fires'
    rw [moves] at moves'
    cases moves'
    rw [fires] at fires'
    cases fires'
    exact holds
  · intro holds
    exact holds moved fired moves fires

/-- In a session, the events of all steps name the right enemies exactly if no
splash of any step reaches an enemy in a slot other than the one that its
projectile remembers. -/
theorem Boot.play_namesEnemies_iff {platform : Platform F R} {fuel : Nat} {boot : Boot F R}
    {batches : List (List (GameCommand F))} {process : Process F R}
    {records : List (StepRecord F)}
    (played : boot.play platform fuel batches = .ok (process, records)) :
    (∀ record ∈ records, record.NamesEnemies) ↔
      EachStep (boot.world platform fuel).step
        (fun state _ => SplashStaysInSlot (boot.world platform fuel) state)
        (boot.startState platform) ([] :: batches) := by
  apply forall_outputs_iff
  · intro state commands next record stepped
    exact World.step_namesEnemies_iff stepped
  · exact (pure_run_of_play platform fuel played).runFrom_eq

/-- A step from a state whose projectiles spare the others keeps every splash in its
slot. -/
theorem World.splashStaysInSlot {world : World F R} {state : GameState F R}
    (spares : ∀ proj ∈ state.projectiles,
      proj.SparesOthers world.mapData state world.fixedDelta) :
    SplashStaysInSlot world state := by
  intro moved fired moves fires
  apply splashesOwnSlots_of_spares spares
  obtain ⟨copies, shots, volley, _, _⟩ := GameState.updateTowers_spec fires
  rw [volley.enemies]
  exact GameState.moveEnemies_fromSurvivors moves

/-- In a session whose steps all start from states with projectiles that spare the
others, all events name the right enemies. -/
theorem Boot.play_namesEnemies {platform : Platform F R} {fuel : Nat} {boot : Boot F R}
    {batches : List (List (GameCommand F))} {process : Process F R}
    {records : List (StepRecord F)}
    (played : boot.play platform fuel batches = .ok (process, records))
    (spares : EachStep (boot.world platform fuel).step
      (fun state _ => ∀ proj ∈ state.projectiles,
        proj.SparesOthers boot.mapData state boot.fixedTimeDelta)
      (boot.startState platform) ([] :: batches)) :
    ∀ record ∈ records, record.NamesEnemies := by
  apply (Boot.play_namesEnemies_iff played).mpr
  apply spares.mono
  intro state _ sparesAll
  exact World.splashStaysInSlot sparesAll

end Runs

section Meadow

open Rational

/-- A tower with a short range whose projectiles splash. -/
def Rational.howitzers (splashRadius : ℚ) : Boot ℚ Nat :=
  { meadowBoot with
    mapData :=
      { meadow with
        towerTypes :=
          [{ name := "howitzer", tileId := 3, cost := 5, range := 2, shotsPerSecond := 1,
             projectileTypeIdx := 0 }]
        projectileTypes := [{ mortar with splashRadius }] } }

/-- An enemy walks past the tower, and another one follows three steps later. -/
def Rational.march : List (List (GameCommand ℚ)) :=
  [[.debugSpawnEnemy 0, .buildTower 0 ⟨4, 1 / 2⟩], [], [], [.debugSpawnEnemy 0], [], []]

/-- The second enemy stays out of reach of a small splash, and every event names the
first one. -/
theorem march_namesEnemies : ∃ process records,
    (howitzers 1).play platform 10 march = .ok (process, records) ∧
    process.session.next.enemies.length = 2 ∧ (∃ record ∈ records, strikes record.deeds ≠ []) ∧
    ∀ record ∈ records, record.NamesEnemies := by
  obtain ⟨⟨process, records⟩, played, checked⟩ := exists_ok_of_succeedsWith
    ((howitzers 1).play platform 10 march)
    (fun result => decide (result.1.session.next.enemies.length = 2 ∧
      ∃ record ∈ result.2, strikes record.deeds ≠ []))
    (by decide +kernel)
  obtain ⟨twoEnemies, struck⟩ := of_decide_eq_true checked
  have far : EachStep ((howitzers 1).world platform 10).step
      (fun state _ => ∀ proj ∈ state.projectiles,
        ∀ entry ∈ (survivors (howitzers 1).mapData state).zipIdx,
          entry.2 ≠ proj.targetEnemyIndex →
          ¬proj.MaySplash (howitzers 1).mapData state (howitzers 1).fixedTimeDelta entry.1)
      ((howitzers 1).startState platform) ([] :: march) := by
    decide +kernel
  refine ⟨process, records, played, twoEnemies, struck, ?_⟩
  apply Boot.play_namesEnemies played
  apply far.mono
  intro state _ outOfReach proj member
  exact .outOfReach (.intro exactBounds) (outOfReach proj member)

/-- The splash of a shot at the first enemy reaches the second one, and the event
names the slot of the first. -/
theorem march_misnames : ∃ process records,
    (howitzers 6).play platform 10 march = .ok (process, records) ∧
    ∃ record ∈ records, ¬record.NamesEnemies := by
  obtain ⟨⟨process, records⟩, played, checked⟩ := exists_ok_of_succeedsWith
    ((howitzers 6).play platform 10 march)
    (fun result => decide (∃ record ∈ result.2, ¬record.NamesEnemies))
    (by decide +kernel)
  exact ⟨process, records, played, of_decide_eq_true checked⟩

end Meadow

end TowerDefence
