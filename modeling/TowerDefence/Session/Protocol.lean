import TowerDefence.Model.Rational
import TowerDefence.Session.Identity
import TowerDefence.Step.Salvos

/-!
# Every shot is fired once and goes off at most once

Over a whole session the history and the events of every step follow the grammar
of `Step.Salvos`, and the projectiles keep a ledger: a projectile that detonates
was launched in an earlier step, none goes off twice, and none that went off is
still in flight.
-/

namespace TowerDefence

open Foundations

variable {F R : Type}

/-- The ids of the projectiles that detonated. -/
def detonatedIds (deeds : List (Deed F)) : List Nat :=
  (detonations deeds).map fun projectile => projectile.id

@[simp] theorem detonatedIds_append (deeds later : List (Deed F)) :
    detonatedIds (deeds ++ later) = detonatedIds deeds ++ detonatedIds later := by
  simp [detonatedIds]

variable [Arithmetic F]

/-- The launched and the detonated ids of a history that follows the grammar. -/
theorem Grammar.ids {deeds : List (Deed F)} {events : List (GameEvent F)}
    {shots : List (Tower F × Projectile F)} {salvos : List (Salvo F)} {commanded : List (Deed F)}
    (grammar : Grammar deeds events shots salvos commanded) :
    launchedIds deeds = (shots.map fun shot => shot.2.id) ∧
      detonatedIds deeds = salvos.map fun salvo => salvo.projectile.id := by
  have fromCommands : launchedIds commanded = [] ∧ detonatedIds commanded = [] := by
    have silent : ∀ deed ∈ commanded, deed.launchedId = none ∧ deed.asDetonation = none := by
      intro deed member
      have isCommanded := grammar.commanded deed member
      cases deed with
      | spawn enemy => exact ⟨rfl, rfl⟩
      | build tower => exact ⟨rfl, rfl⟩
      | launch tower projectile => cases isCommanded
      | detonate projectile => cases isCommanded
      | strike strike => cases isCommanded
    constructor
    · exact List.filterMap_eq_nil_iff.mpr fun deed member => (silent deed member).1
    · rw [detonatedIds, detonations, List.map_eq_nil_iff, List.filterMap_eq_nil_iff]
      exact fun deed member => (silent deed member).2
  have fromSalvos : launchedIds (salvos.flatMap Salvo.deeds) = [] ∧
      detonatedIds (salvos.flatMap Salvo.deeds) =
        salvos.map fun salvo => salvo.projectile.id := by
    have ofSalvo (salvo : Salvo F) :
        launchedIds salvo.deeds = [] ∧ detonatedIds salvo.deeds = [salvo.projectile.id] := by
      simp [Salvo.deeds, launchedIds, detonatedIds, detonations, List.filterMap_map,
        Function.comp_def, Deed.launchedId, Deed.asDetonation]
    constructor
    · rw [launchedIds, List.filterMap_flatMap, List.flatMap_eq_nil_iff]
      exact fun salvo _ => (ofSalvo salvo).1
    · rw [detonatedIds, detonations, List.filterMap_flatMap, List.map_flatMap,
        List.map_eq_flatMap]
      exact congrArg (fun ids => salvos.flatMap ids) (funext fun salvo => (ofSalvo salvo).2)
  have fromShots : detonatedIds (shots.map fun shot => Deed.launch shot.1 shot.2) = [] := by
    simp [detonatedIds, detonations, List.filterMap_map, Function.comp_def, Deed.asDetonation]
  constructor
  · rw [grammar.deeds, launchedIds_append, launchedIds_append, fromSalvos.1, fromCommands.1,
      List.append_nil, List.append_nil, (Volley.ids_eq shots).1]
  · rw [grammar.deeds, detonatedIds_append, detonatedIds_append, fromShots, fromSalvos.2,
      fromCommands.2, List.append_nil, List.nil_append]

/-- No deed is announced as a tower. -/
theorem Grammar.not_towerBuilt {deeds : List (Deed F)} {events : List (GameEvent F)}
    {shots : List (Tower F × Projectile F)} {salvos : List (Salvo F)} {commanded : List (Deed F)}
    (grammar : Grammar deeds events shots salvos commanded) (position : Vec2 F) (typeIdx : Nat) :
    .towerBuilt position typeIdx ∉ events := by
  intro announced
  rw [grammar.events] at announced
  obtain ⟨deed, _, announces⟩ := List.mem_flatMap.mp announced
  cases deed with
  | strike hit =>
      rw [Deed.events, Strike.events] at announces
      split at announces <;> simp at announces
  | launch tower projectile => simp [Deed.events] at announces
  | detonate projectile => cases announces
  | spawn enemy => cases announces
  | build tower => cases announces

/-- A step launches its shots, and what goes off comes from the projectiles of the
state before. -/
theorem Protocol.ledger {state next : GameState F R} {deeds : List (Deed F)}
    {events : List (GameEvent F)} {shots : List (Tower F × Projectile F)}
    {salvos : List (Salvo F)} {commanded : List (Deed F)}
    (protocol : Protocol state deeds events next shots salvos commanded) :
    ∃ flying : List Nat, next.projectileIds = launchedIds deeds ++ flying ∧
      (flying ++ detonatedIds deeds).Subperm state.projectileIds := by
  obtain ⟨launched, detonated⟩ := protocol.toGrammar.ids
  obtain ⟨flying, projectiles, once⟩ := protocol.projectiles
  refine ⟨flying.map fun projectile => projectile.id, ?_, ?_⟩
  · rw [GameState.projectileIds, projectiles, List.map_append, List.map_map, launched]
    rfl
  · rw [detonated]
    exact once

variable [Glm F]

theorem World.step_protocol {world : World F R} {state next : GameState F R}
    {commands : List (GameCommand F)} {record : StepRecord F}
    (stepped : world.step state commands = .ok (next, record)) :
    ∃ shots salvos commanded,
      Protocol state record.deeds record.events next shots salvos commanded := by
  obtain ⟨frame, executed, reached, recorded⟩ := World.step_eq_ok.mp stepped
  rw [reached, recorded]
  exact GameState.timeStep_protocol rfl rfl executed

theorem World.run_grammar {world : World F R} {start finish : GameState F R}
    {batches : List (List (GameCommand F))} {records : List (StepRecord F)}
    (run : Run world.step start batches records finish) :
    ∀ record ∈ records, ∃ shots salvos commanded,
      Grammar record.deeds record.events shots salvos commanded := by
  induction run with
  | nil =>
      intro record member
      cases member
  | snoc _ stepped ih =>
      intro record member
      cases List.mem_append.mp member with
      | inl earlier => exact ih record earlier
      | inr last =>
          cases List.mem_singleton.mp last
          obtain ⟨shots, salvos, commanded, protocol⟩ := World.step_protocol stepped
          exact ⟨shots, salvos, commanded, protocol.toGrammar⟩

/-- The ledger of the projectiles: each that went off or is in flight was launched,
and before the step in which it goes off. -/
structure ProjectileLedger (records : List (StepRecord F)) (state : GameState F R) : Prop where
  accounted : (detonatedIds (history records) ++ state.projectileIds).Subperm
    (launchedIds (history records))
  earlier : EachAfter (fun past record =>
    ∀ id ∈ detonatedIds record.deeds, id ∈ launchedIds (history past)) records

omit [Arithmetic F] [Glm F] in
/-- One more step: some of the projectiles in flight detonate, some fly on, and new
ones are launched. -/
theorem subperm_ledger {detonated inFlight launched detonatedNow flying launchedNow : List Nat}
    (accounted : (detonated ++ inFlight).Subperm launched)
    (once : (flying ++ detonatedNow).Subperm inFlight) :
    (detonated ++ detonatedNow ++ (launchedNow ++ flying)).Subperm (launched ++ launchedNow) := by
  have shuffled : (detonated ++ detonatedNow ++ (launchedNow ++ flying)).Perm
      (detonated ++ (flying ++ detonatedNow) ++ launchedNow) := by
    apply List.perm_iff_count.mpr
    intro id
    simp only [List.count_append]
    omega
  apply shuffled.subperm.trans
  exact (((List.Subperm.refl detonated).append once).trans accounted).append (.refl _)

/-- A run from a state without projectiles keeps the ledger. -/
theorem World.run_projectileLedger {world : World F R} {start finish : GameState F R}
    {batches : List (List (GameCommand F))} {records : List (StepRecord F)}
    (run : Run world.step start batches records finish) (noProjectile : start.projectiles = []) :
    ProjectileLedger records finish := by
  induction run with
  | nil =>
      refine ⟨?_, .nil⟩
      rw [GameState.projectileIds, noProjectile]
      exact .refl _
  | @snoc state next inputs outputs input record _ stepped ih =>
      obtain ⟨shots, salvos, commanded, protocol⟩ := World.step_protocol stepped
      obtain ⟨flying, projectiles, once⟩ := protocol.ledger
      constructor
      · rw [history_append, history_single, detonatedIds_append, launchedIds_append, projectiles]
        exact subperm_ledger ih.accounted once
      · apply ih.earlier.concat
        intro id detonated
        apply ih.accounted.subset
        exact List.mem_append_right _ (once.subset (List.mem_append_right _ detonated))

section Sessions

variable {platform : Platform F R} {fuel : Nat} {boot : Boot F R}
variable {batches : List (List (GameCommand F))} {process : Process F R}
variable {records : List (StepRecord F)}

/-- Every step of a session follows the grammar: launches, then the salvos of the
projectiles that go off, then the commanded objects.  Its events are those of its
history, in the same order, and none of them announces a tower. -/
theorem Boot.play_protocol (played : boot.play platform fuel batches = .ok (process, records)) :
    ∀ record ∈ records,
      (∃ (shots : List (Tower F × Projectile F)) (salvos : List (Salvo F))
        (commanded : List (Deed F)),
        Grammar record.deeds record.events shots salvos commanded) ∧
      ∀ (position : Vec2 F) (typeIdx : Nat), .towerBuilt position typeIdx ∉ record.events := by
  intro record member
  obtain ⟨shots, salvos, commanded, grammar⟩ :=
    World.run_grammar (pure_run_of_play platform fuel played) record member
  exact ⟨⟨shots, salvos, commanded, grammar⟩, grammar.not_towerBuilt⟩

/-- Over a whole session a projectile goes off at most once, in a step after the
one that launched it, and it is not in flight any more when it has gone off. -/
theorem Boot.play_projectileLedger
    (played : boot.play platform fuel batches = .ok (process, records))
    (few : createdCount records < 2 ^ 32) :
    (detonatedIds (history records) ++ process.session.next.projectileIds).Nodup ∧
      (∀ id ∈ detonatedIds (history records) ++ process.session.next.projectileIds,
        id ∈ launchedIds (history records)) ∧
      ∀ (past : List (StepRecord F)) (record : StepRecord F) (later : List (StepRecord F)),
        records = past ++ record :: later →
        ∀ id ∈ detonatedIds record.deeds, id ∈ launchedIds (history past) := by
  have run := pure_run_of_play platform fuel played
  have ledger := World.run_projectileLedger run rfl
  have launchedOnce : (launchedIds (history records)).Nodup := by
    have created := (World.run_lineage run).created_nodup few
    rw [← (createdIds_perm _).nodup_iff, List.nodup_append] at created
    exact created.2.1
  refine ⟨?_, fun id member => ledger.accounted.subset member, ledger.earlier⟩
  obtain ⟨shuffled, perm, sublist⟩ := ledger.accounted
  exact perm.nodup_iff.mp (launchedOnce.sublist sublist)

end Sessions

section Meadow

open Rational

/-- In the last of these steps a tower fires, and an earlier shot hits a soldier, who dies. -/
theorem soldier_protocol : ∃ process records,
    meadowBoot.play platform 10 ((duel 0 0).take 4) = .ok (process, records) ∧
    ∃ record ∈ records, record.events.length = 3 ∧
      ∃ shots salvos commanded, Grammar record.deeds record.events shots salvos commanded := by
  obtain ⟨⟨process, records⟩, played, checked⟩ := exists_ok_of_succeedsWith
    (meadowBoot.play platform 10 ((duel 0 0).take 4))
    (fun result => decide (∃ record ∈ result.2, record.events.length = 3))
    (by decide +kernel)
  obtain ⟨record, member, three⟩ := of_decide_eq_true checked
  exact ⟨process, records, played, record, member, three,
    (Boot.play_protocol played record member).1⟩

/-- The shot that kills the soldier went off once. -/
theorem soldier_projectileLedger : ∃ process records,
    meadowBoot.play platform 10 (duel 0 0) = .ok (process, records) ∧
    (detonatedIds (history records)).length = 1 ∧
    (detonatedIds (history records) ++ process.session.next.projectileIds).Nodup := by
  obtain ⟨⟨process, records⟩, played, checked⟩ := exists_ok_of_succeedsWith
    (meadowBoot.play platform 10 (duel 0 0))
    (fun result => decide (createdCount result.2 < 2 ^ 32 ∧
      (detonatedIds (history result.2)).length = 1))
    (by decide +kernel)
  obtain ⟨few, one⟩ := of_decide_eq_true checked
  exact ⟨process, records, played, one, (Boot.play_projectileLedger played few).1⟩

end Meadow

end TowerDefence
