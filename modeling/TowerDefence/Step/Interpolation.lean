import TowerDefence.Foundations.Allocation
import TowerDefence.Foundations.Merge
import TowerDefence.Model.Interpolation
import TowerDefence.Model.Rational
import TowerDefence.Step.Movement

/-!
# The loop of `InterpolateEntities`

The loop is the one-pass matching of `Foundations.Merge`.  When the ids differ, `j`
is stepped back before the loop head steps it forward again; at zero it wraps around
twice.  The counter `i` wraps around only behind the last of `2 ^ 32` entities, where
the loop ends unless the other list has as many.
-/

namespace TowerDefence

open Foundations IsEntity

variable {F T : Type}

theorem u32Succ_of_lt {counter : Nat} (inRange : counter + 1 < 2 ^ 32) :
    u32Succ counter = counter + 1 :=
  Nat.mod_eq_of_lt inRange

theorem u32Succ_u32Pred {counter : Nat} (inRange : counter < 2 ^ 32) :
    u32Succ (u32Pred counter) = counter := by
  rw [u32Succ, u32Pred]
  omega

theorem u32Succ_lt (counter : Nat) : u32Succ counter < 2 ^ 32 :=
  Nat.mod_lt _ (Nat.two_pow_pos 32)

variable [Arithmetic F] [Glm F] [IsEntity T F]

theorem idOf_interpolatePair (amount : F) (a b : T) :
    idOf (interpolatePair amount a b) = idOf b := by
  rw [idOf, interpolatePair, entity_withGeometry]
  rfl

variable {prev next outInterpolated : List T} {amount : F} {fuel i j : Nat}

/-! ## One iteration -/

theorem interpolateEntities_ended (ended : ¬(i < prev.length ∧ j < next.length)) :
    interpolateEntities prev next amount fuel i j outInterpolated = .ok outInterpolated := by
  cases fuel with
  | zero =>
      rw [interpolateEntities, if_neg ended]
      rfl
  | succ fuel =>
      rw [interpolateEntities, if_neg ended]
      rfl

theorem interpolateEntities_succ (iInside : i < prev.length) (jInside : j < next.length) :
    interpolateEntities prev next amount (fuel + 1) i j outInterpolated =
      if idOf prev[i] ≠ idOf next[j] then
        interpolateEntities prev next amount fuel (u32Succ i) (u32Succ (u32Pred j)) outInterpolated
      else
        interpolateEntities prev next amount fuel (u32Succ i) (u32Succ j)
          (outInterpolated ++ [interpolatePair amount prev[i] next[j]]) := by
  have readA : readAt prev i = .ok prev[i] := readAt_eq_ok.mpr (List.getElem?_eq_getElem iInside)
  have readB : readAt next j = .ok next[j] := readAt_eq_ok.mpr (List.getElem?_eq_getElem jInside)
  rw [interpolateEntities, if_pos ⟨iInside, jInside⟩, readA, readB]
  rfl

/-- Equal ids: both counters advance. -/
theorem interpolateEntities_match (iInside : i < prev.length) (jInside : j < next.length)
    (same : idOf prev[i] = idOf next[j]) :
    interpolateEntities prev next amount (fuel + 1) i j outInterpolated =
      interpolateEntities prev next amount fuel (u32Succ i) (u32Succ j)
        (outInterpolated ++ [interpolatePair amount prev[i] next[j]]) := by
  rw [interpolateEntities_succ iInside jInside, if_neg (not_not.mpr same)]

/-- Different ids: `j` stays where it is, also at zero. -/
theorem interpolateEntities_skip (iInside : i < prev.length) (jInside : j < next.length)
    (jBounded : j < 2 ^ 32) (different : idOf prev[i] ≠ idOf next[j]) :
    interpolateEntities prev next amount (fuel + 1) i j outInterpolated =
      interpolateEntities prev next amount fuel (u32Succ i) j outInterpolated := by
  rw [interpolateEntities_succ iInside jInside, if_pos different, u32Succ_u32Pred jBounded]

/-! ## The whole loop -/

/-- What keeps the counters from wrapping around too early: the first list is short,
or everything that is left of the second list is still to come in the first one. -/
def CountersFit (prev next : List T) (i j : Nat) : Prop :=
  prev.length < 2 ^ 32 ∧ j ≤ i ∨
    prev.length ≤ 2 ^ 32 ∧ next.length < 2 ^ 32 ∧
      ((next.drop j).map idOf).Sublist ((prev.drop i).map idOf)

namespace CountersFit

omit [Arithmetic F] [Glm F]

theorem j_bounded (fit : CountersFit prev next i j) (iInside : i < prev.length)
    (jInside : j < next.length) : j + 1 < 2 ^ 32 := by
  rcases fit with ⟨short, behind⟩ | ⟨_, short, _⟩
  · omega
  · omega

theorem afterMatch (fit : CountersFit prev next i j) (iInside : i < prev.length)
    (jInside : j < next.length) (same : idOf prev[i] = idOf next[j]) :
    CountersFit prev next (i + 1) (j + 1) := by
  rcases fit with ⟨short, behind⟩ | ⟨full, short, toCome⟩
  · exact .inl ⟨short, Nat.succ_le_succ behind⟩
  · rw [List.drop_eq_getElem_cons iInside, List.drop_eq_getElem_cons jInside, List.map_cons,
      List.map_cons, same, List.cons_sublist_cons] at toCome
    exact .inr ⟨full, short, toCome⟩

theorem afterSkip (fit : CountersFit prev next i j) (iInside : i < prev.length)
    (jInside : j < next.length) (different : idOf prev[i] ≠ idOf next[j]) :
    CountersFit prev next (i + 1) j := by
  rcases fit with ⟨short, behind⟩ | ⟨full, short, toCome⟩
  · exact .inl ⟨short, Nat.le_succ_of_le behind⟩
  · rw [List.drop_eq_getElem_cons iInside, List.drop_eq_getElem_cons jInside, List.map_cons,
      List.map_cons, List.sublist_cons_iff] at toCome
    cases toCome with
    | inl later =>
        rw [← List.map_cons, ← List.drop_eq_getElem_cons jInside] at later
        exact .inr ⟨full, short, later⟩
    | inr here =>
        obtain ⟨_, same, _⟩ := here
        exact absurd (List.cons.inj same).1.symm different

/-- Where `i` wraps around, the second list is used up. -/
theorem ended (fit : CountersFit prev next i j) (iInRange : i ≤ prev.length)
    (wraps : ¬i < 2 ^ 32) : next.length ≤ j := by
  rcases fit with ⟨short, _⟩ | ⟨full, _, toCome⟩
  · omega
  · rw [List.drop_eq_nil_of_le (show prev.length ≤ i by omega), List.map_nil, List.sublist_nil,
      List.map_eq_nil_iff, List.drop_eq_nil_iff] at toCome
    exact toCome

end CountersFit

/-- The loop with its `u32` counters is the one-pass matching of the rests of the
two lists. -/
theorem interpolateEntities_eq (outInterpolated : List T) (fit : CountersFit prev next i j)
    (iInRange : i ≤ prev.length) (enough : prev.length ≤ fuel + i) :
    interpolateEntities prev next amount fuel i j outInterpolated =
      .ok (outInterpolated ++
        mergeBy idOf (interpolatePair amount) (prev.drop i) (next.drop j)) := by
  induction fuel generalizing i j outInterpolated with
  | zero =>
      rw [interpolateEntities_ended (by omega), List.drop_eq_nil_of_le (by omega), mergeBy,
        List.append_nil]
  | succ fuel ih =>
      by_cases inside : i < prev.length ∧ j < next.length
      · rcases inside with ⟨iInside, jInside⟩
        have jBounded := fit.j_bounded iInside jInside
        -- the rest of the loop, also if the counter of the first list wraps around
        have continued : ∀ out : List T, ∀ jNext, CountersFit prev next (i + 1) jNext →
            interpolateEntities prev next amount fuel (u32Succ i) jNext out =
              .ok (out ++ mergeBy idOf (interpolatePair amount) (prev.drop (i + 1))
                (next.drop jNext)) := by
          intro out jNext fitNext
          by_cases counts : i + 1 < 2 ^ 32
          · rw [u32Succ_of_lt counts]
            exact ih out fitNext iInside (by omega)
          · have jEnded := fitNext.ended iInside counts
            rw [interpolateEntities_ended fun both => absurd both.2 (Nat.not_lt.mpr jEnded),
              List.drop_eq_nil_of_le jEnded, mergeBy_nil, List.append_nil]
        rw [List.drop_eq_getElem_cons iInside, List.drop_eq_getElem_cons jInside, mergeBy]
        by_cases same : idOf prev[i] = idOf next[j]
        · rw [interpolateEntities_match iInside jInside same, if_pos same,
            u32Succ_of_lt jBounded, continued _ _ (fit.afterMatch iInside jInside same),
            List.append_assoc, List.singleton_append]
        · rw [interpolateEntities_skip iInside jInside (by omega) same, if_neg same,
            continued _ _ (fit.afterSkip iInside jInside same), ← List.drop_eq_getElem_cons jInside]
      · rw [interpolateEntities_ended inside]
        by_cases iInside : i < prev.length
        · rw [List.drop_eq_nil_of_le (show next.length ≤ j by omega), mergeBy_nil, List.append_nil]
        · rw [List.drop_eq_nil_of_le (show prev.length ≤ i by omega), mergeBy, List.append_nil]

/-- What the loop produces for a short first list, with enough fuel. -/
theorem interpolateEntities_ids (prev next : List T) (amount : F) (fuel : Nat)
    (prevShort : prev.length < 2 ^ 32) (enough : prev.length ≤ fuel) :
    ∃ out, interpolateEntities prev next amount fuel 0 0 [] = .ok out ∧
      out.map idOf = matched (prev.map idOf) (next.map idOf) := by
  refine ⟨mergeBy idOf (interpolatePair amount) prev next, ?_,
    map_mergeBy (idOf_interpolatePair amount) prev next⟩
  exact interpolateEntities_eq [] (.inl ⟨prevShort, le_rfl⟩) (Nat.zero_le _) enough

/-! ## Distinct ids -/

omit [Arithmetic F] [Glm F] in
theorem CountersFit.initially (prevIds : ∀ item ∈ prev, idOf item < 2 ^ 32)
    (nextIds : ∀ item ∈ next, idOf item < 2 ^ 32)
    (matchable : Matchable (prev.map idOf) (next.map idOf))
    (short : prev.length < 2 ^ 32 ∨ next.length < 2 ^ 32) : CountersFit prev next 0 0 := by
  by_cases prevShort : prev.length < 2 ^ 32
  · exact .inl ⟨prevShort, le_rfl⟩
  · obtain ⟨bounded, all⟩ := nodup_below matchable.earlierNodup (List.forall_mem_map.mpr prevIds)
    rw [List.length_map] at bounded all
    have nextBelow : ∀ id ∈ next.map idOf, id < 2 ^ 32 := List.forall_mem_map.mpr nextIds
    have common : next.map idOf ⊆ prev.map idOf := by
      intro id member
      exact all (Nat.not_lt.mp prevShort) id (nextBelow id member)
    exact .inr ⟨bounded, short.resolve_left prevShort, matchable.sublist_of_subset common⟩

/-- The entity between `a` and `b`: it differs from `b` in the geometry only. -/
structure IsBetween (amount : F) (a b result : T) : Prop where
  position : (entity result).position =
    Glm.lerp (entity a).position (entity b).position amount
  others : result = withGeometry b (entity result).position (entity result).rotation

theorem interpolatePair_isBetween (amount : F) (a b : T) :
    IsBetween amount a b (interpolatePair amount a b) := by
  constructor
  · rw [interpolatePair, entity_withGeometry]
  · rw [interpolatePair, entity_withGeometry]

/-- For matchable lists of which not both have `2 ^ 32` entities the loop ends, reads
inside the lists only, and appends one result for each common id, in order. -/
theorem interpolateEntities_appends (amount : F) (outInterpolated : List T)
    (prevIds : ∀ item ∈ prev, idOf item < 2 ^ 32) (nextIds : ∀ item ∈ next, idOf item < 2 ^ 32)
    (matchable : Matchable (prev.map idOf) (next.map idOf))
    (short : prev.length < 2 ^ 32 ∨ next.length < 2 ^ 32) :
    ∃ results : List T,
      (∀ fuel : Nat, prev.length ≤ fuel →
        interpolateEntities prev next amount fuel 0 0 outInterpolated =
          .ok (outInterpolated ++ results)) ∧
      results.map idOf = (next.map idOf).filter (· ∈ prev.map idOf) ∧
      ∀ result ∈ results, ∃ a b : T, a ∈ prev ∧ b ∈ next ∧ idOf a = idOf b ∧
        idOf result = idOf b ∧ IsBetween amount a b result := by
  have fit := CountersFit.initially prevIds nextIds matchable short
  refine ⟨mergeBy idOf (interpolatePair amount) prev next, ?_, ?_, ?_⟩
  · intro fuel enough
    exact interpolateEntities_eq outInterpolated fit (Nat.zero_le _) enough
  · rw [map_mergeBy (idOf_interpolatePair amount), matchable.matched_eq]
  · intro result member
    obtain ⟨a, aMember, b, bMember, same, rfl⟩ := exists_of_mem_mergeBy member
    exact ⟨a, b, aMember, bMember, same, idOf_interpolatePair amount a b,
      interpolatePair_isBetween amount a b⟩

/-- Two lists of `2 ^ 32` entities with the same ids: both counters wrap around
together. -/
theorem interpolateEntities_outOfFuel {entities : List T} (full : entities.length = 2 ^ 32)
    (iInside : i < 2 ^ 32) (outInterpolated : List T) :
    interpolateEntities entities entities amount fuel i i outInterpolated = .error .outOfFuel := by
  have inside : i < entities.length := full ▸ iInside
  induction fuel generalizing i outInterpolated with
  | zero => rw [interpolateEntities, if_pos ⟨inside, inside⟩]
  | succ fuel ih =>
      rw [interpolateEntities_match inside inside rfl]
      exact ih (u32Succ_lt i) _ (full ▸ u32Succ_lt i)

section Crowds

open Rational

/-- Enemies with the given ids, one unit of length apart. -/
def crowd (ids : List Nat) : List (Enemy ℚ) :=
  ids.map fun id => { Enemy.fresh ℚ with id, position := ⟨id, 0⟩ }

theorem crowd_ids (ids : List Nat) : (crowd ids).map idOf = ids := by
  rw [crowd, List.map_map]
  exact List.map_id ids

/-- Enemy 0 has left and enemy 7 has entered. -/
theorem crowd_appends : ∃ results : List (Enemy ℚ),
    (∀ fuel : Nat, 3 ≤ fuel →
      interpolateEntities (crowd [0, 2, 5]) (crowd [2, 5, 7]) (1 / 2 : ℚ) fuel 0 0 [] =
        .ok results) ∧
    results.map idOf = [2, 5] := by
  have prevIds : ∀ item ∈ crowd [0, 2, 5], idOf item < 2 ^ 32 := by decide
  have nextIds : ∀ item ∈ crowd [2, 5, 7], idOf item < 2 ^ 32 := by decide
  have matchable : Matchable ((crowd [0, 2, 5]).map idOf) ((crowd [2, 5, 7]).map idOf) := by
    rw [crowd_ids, crowd_ids]
    exact ⟨by decide, by decide, by decide, by decide⟩
  obtain ⟨results, executed, ids, _⟩ := interpolateEntities_appends (1 / 2 : ℚ) [] prevIds nextIds
    matchable (.inl (by decide))
  exact ⟨results, executed, ids⟩

/-- Both lists hold every `u32` as an id: the loop never ends. -/
theorem crowd_never_ends :
    (∀ item ∈ crowd (List.range (2 ^ 32)), idOf item < 2 ^ 32) ∧
    Matchable ((crowd (List.range (2 ^ 32))).map idOf) ((crowd (List.range (2 ^ 32))).map idOf) ∧
    ∀ fuel : Nat, interpolateEntities (crowd (List.range (2 ^ 32))) (crowd (List.range (2 ^ 32)))
      (1 / 2 : ℚ) fuel 0 0 [] = .error .outOfFuel := by
  have ids := crowd_ids (List.range (2 ^ 32))
  refine ⟨?_, ?_, ?_⟩
  · intro item member
    have listed := List.mem_map_of_mem (f := idOf) member
    rw [ids] at listed
    exact List.mem_range.mp listed
  · rw [ids]
    exact .self List.nodup_range
  · intro fuel
    apply interpolateEntities_outOfFuel _ (Nat.two_pow_pos 32)
    rw [crowd, List.length_map, List.length_range]

end Crowds

end TowerDefence
