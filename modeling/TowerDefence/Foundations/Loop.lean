import Mathlib.Data.List.Forall2

/-!
# Loops that may fail

A `for` loop whose body may fail is a `List.foldlM` over `Except`.  This module
has one rule for each kind of fact about such a loop: an invariant of its
successful executions, its success, the absence of one kind of fault, and the
agreement of two executions of related bodies.
-/

namespace TowerDefence.Foundations

variable {ε α β γ δ : Type}

@[simp] theorem pure_eq_ok {value result : α} :
    (pure value : Except ε α) = .ok result ↔ value = result := by
  constructor
  · intro equal
    cases equal
    rfl
  · intro equal
    rw [equal]
    rfl

/-- A sequence of two executions succeeds when both do. -/
theorem bind_eq_ok {first : Except ε α} {rest : α → Except ε β} {result : β} :
    (first >>= rest) = .ok result ↔
      ∃ value, first = .ok value ∧ rest value = .ok result := by
  cases first with
  | error fault =>
      constructor
      · intro executed
        cases executed
      · intro executed
        rcases executed with ⟨value, impossible, _⟩
        cases impossible
  | ok value =>
      constructor
      · intro executed
        exact ⟨value, rfl, executed⟩
      · intro executed
        rcases executed with ⟨other, equal, executed⟩
        cases equal
        exact executed

/-- The execution succeeds with a result that passes the check. -/
def succeedsWith (check : α → Bool) : Except ε α → Bool
  | .ok value => check value
  | .error _ => false

theorem exists_ok_of_succeedsWith (execution : Except ε α) (check : α → Bool)
    (succeeds : succeedsWith check execution = true) :
    ∃ value, execution = .ok value ∧ check value = true := by
  cases execution with
  | ok value => exact ⟨value, rfl, succeeds⟩
  | error fault => cases succeeds

/-! ## Invariants -/

section Invariants

variable {body : β → α → Except ε β} {items : List α} {start finish : β}

/-- Invariant rule whose invariant knows which items the loop has processed, and whose
step knows where in the list it is. -/
theorem foldlM_progress_at (inv : List α → β → Prop)
    (executed : items.foldlM body start = .ok finish) (initially : inv [] start)
    (preserved : ∀ done item later state state', items = done ++ item :: later →
      inv done state → body state item = .ok state' → inv (done ++ [item]) state') :
    inv items finish := by
  suffices general : ∀ rest done state, items = done ++ rest → inv done state →
      rest.foldlM body state = .ok finish → inv items finish by
    exact general items [] start rfl initially executed
  intro rest
  induction rest with
  | nil =>
      intro done state split holds ended
      rw [List.foldlM_nil, pure_eq_ok] at ended
      rw [split, List.append_nil, ← ended]
      exact holds
  | cons item rest ih =>
      intro done state split holds ended
      rw [List.foldlM_cons, bind_eq_ok] at ended
      rcases ended with ⟨state', stepped, ended⟩
      apply ih (done ++ [item]) state' _ (preserved done item rest state state' split holds stepped)
        ended
      rw [split, List.append_assoc, List.singleton_append]

/-- Invariant rule whose invariant knows which items the loop has processed. -/
theorem foldlM_progress (inv : List α → β → Prop)
    (executed : items.foldlM body start = .ok finish) (initially : inv [] start)
    (preserved : ∀ done item state state', item ∈ items → inv done state →
      body state item = .ok state' → inv (done ++ [item]) state') :
    inv items finish := by
  apply foldlM_progress_at inv executed initially
  intro done item later state state' split
  exact preserved done item state state' (split ▸ List.mem_append_right done List.mem_cons_self)

/-- Invariant rule. -/
theorem foldlM_invariant (inv : β → Prop)
    (executed : items.foldlM body start = .ok finish) (initially : inv start)
    (preserved : ∀ item state state', item ∈ items → inv state →
      body state item = .ok state' → inv state') : inv finish :=
  foldlM_progress (fun _ => inv) executed initially
    fun _ item state state' member holds stepped => preserved item state state' member holds stepped

/-- Every item has its iteration. -/
theorem foldlM_iteration (executed : items.foldlM body start = .ok finish) {slot : Nat} {item : α}
    (found : items[slot]? = some item) :
    ∃ before after, (items.take slot).foldlM body start = .ok before ∧
      body before item = .ok after ∧ (items.drop (slot + 1)).foldlM body after = .ok finish := by
  obtain ⟨inBounds, isItem⟩ := List.getElem?_eq_some_iff.mp found
  have split : items = items.take slot ++ item :: items.drop (slot + 1) := by
    rw [← isItem, ← List.drop_eq_getElem_cons inBounds, List.take_append_drop]
  rw [split, List.foldlM_append, bind_eq_ok] at executed
  rcases executed with ⟨before, reaches, rest⟩
  rw [List.foldlM_cons, bind_eq_ok] at rest
  rcases rest with ⟨after, stepped, rest⟩
  exact ⟨before, after, reaches, stepped, rest⟩

/-- A loop succeeds if every iteration does, from every state of an invariant. -/
theorem foldlM_succeeds (inv : β → Prop) (initially : inv start)
    (succeeds : ∀ item state, item ∈ items → inv state →
      ∃ state', body state item = .ok state' ∧ inv state') :
    ∃ finish, items.foldlM body start = .ok finish := by
  induction items generalizing start with
  | nil => exact ⟨start, rfl⟩
  | cons item items ih =>
      obtain ⟨state, stepped, holds⟩ := succeeds item start List.mem_cons_self initially
      obtain ⟨finish, executed⟩ := ih holds fun other state member =>
        succeeds other state (List.mem_cons_of_mem _ member)
      refine ⟨finish, ?_⟩
      rw [List.foldlM_cons, bind_eq_ok]
      exact ⟨state, stepped, executed⟩

end Invariants

/-! ## Absence of a fault -/

/-- The execution does not end with `fault`, and if it succeeds its result
satisfies `post`. -/
def Avoids (fault : ε) (post : α → Prop) : Except ε α → Prop
  | .ok value => post value
  | .error other => other ≠ fault

namespace Avoids

variable {fault : ε} {post : α → Prop} {post' : β → Prop}

theorem of_pure {value : α} (holds : post value) :
    Avoids fault post (pure value : Except ε α) := holds

theorem mono {weaker : α → Prop} {execution : Except ε α}
    (avoids : Avoids fault post execution) (weaken : ∀ value, post value → weaker value) :
    Avoids fault weaker execution := by
  cases execution with
  | ok value => exact weaken value avoids
  | error other => exact avoids

theorem bind {first : Except ε α} {rest : α → Except ε β} (avoids : Avoids fault post first)
    (continues : ∀ value, post value → Avoids fault post' (rest value)) :
    Avoids fault post' (first >>= rest) := by
  cases first with
  | ok value => exact continues value avoids
  | error other => exact avoids

theorem ne_error {execution : Except ε α} (avoids : Avoids fault post execution) :
    execution ≠ .error fault := by
  intro failed
  rw [failed] at avoids
  exact avoids rfl

theorem of_ok {execution : Except ε α} {value : α} (avoids : Avoids fault post execution)
    (executed : execution = .ok value) : post value := by
  rw [executed] at avoids
  exact avoids

/-- An execution that avoids every other fault as well succeeds. -/
theorem exists_ok {execution : Except ε α} (avoids : Avoids fault post execution)
    (others : ∀ other, fault ≠ other → Avoids other (fun _ => True) execution) :
    ∃ value, execution = .ok value ∧ post value := by
  cases execution with
  | ok value => exact ⟨value, rfl, avoids⟩
  | error other => exact absurd rfl (others other avoids.symm)

/-- A postcondition that is known of every success may be added. -/
theorem of_spec {execution : Except ε α} (avoids : Avoids fault (fun _ => True) execution)
    (spec : ∀ value, execution = .ok value → post value) : Avoids fault post execution := by
  cases execution with
  | ok value => exact spec value rfl
  | error other => exact avoids

theorem discard {execution : Except ε α} (avoids : Avoids fault post execution) :
    Avoids fault (fun _ => True) (discard execution) := by
  cases execution with
  | ok value => exact trivial
  | error other => exact avoids

/-- Rule for a loop without a result. -/
theorem forM {body : α → Except ε PUnit} {items : List α}
    (each : ∀ item ∈ items, Avoids fault (fun _ => True) (body item)) :
    Avoids fault (fun _ => True) (items.forM body) := by
  induction items with
  | nil => exact trivial
  | cons item items ih =>
      rw [List.forM_eq_forM, List.forM_cons]
      apply bind (each item List.mem_cons_self)
      intro _ _
      exact ih fun other member => each other (List.mem_cons_of_mem _ member)

/-- Rule for a loop that maps every item. -/
theorem mapM {body : α → Except ε β} {items : List α}
    (each : ∀ item ∈ items, Avoids fault (fun _ => True) (body item)) :
    Avoids fault (fun _ => True) (items.mapM body) := by
  induction items with
  | nil => exact trivial
  | cons item items ih =>
      rw [List.mapM_cons]
      apply bind (each item List.mem_cons_self)
      intro _ _
      apply bind (ih fun other member => each other (List.mem_cons_of_mem _ member))
      intro _ _
      exact trivial

/-- Loop rule. -/
theorem foldlM {body : β → α → Except ε β} {items : List α} {start : β} (inv : β → Prop)
    (initially : inv start)
    (preserved : ∀ item state, item ∈ items → inv state →
      Avoids fault inv (body state item)) :
    Avoids fault inv (items.foldlM body start) := by
  induction items generalizing start with
  | nil => exact initially
  | cons item items ih =>
      rw [List.foldlM_cons]
      apply bind (preserved item start List.mem_cons_self initially)
      intro state holds
      exact ih holds fun other state member =>
        preserved other state (List.mem_cons_of_mem _ member)

end Avoids

/-! ## Agreement -/

/-- Two executions agree when they fail with the same fault, or succeed with
related results. -/
inductive Agree (related : α → β → Prop) : Except ε α → Except ε β → Prop where
  | ok {left : α} {right : β} : related left right → Agree related (.ok left) (.ok right)
  | error (fault : ε) : Agree related (.error fault) (.error fault)

namespace Agree

variable {related : α → β → Prop} {related' : γ → δ → Prop}

theorem refl (execution : Except ε α) :
    Agree (fun left right : α => left = right) execution execution := by
  cases execution with
  | ok value => exact .ok rfl
  | error fault => exact .error fault

theorem bind {left : Except ε α} {right : Except ε β} {leftRest : α → Except ε γ}
    {rightRest : β → Except ε δ} (agree : Agree related left right)
    (continues : ∀ a b, related a b → Agree related' (leftRest a) (rightRest b)) :
    Agree related' (left >>= leftRest) (right >>= rightRest) := by
  cases agree with
  | ok holds => exact continues _ _ holds
  | error fault => exact .error fault

/-- Post-processing the left result. -/
theorem map_left {left : Except ε α} {right : Except ε β} {image : α → γ}
    {related' : γ → β → Prop} (agree : Agree related left right)
    (continues : ∀ a b, related a b → related' (image a) b) :
    Agree related' (left >>= fun a => pure (image a)) right := by
  cases agree with
  | ok holds => exact .ok (continues _ _ holds)
  | error fault => exact .error fault

/-- Continuations that agree on related results give equal executions. -/
theorem bind_eq {left : Except ε α} {right : Except ε β} {leftRest : α → Except ε γ}
    {rightRest : β → Except ε γ} (agree : Agree related left right)
    (same : ∀ a b, left = .ok a → right = .ok b → related a b → leftRest a = rightRest b) :
    left >>= leftRest = right >>= rightRest := by
  cases agree with
  | ok holds => exact same _ _ rfl rfl holds
  | error fault => rfl

/-- A successful execution is matched by the one that agrees with it. -/
theorem exists_ok {left : Except ε α} {right : Except ε β} {a : α}
    (agree : Agree related left right) (executed : left = .ok a) :
    ∃ b, right = .ok b ∧ related a b := by
  cases agree with
  | ok holds =>
      cases executed
      exact ⟨_, rfl, holds⟩
  | error fault => cases executed

theorem exists_ok_left {left : Except ε α} {right : Except ε β} {b : β}
    (agree : Agree related left right) (executed : right = .ok b) :
    ∃ a, left = .ok a ∧ related a b := by
  cases agree with
  | ok holds =>
      cases executed
      exact ⟨_, rfl, holds⟩
  | error fault => cases executed

/-- An execution avoids the faults that the one it agrees with avoids. -/
theorem avoids {left : Except ε α} {right : Except ε β} {fault : ε} {post : α → Prop}
    {post' : β → Prop} (agree : Agree related left right) (avoids : Avoids fault post' right)
    (transfer : ∀ a b, related a b → post' b → post a) : Avoids fault post left := by
  cases agree with
  | ok holds => exact transfer _ _ holds avoids
  | error other => exact avoids

/-- Simulation rule for two loops over one list. -/
theorem foldlM {leftBody : α → γ → Except ε α} {rightBody : β → γ → Except ε β}
    {items : List γ} {left : α} {right : β} (initially : related left right)
    (preserved : ∀ item a b, item ∈ items → related a b →
      Agree related (leftBody a item) (rightBody b item)) :
    Agree related (items.foldlM leftBody left) (items.foldlM rightBody right) := by
  induction items generalizing left right with
  | nil => exact .ok initially
  | cons item items ih =>
      rw [List.foldlM_cons, List.foldlM_cons]
      apply bind (preserved item left right List.mem_cons_self initially)
      intro a b holds
      exact ih holds fun other a b member =>
        preserved other a b (List.mem_cons_of_mem _ member)

end Agree

/-! ## Results item by item -/

/-- A loop that collects a result for every item. -/
theorem forall₂_of_mapM {body : α → Except ε β} {items : List α} {results : List β}
    (executed : items.mapM body = .ok results) :
    List.Forall₂ (fun item result => body item = .ok result) items results := by
  induction items generalizing results with
  | nil =>
      rw [List.mapM_nil, pure_eq_ok] at executed
      exact executed ▸ .nil
  | cons item items ih =>
      simp only [List.mapM_cons, bind_eq_ok, pure_eq_ok] at executed
      rcases executed with ⟨result, first, others, rest, rfl⟩
      exact .cons first (ih rest)

theorem exists_mapM {body : α → Except ε β} {items : List α}
    (succeeds : ∀ item ∈ items, ∃ result, body item = .ok result) :
    ∃ results, items.mapM body = .ok results := by
  induction items with
  | nil => exact ⟨[], rfl⟩
  | cons item items ih =>
      obtain ⟨result, first⟩ := succeeds item List.mem_cons_self
      obtain ⟨results, rest⟩ :=
        ih fun other member => succeeds other (List.mem_cons_of_mem _ member)
      refine ⟨result :: results, ?_⟩
      simp only [List.mapM_cons, bind_eq_ok, pure_eq_ok]
      exact ⟨result, first, results, rest, rfl⟩

/-- A loop whose body yields something for some of the items only. -/
theorem exists_mapM_some {body : α → Except ε (Option β)} {yields : α → Bool}
    {related : α → β → Prop} {items : List α}
    (some : ∀ item ∈ items, yields item = true →
      ∃ result, body item = .ok (some result) ∧ related item result)
    (none : ∀ item ∈ items, yields item = false → body item = .ok none) :
    ∃ results, items.mapM body = .ok results ∧
      List.Forall₂ related (items.filter yields) (results.filterMap id) := by
  induction items with
  | nil => exact ⟨[], rfl, .nil⟩
  | cons item items ih =>
      rw [List.forall_mem_cons] at some none
      obtain ⟨results, rest, relatedRest⟩ := ih some.2 none.2
      cases yielded : yields item with
      | false =>
          refine ⟨.none :: results, ?_, ?_⟩
          · simp only [List.mapM_cons, bind_eq_ok, pure_eq_ok]
            exact ⟨.none, none.1 yielded, results, rest, rfl⟩
          · rw [List.filter_cons_of_neg (by simp [yielded])]
            exact relatedRest
      | true =>
          obtain ⟨result, first, relatedFirst⟩ := some.1 yielded
          refine ⟨.some result :: results, ?_, ?_⟩
          · simp only [List.mapM_cons, bind_eq_ok, pure_eq_ok]
            exact ⟨.some result, first, results, rest, rfl⟩
          · rw [List.filter_cons_of_pos yielded]
            exact .cons relatedFirst relatedRest

/-- A loop that appends a result for every item. -/
theorem foldlM_appends {body : List β → α → Except ε (List β)} {items : List α}
    {holds : α → β → Prop}
    (appends : ∀ item ∈ items, ∀ collected, ∃ result, holds item result ∧
      body collected item = .ok (collected ++ [result])) (start : List β) :
    ∃ results, List.Forall₂ holds items results ∧
      items.foldlM body start = .ok (start ++ results) := by
  induction items generalizing start with
  | nil => exact ⟨[], .nil, by rw [List.append_nil]; rfl⟩
  | cons item items ih =>
      obtain ⟨result, isResult, stepped⟩ := appends item List.mem_cons_self start
      obtain ⟨results, areResults, executed⟩ := ih
        (fun other member => appends other (List.mem_cons_of_mem _ member)) (start ++ [result])
      refine ⟨result :: results, .cons isResult areResults, ?_⟩
      rw [List.foldlM_cons, bind_eq_ok]
      refine ⟨_, stepped, ?_⟩
      rw [executed, List.append_assoc, List.singleton_append]

end TowerDefence.Foundations
