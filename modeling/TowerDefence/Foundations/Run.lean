import TowerDefence.Foundations.Loop

/-!
# Runs of a partial step function

A step function takes a state and an input and either fails or returns the next
state and an output.  A run feeds it a list of inputs.  `Run` is the relation
between the start, the inputs, the outputs and the end of a run; it grows at the
end, so that induction on it proves what holds after every step.
-/

namespace TowerDefence.Foundations

variable {ε σ ι ω : Type}

/-- Execute a step function on a list of inputs, collecting the outputs. -/
def runFrom (step : σ → ι → Except ε (σ × ω)) : σ → List ι → Except ε (σ × List ω)
  | state, [] => .ok (state, [])
  | state, input :: inputs => do
      let (state, output) ← step state input
      let (state, outputs) ← runFrom step state inputs
      pure (state, output :: outputs)

/-- The first step of an execution. -/
theorem exists_of_runFrom_cons {step : σ → ι → Except ε (σ × ω)} {start finish : σ} {input : ι}
    {inputs : List ι} {outputs : List ω}
    (executed : runFrom step start (input :: inputs) = .ok (finish, outputs)) :
    ∃ next output rest, step start input = .ok (next, output) ∧
      runFrom step next inputs = .ok (finish, rest) ∧ outputs = output :: rest := by
  rw [runFrom, bind_eq_ok] at executed
  rcases executed with ⟨⟨next, output⟩, stepped, executed⟩
  rw [bind_eq_ok] at executed
  rcases executed with ⟨⟨_, rest⟩, continued, assembled⟩
  cases assembled
  exact ⟨next, output, rest, stepped, continued, rfl⟩

/-- A list of inputs can be split. -/
theorem runFrom_append (step : σ → ι → Except ε (σ × ω)) (start : σ) (inputs later : List ι) :
    runFrom step start (inputs ++ later) = (do
      let (state, outputs) ← runFrom step start inputs
      let (state, laterOutputs) ← runFrom step state later
      pure (state, outputs ++ laterOutputs)) := by
  induction inputs generalizing start with
  | nil =>
      show runFrom step start later = runFrom step start later >>= fun result => pure result
      rw [bind_pure]
  | cons first inputs ih =>
      simp only [List.cons_append, runFrom, ih, bind_assoc, pure_bind]

/-- Inputs that were not used have no output to be paired with. -/
theorem zipWith_take_length {α : Type} (pair : ι → ω → α) (inputs : List ι) (outputs : List ω) :
    List.zipWith pair (inputs.take outputs.length) outputs = List.zipWith pair inputs outputs := by
  induction inputs generalizing outputs with
  | nil => rw [List.take_nil]
  | cons input inputs ih =>
      cases outputs with
      | nil => rfl
      | cons output outputs => rw [List.length_cons, List.take_succ_cons, List.zipWith_cons_cons,
          List.zipWith_cons_cons, ih]

/-- The last input can be split off. -/
theorem runFrom_append_single (step : σ → ι → Except ε (σ × ω)) (start : σ) (inputs : List ι)
    (input : ι) :
    runFrom step start (inputs ++ [input]) = (do
      let (state, outputs) ← runFrom step start inputs
      let (state, output) ← step state input
      pure (state, outputs ++ [output])) := by
  rw [runFrom_append]
  simp only [runFrom, bind_assoc, pure_bind]
  rfl

/-- A step function that avoids a fault under an invariant which it preserves
avoids the fault on every list of inputs. -/
theorem Avoids.runFrom {step : σ → ι → Except ε (σ × ω)} {fault : ε} (inv : σ → Prop) {start : σ}
    {inputs : List ι} (initially : inv start)
    (preserved : ∀ input state, input ∈ inputs → inv state →
      Avoids fault (fun result => inv result.1) (step state input)) :
    Avoids fault (fun result => inv result.1) (Foundations.runFrom step start inputs) := by
  induction inputs generalizing start with
  | nil => exact initially
  | cons input inputs ih =>
      rw [Foundations.runFrom]
      apply Avoids.bind (preserved input start List.mem_cons_self initially)
      intro stepped holds
      apply Avoids.bind (ih holds fun other state member =>
        preserved other state (List.mem_cons_of_mem _ member))
      intro finished holdsLast
      exact holdsLast

/-- The run relation of a step function. -/
inductive Run (step : σ → ι → Except ε (σ × ω)) : σ → List ι → List ω → σ → Prop where
  | nil (state : σ) : Run step state [] [] state
  | snoc {start state next : σ} {inputs : List ι} {outputs : List ω} {input : ι} {output : ω} :
      Run step start inputs outputs state → step state input = .ok (next, output) →
      Run step start (inputs ++ [input]) (outputs ++ [output]) next

namespace Run

variable {step : σ → ι → Except ε (σ × ω)} {start middle finish : σ}
variable {inputs later : List ι} {outputs laterOutputs : List ω}

/-- Runs compose. -/
theorem append (first : Run step start inputs outputs middle)
    (second : Run step middle later laterOutputs finish) :
    Run step start (inputs ++ later) (outputs ++ laterOutputs) finish := by
  induction second with
  | nil => simpa using first
  | snoc _ stepped ih =>
      rw [← List.append_assoc, ← List.append_assoc]
      exact .snoc ih stepped

/-- A single step is a run. -/
theorem single {input : ι} {output : ω} (stepped : step start input = .ok (finish, output)) :
    Run step start [input] [output] finish := by
  simpa using Run.snoc (.nil start) stepped

/-- Every input has its output. -/
theorem length_eq (run : Run step start inputs outputs finish) :
    inputs.length = outputs.length := by
  induction run with
  | nil => rfl
  | snoc _ _ ih => rw [List.length_append, List.length_append, ih, List.length_singleton,
      List.length_singleton]

/-- A successful execution of the step function on a list of inputs is a run. -/
theorem of_runFrom (executed : runFrom step start inputs = .ok (finish, outputs)) :
    Run step start inputs outputs finish := by
  induction inputs generalizing start outputs with
  | nil =>
      simp only [runFrom, Except.ok.injEq, Prod.mk.injEq] at executed
      rcases executed with ⟨rfl, rfl⟩
      exact .nil _
  | cons input inputs ih =>
      obtain ⟨next, output, rest, stepped, continued, rfl⟩ := exists_of_runFrom_cons executed
      exact append (single stepped) (ih continued)

/-- The executions of a list of inputs and of a longer one differ by a run. -/
theorem of_runFrom_append (executed : runFrom step start inputs = .ok (middle, outputs))
    (continued : runFrom step start (inputs ++ later) = .ok (finish, laterOutputs)) :
    ∃ rest, Run step middle later rest finish ∧ laterOutputs = outputs ++ rest := by
  rw [runFrom_append, executed, bind_eq_ok] at continued
  rcases continued with ⟨_, equal, continued⟩
  cases equal
  rw [bind_eq_ok] at continued
  rcases continued with ⟨⟨_, rest⟩, continued, assembled⟩
  rw [pure_eq_ok] at assembled
  cases assembled
  exact ⟨rest, of_runFrom continued, rfl⟩

/-- A run is an execution of the step function on its inputs. -/
theorem runFrom_eq (run : Run step start inputs outputs finish) :
    runFrom step start inputs = .ok (finish, outputs) := by
  induction run with
  | nil => rfl
  | snoc _ stepped ih =>
      rw [runFrom_append_single, ih]
      show (step _ _ >>= _) = _
      rw [stepped]
      rfl

end Run

/-! ## Items and those before them -/

/-- What holds of every item of a list and the items before it. -/
def EachAfter {α : Type} (holds : List α → α → Prop) (items : List α) : Prop :=
  ∀ past item later, items = past ++ item :: later → holds past item

namespace EachAfter

variable {α : Type} {holds : List α → α → Prop} {items : List α}

theorem nil : EachAfter holds [] := by
  intro past item later split
  exact absurd split.symm (List.append_ne_nil_of_right_ne_nil _ (List.cons_ne_nil _ _))

theorem concat (earlier : EachAfter holds items) {last : α} (atLast : holds items last) :
    EachAfter holds (items ++ [last]) := by
  intro past item later split
  cases List.eq_nil_or_concat' later with
  | inl none =>
      rw [none] at split
      obtain ⟨same, isLast⟩ := List.append_inj' split rfl
      rwa [← same, ← List.singleton_inj.mp isLast]
  | inr some =>
      obtain ⟨others, final, grown⟩ := some
      rw [grown, ← List.cons_append, ← List.append_assoc] at split
      exact earlier past item others (List.append_inj' split rfl).1

/-- The items and those before them, by their places. -/
theorem iff_zipIdx : EachAfter holds items ↔
    ∀ entry ∈ items.zipIdx, holds (items.take entry.2) entry.1 := by
  constructor
  · intro each entry member
    have found : items[entry.2]? = some entry.1 := List.mk_mem_zipIdx_iff_getElem?.mp member
    obtain ⟨lt, isItem⟩ := List.getElem?_eq_some_iff.mp found
    apply each (items.take entry.2) entry.1 (items.drop (entry.2 + 1))
    rw [← isItem, ← List.drop_eq_getElem_cons lt, List.take_append_drop]
  · intro each past item later split
    have listed : (item, past.length) ∈ items.zipIdx := by
      rw [List.mk_mem_zipIdx_iff_getElem?, split, List.getElem?_append_right (Nat.le_refl _),
        Nat.sub_self]
      rfl
    have here := each (item, past.length) listed
    rwa [split, List.take_left] at here

instance [∀ past item, Decidable (holds past item)] : Decidable (EachAfter holds items) :=
  decidable_of_iff _ iff_zipIdx.symm

end EachAfter

/-! ## The states of an execution -/

/-- The states from which the execution of the inputs takes its steps. -/
def statesFrom (step : σ → ι → Except ε (σ × ω)) : σ → List ι → List σ
  | _, [] => []
  | state, input :: inputs =>
      state ::
        match step state input with
        | .ok (next, _) => statesFrom step next inputs
        | .error _ => []

/-- One more input is executed from the state that the others reach. -/
theorem statesFrom_append_single {step : σ → ι → Except ε (σ × ω)} {start state : σ}
    {inputs : List ι} {outputs : List ω}
    (executed : runFrom step start inputs = .ok (state, outputs)) (input : ι) :
    statesFrom step start (inputs ++ [input]) = statesFrom step start inputs ++ [state] := by
  induction inputs generalizing start outputs with
  | nil =>
      cases executed
      rw [List.nil_append, statesFrom, statesFrom]
      cases step state input with
      | ok result => rfl
      | error fault => rfl
  | cons first inputs ih =>
      obtain ⟨next, output, rest, stepped, continued, rfl⟩ := exists_of_runFrom_cons executed
      rw [List.cons_append, statesFrom, statesFrom, stepped, List.cons_append]
      exact congrArg (start :: ·) (ih continued)

/-! ## Conditions on every step -/

/-- Every step that the execution of the inputs takes satisfies `cond`. -/
def EachStep (step : σ → ι → Except ε (σ × ω)) (cond : σ → ι → Prop) : σ → List ι → Prop
  | _, [] => True
  | state, input :: inputs => cond state input ∧
      ∀ next output, step state input = .ok (next, output) → EachStep step cond next inputs

/-- A condition may be weakened. -/
theorem EachStep.mono {step : σ → ι → Except ε (σ × ω)} {good cond : σ → ι → Prop} {start : σ}
    {inputs : List ι} (each : EachStep step cond start inputs)
    (weaken : ∀ state input, cond state input → good state input) :
    EachStep step good start inputs := by
  induction inputs generalizing start with
  | nil => trivial
  | cons input inputs ih =>
      refine ⟨weaken start input each.1, ?_⟩
      intro next output stepped
      exact ih (each.2 next output stepped)

/-- There is one next state only. -/
theorem forall_next_iff {step : σ → ι → Except ε (σ × ω)} {state next : σ} {input : ι} {output : ω}
    (stepped : step state input = .ok (next, output)) {holds : σ → Prop} :
    (∀ next output, step state input = .ok (next, output) → holds next) ↔ holds next := by
  constructor
  · intro all
    exact all next output stepped
  · intro here next' output' stepped'
    rw [stepped] at stepped'
    cases stepped'
    exact here

instance EachStep.decidable {step : σ → ι → Except ε (σ × ω)} {cond : σ → ι → Prop}
    [∀ state input, Decidable (cond state input)] :
    ∀ start inputs, Decidable (EachStep step cond start inputs)
  | _, [] => .isTrue trivial
  | start, input :: inputs =>
      match stepped : step start input with
      | .ok (next, _) =>
          have : Decidable (EachStep step cond next inputs) := EachStep.decidable next inputs
          decidable_of_iff (cond start input ∧ EachStep step cond next inputs)
            (by rw [EachStep, forall_next_iff stepped])
      | .error _ =>
          decidable_of_iff (cond start input) (by simp [EachStep, stepped])

/-- Conditions that every step decides alike hold of the same executions. -/
theorem eachStep_iff {step : σ → ι → Except ε (σ × ω)} {good cond : σ → ι → Prop}
    (decides : ∀ state input next output, step state input = .ok (next, output) →
      (good state input ↔ cond state input))
    {start finish : σ} {inputs : List ι} {outputs : List ω}
    (executed : runFrom step start inputs = .ok (finish, outputs)) :
    EachStep step good start inputs ↔ EachStep step cond start inputs := by
  induction inputs generalizing start outputs with
  | nil => exact Iff.rfl
  | cons input inputs ih =>
      obtain ⟨next, output, rest, stepped, continued, rfl⟩ := exists_of_runFrom_cons executed
      rw [EachStep, EachStep, decides _ _ _ _ stepped, forall_next_iff stepped,
        forall_next_iff stepped, ih continued]

/-- What the condition of a step promises of its output holds of all outputs of an
execution whose steps satisfy the condition. -/
theorem EachStep.outputs {step : σ → ι → Except ε (σ × ω)} {cond : σ → ι → Prop}
    {good : ω → Prop} {start finish : σ} {inputs : List ι} {outputs : List ω}
    (conds : EachStep step cond start inputs)
    (executed : runFrom step start inputs = .ok (finish, outputs))
    (each : ∀ state input next output, step state input = .ok (next, output) →
      cond state input → good output) :
    ∀ output ∈ outputs, good output := by
  induction inputs generalizing start outputs with
  | nil =>
      cases executed
      exact List.forall_mem_nil _
  | cons input inputs ih =>
      obtain ⟨next, output, rest, stepped, continued, rfl⟩ := exists_of_runFrom_cons executed
      exact List.forall_mem_cons.mpr ⟨each _ _ _ _ stepped conds.1,
        ih (conds.2 next output stepped) continued⟩

/-- What each step decides about its output, the steps of an execution decide about
all outputs. -/
theorem forall_outputs_iff {step : σ → ι → Except ε (σ × ω)} {cond : σ → ι → Prop}
    {good : ω → Prop}
    (each : ∀ state input next output, step state input = .ok (next, output) →
      (good output ↔ cond state input))
    {start finish : σ} {inputs : List ι} {outputs : List ω}
    (executed : runFrom step start inputs = .ok (finish, outputs)) :
    (∀ output ∈ outputs, good output) ↔ EachStep step cond start inputs := by
  induction inputs generalizing start outputs with
  | nil =>
      cases executed
      simp [EachStep]
  | cons input inputs ih =>
      obtain ⟨next, output, rest, stepped, continued, rfl⟩ := exists_of_runFrom_cons executed
      rw [List.forall_mem_cons, each _ _ _ _ stepped, ih continued, EachStep,
        forall_next_iff stepped]

section States

/-- What every step from a good state satisfies holds of each step of an execution that
visits good states only. -/
theorem eachStep_of_states {step : σ → ι → Except ε (σ × ω)} {cond : σ → ι → Prop} {good : σ → Prop}
    {start finish : σ} {inputs : List ι} {outputs : List ω}
    (visits : ∀ state ∈ statesFrom step start inputs, good state)
    (executed : runFrom step start inputs = .ok (finish, outputs))
    (each : ∀ state input next output, input ∈ inputs → good state →
      step state input = .ok (next, output) → cond state input) :
    EachStep step cond start inputs := by
  induction inputs generalizing start outputs with
  | nil => trivial
  | cons input inputs ih =>
      obtain ⟨next, output, rest, stepped, continued, rfl⟩ := exists_of_runFrom_cons executed
      rw [statesFrom, stepped, List.forall_mem_cons] at visits
      rw [EachStep, forall_next_iff stepped]
      constructor
      · exact each start input next output List.mem_cons_self visits.1 stepped
      · apply ih visits.2 continued
        intro state other next output member
        exact each state other next output (List.mem_cons_of_mem _ member)

variable {step : σ → ι → Except ε (σ × ω)} {inv good cond : σ → Prop} {start finish : σ}
variable {inputs : List ι} {outputs : List ω}

/-- An invariant that good states pass on holds of all states of an execution that visits
good states only. -/
theorem forall_states_invariant
    (preserved : ∀ state input next output, input ∈ inputs → inv state → good state →
      step state input = .ok (next, output) → inv next)
    (initially : inv start) (executed : runFrom step start inputs = .ok (finish, outputs))
    (visits : ∀ state ∈ statesFrom step start inputs, good state) :
    (∀ state ∈ statesFrom step start inputs, inv state) ∧ inv finish := by
  induction inputs generalizing start outputs with
  | nil =>
      cases executed
      exact ⟨List.forall_mem_nil _, initially⟩
  | cons input inputs ih =>
      obtain ⟨next, output, rest, stepped, continued, rfl⟩ := exists_of_runFrom_cons executed
      rw [statesFrom, stepped, List.forall_mem_cons] at visits
      rw [statesFrom, stepped, List.forall_mem_cons, and_assoc]
      refine ⟨initially, ih ?_ ?_ continued visits.2⟩
      · intro state other next output member
        exact preserved state other next output (List.mem_cons_of_mem _ member)
      · exact preserved start input next output List.mem_cons_self initially visits.1 stepped

/-- A condition that decides, under such an invariant, which states are good decides
whether an execution visits good states only. -/
theorem forall_states_iff
    (decides : ∀ state input next output, inv state → step state input = .ok (next, output) →
      (good state ↔ cond state))
    (preserved : ∀ state input next output, input ∈ inputs → inv state → good state →
      step state input = .ok (next, output) → inv next)
    (initially : inv start) (executed : runFrom step start inputs = .ok (finish, outputs)) :
    (∀ state ∈ statesFrom step start inputs, good state) ↔
      EachStep step (fun state _ => cond state) start inputs := by
  induction inputs generalizing start outputs with
  | nil =>
      cases executed
      simp [EachStep, statesFrom]
  | cons input inputs ih =>
      obtain ⟨next, output, rest, stepped, continued, rfl⟩ := exists_of_runFrom_cons executed
      have decided := decides start input next output initially stepped
      have later := fun isGood : good start => ih
        (fun state other next output member => preserved state other next output
          (List.mem_cons_of_mem _ member))
        (preserved start input next output List.mem_cons_self initially isGood stepped) continued
      rw [statesFrom, stepped, List.forall_mem_cons, EachStep, forall_next_iff stepped]
      constructor
      · rintro ⟨isGood, rest⟩
        exact ⟨decided.mp isGood, (later isGood).mp rest⟩
      · rintro ⟨here, rest⟩
        have isGood := decided.mpr here
        exact ⟨isGood, (later isGood).mpr rest⟩

/-- A condition that makes states good, under an invariant that good states pass on, makes
all states good from which an execution takes its steps. -/
theorem EachStep.good_of_invariant
    (conds : EachStep step (fun state _ => cond state) start inputs)
    (executed : runFrom step start inputs = .ok (finish, outputs)) (initially : inv start)
    (implies : ∀ state input next output, inv state → cond state →
      step state input = .ok (next, output) → good state)
    (preserved : ∀ state input next output, input ∈ inputs → inv state → good state →
      step state input = .ok (next, output) → inv next) :
    EachStep step (fun state _ => good state) start inputs := by
  induction inputs generalizing start outputs with
  | nil => trivial
  | cons input inputs ih =>
      obtain ⟨next, output, rest, stepped, continued, rfl⟩ := exists_of_runFrom_cons executed
      have isGood := implies start input next output initially conds.1 stepped
      rw [EachStep, forall_next_iff stepped]
      refine ⟨isGood, ih (conds.2 next output stepped) continued ?_ ?_⟩
      · exact preserved start input next output List.mem_cons_self initially isGood stepped
      · intro state other next output member
        exact preserved state other next output (List.mem_cons_of_mem _ member)

end States

end TowerDefence.Foundations
