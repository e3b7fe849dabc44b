import Mathlib.Data.List.Basic
import Mathlib.Data.List.Induction

/-!
# Latches

A latch is a bit that some inputs set and others clear.  It holds exactly when an
input has set it and no later one has cleared it.
-/

namespace TowerDefence.Foundations

variable {ι : Type}

/-- What a latch holds after a list of inputs. -/
def latched (sets clears : ι → Bool) (inputs : List ι) : Bool :=
  inputs.foldl (fun bit input =>
    if sets input then true else if clears input then false else bit) false

section Latched

variable {sets clears : ι → Bool} {inputs : List ι}

@[simp] theorem latched_nil : latched sets clears [] = false := rfl

theorem latched_concat (input : ι) :
    latched sets clears (inputs ++ [input]) =
      if sets input then true else if clears input then false else latched sets clears inputs := by
  rw [latched, List.foldl_append]
  rfl

/-- Some input set the latch, and no later one cleared it. -/
def SetSince (sets clears : ι → Bool) (inputs : List ι) : Prop :=
  ∃ before input after, inputs = before ++ input :: after ∧ sets input = true ∧
    ∀ other ∈ after, clears other = false

theorem SetSince.concat (since : SetSince sets clears inputs) {input : ι}
    (keeps : clears input = false) : SetSince sets clears (inputs ++ [input]) := by
  rcases since with ⟨before, setter, after, split, setsIt, kept⟩
  refine ⟨before, setter, after ++ [input], by simp [split], setsIt, ?_⟩
  intro other member
  cases List.mem_append.mp member with
  | inl earlier => exact kept other earlier
  | inr last => exact List.mem_singleton.mp last ▸ keeps

theorem SetSince.of_concat {input : ι} (since : SetSince sets clears (inputs ++ [input])) :
    sets input = true ∨ clears input = false ∧ SetSince sets clears inputs := by
  rcases since with ⟨before, setter, after, split, setsIt, kept⟩
  cases List.eq_nil_or_concat' after with
  | inl isLast =>
      subst isLast
      have same := (List.append_inj' split rfl).2
      cases same
      exact .inl setsIt
  | inr later =>
      rcases later with ⟨middle, last, isConcat⟩
      subst isConcat
      rw [← List.cons_append, ← List.append_assoc] at split
      obtain ⟨sameInputs, sameLast⟩ := List.append_inj' split rfl
      cases sameLast
      have keeps := kept input (by simp)
      refine .inr ⟨keeps, before, setter, middle, sameInputs, setsIt, ?_⟩
      intro other member
      exact kept other (List.mem_append_left _ member)

/-- The latch holds exactly when it was set and not cleared since. -/
theorem latched_iff :
    latched sets clears inputs = true ↔ SetSince sets clears inputs := by
  induction inputs using List.reverseRecOn with
  | nil => simp [SetSince]
  | append_singleton inputs input ih =>
      rw [latched_concat]
      cases setsIt : sets input with
      | true =>
          simp only [if_true, true_iff]
          exact ⟨inputs, input, [], rfl, setsIt, by simp⟩
      | false =>
          cases clearsIt : clears input with
          | true =>
              simp only [Bool.false_eq_true, if_false, if_true, false_iff]
              intro since
              cases since.of_concat with
              | inl sets' => simp [setsIt] at sets'
              | inr keeps => simp [clearsIt] at keeps
          | false =>
              simp only [Bool.false_eq_true, if_false, ih]
              constructor
              · intro since
                exact since.concat clearsIt
              · intro since
                cases since.of_concat with
                | inl sets' => simp [setsIt] at sets'
                | inr earlier => exact earlier.2

/-- While the latch holds, the last input that could have set or cleared it has
set it. -/
theorem last_of_latched {relevant : ι → Bool}
    (covers : ∀ input, sets input = true → relevant input = true)
    (decides : ∀ input, relevant input = true → sets input = true ∨ clears input = true)
    (holds : latched sets clears inputs = true) :
    ∃ input, (inputs.filter relevant).getLast? = some input ∧ sets input = true := by
  induction inputs using List.reverseRecOn with
  | nil => simp at holds
  | append_singleton inputs input ih =>
      rw [latched_concat] at holds
      cases isRelevant : relevant input with
      | true =>
          refine ⟨input, by simp [List.filter_append, isRelevant], ?_⟩
          cases decides input isRelevant with
          | inl setsIt => exact setsIt
          | inr clearsIt =>
              by_contra notSet
              simp [notSet, clearsIt] at holds
      | false =>
          have notSet : sets input = false := by
            by_contra setsIt
            rw [covers input (by simpa using setsIt)] at isRelevant
            cases isRelevant
          have before : latched sets clears inputs = true := by
            cases clearsIt : clears input with
            | true => simp [notSet, clearsIt] at holds
            | false => simpa [notSet, clearsIt] using holds
          obtain ⟨setter, isLast, setsIt⟩ := ih before
          exact ⟨setter, by simpa [List.filter_append, isRelevant] using isLast, setsIt⟩

/-! ## Further inputs -/

/-- The latch stays as it is without an input that sets it, if it is false. -/
theorem latched_append_of_low {base : List ι} (low : latched sets clears base = false)
    (noSetter : ∀ input ∈ inputs, sets input = false) :
    latched sets clears (base ++ inputs) = false := by
  induction inputs using List.reverseRecOn with
  | nil => rwa [List.append_nil]
  | append_singleton inputs input ih =>
      obtain ⟨earlier, last⟩ := List.forall_mem_append.mp noSetter
      rw [← List.append_assoc, latched_concat, last input List.mem_cons_self, ih earlier]
      simp

/-- The latch stays as it is without an input that clears it, if it is true. -/
theorem latched_append_of_high {base : List ι} (high : latched sets clears base = true)
    (noClearer : ∀ input ∈ inputs, clears input = false) :
    latched sets clears (base ++ inputs) = true := by
  induction inputs using List.reverseRecOn with
  | nil => rwa [List.append_nil]
  | append_singleton inputs input ih =>
      obtain ⟨earlier, last⟩ := List.forall_mem_append.mp noClearer
      rw [← List.append_assoc, latched_concat, last input List.mem_cons_self, ih earlier]
      simp

/-- A latch that is false and is not cleared holds exactly when an input sets it. -/
theorem latched_append_iff {base : List ι} (low : latched sets clears base = false)
    (noClearer : ∀ input ∈ inputs, clears input = false) :
    latched sets clears (base ++ inputs) = true ↔ ∃ setter ∈ inputs, sets setter = true := by
  constructor
  · intro high
    by_contra noSetter
    have stays := latched_append_of_low low fun input member => by
      simpa using fun setsIt => noSetter ⟨input, member, setsIt⟩
    rw [stays] at high
    cases high
  · rintro ⟨setter, member, setsIt⟩
    obtain ⟨before, after, rfl⟩ := List.append_of_mem member
    have high : latched sets clears (base ++ before ++ [setter]) = true := by
      rw [latched_concat, if_pos setsIt]
    have kept := latched_append_of_high high fun input member =>
      noClearer input (List.mem_append_right _ (List.mem_cons_of_mem _ member))
    simpa using kept

end Latched

end TowerDefence.Foundations
