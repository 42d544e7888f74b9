import DiceNotation.Proofs.Session.Wells
import DiceNotation.Settings.Lenient

/-!
# Rolls on several sources

A session may roll on several sources in any order, and what becomes the standard source may change in
between. Every roll draws from one well, that of its source, and the sources of a session do not get in each
other's way as far as they draw from different wells: the rolls on one well come to the same as in the
session without the rolls on all the others.

A source with a script has its well for itself. The sources without one have a well in common, the shared
generator, and on it each of them finds what the others have left. A source that is named but does not count is
as none: the roll is one on the standard source.

In a session that is restricted to some rolls all the other steps are still taken, and a step that compiles
an expression in order to roll it once still compiles it.
-/

namespace DiceNotation

/-- The source that a step names for its roll. -/
def SessionStep.source? : SessionStep → Option String
  | .roll _ _ source => source
  | .rollOnce _ source => source
  | _ => none

/-- The total that a step is answered with. -/
def StepAnswer.total? (answer : StepAnswer) : Option Int :=
  match answer.outcome with
  | .ok (.total value) => some value
  | _ => none

namespace Session

variable {s other : Session} {step : SessionStep} {t : Throw} {w : Nat}

/-! ## One step -/

/-- Sessions that differ at most in what is in the other wells than `w`. -/
structure AlikeAt (w : Nat) (s other : Session) : Prop where
  bench : s.bench = other.bench
  dice : s.dice.AlikeAt w other.dice

theorem AlikeAt.refl (w : Nat) (s : Session) : AlikeAt w s s := ⟨rfl, .refl w s.dice⟩

theorem AlikeAt.atBench (h : AlikeAt w s other) (work : Bench → StepAnswer × Bench) :
    (s.atBench work).1 = (other.atBench work).1 ∧ AlikeAt w (s.atBench work).2 (other.atBench work).2 := by
  unfold Session.atBench
  rw [h.bench]
  exact ⟨rfl, rfl, h.dice⟩

theorem AlikeAt.prepareRoll_eq (h : AlikeAt w s other) (evaluator : String) (reduce : Bool)
    (name : Option String) : s.prepareRoll evaluator reduce name = other.prepareRoll evaluator reduce name := by
  unfold prepareRoll
  rw [h.bench, h.dice.choose_eq]

theorem AlikeAt.prepareRollOnce (h : AlikeAt w s other) (given : Value) (name : Option String) :
    (s.prepareRollOnce given name).1 = (other.prepareRollOnce given name).1 ∧
      AlikeAt w (s.prepareRollOnce given name).2 (other.prepareRollOnce given name).2 := by
  unfold Session.prepareRollOnce
  rw [h.bench, h.dice.choose_eq]
  split
  · exact ⟨rfl, h⟩
  · exact ⟨rfl, h⟩
  · split
    · exact ⟨rfl, rfl, h.dice⟩
    · exact ⟨rfl, rfl, h.dice⟩

theorem choose_of_prepareRoll {evaluator : String} {reduce : Bool} {name : Option String}
    (h : s.prepareRoll evaluator reduce name = .rolling t) : s.dice.choose name = some (t.number, t.source) := by
  unfold prepareRoll at h
  split at h
  · cases h
  · cases h
  · next hchoose =>
    cases h
    exact hchoose

theorem choose_of_prepareRollOnce {given : Value} {name : Option String}
    (h : (s.prepareRollOnce given name).1 = .rolling t) : s.dice.choose name = some (t.number, t.source) := by
  unfold prepareRollOnce at h
  split at h
  · cases h
  · cases h
  · next hchoose _ =>
    split at h
    · cases h
    · cases h
      exact hchoose

section Steps

variable [Validator]

/-- Before any dice are rolled, a step does not look into the wells. -/
theorem AlikeAt.prepare (h : AlikeAt w s other) (step : SessionStep) :
    (s.prepare step).1 = (other.prepare step).1 ∧ AlikeAt w (s.prepare step).2 (other.prepare step).2 := by
  cases step with
  | newCompiler | setLimits | compile | compileChunk | clear => exact h.atBench _
  | addSource name plan counts => exact ⟨rfl, h.bench, h.dice.addSource name plan counts⟩
  | setStandardSource name =>
    obtain ⟨hanswer, hdice⟩ := h.dice.install name
    exact ⟨congrArg Prepared.answered hanswer, h.bench, hdice⟩
  | roll evaluator reduce name => exact ⟨h.prepareRoll_eq evaluator reduce name, h⟩
  | rollOnce given name => exact h.prepareRollOnce given name

/-- The roll that a step comes to, if it comes to one. -/
def throw? (s : Session) (step : SessionStep) : Option Throw :=
  match (s.prepare step).1 with
  | .answered _ => none
  | .rolling t => some t

/-- Takes a step, but rolls only if the roll is one to keep; it is not answered otherwise. -/
def performOnly (keep : Throw → Bool) (s : Session) (step : SessionStep) : Option StepAnswer × Session :=
  match s.prepare step with
  | (.answered answer, s) => (some answer, s)
  | (.rolling t, s) =>
    if keep t then
      match s.roll t with
      | (answer, s) => (some answer, s)
    else (none, s)

/-- A step takes from the well `w` what it takes if only the rolls on `w` are kept. -/
theorem AlikeAt.performOnly (h : AlikeAt w s other) {keep : Throw → Bool}
    (hkeep : ∀ t, other.throw? step = some t → keep t = decide (t.source.well = w)) :
    (s.performOnly keep step).1 =
        (if (other.throw? step).all keep then some (other.perform step).1 else none) ∧
      AlikeAt w (s.performOnly keep step).2 (other.perform step).2 := by
  obtain ⟨hprepared, hnext⟩ := h.prepare step
  unfold Session.performOnly Session.perform
  unfold Session.throw? at hkeep ⊢
  rcases hs : s.prepare step with ⟨prepared, next⟩
  rcases hother : other.prepare step with ⟨prepared', next'⟩
  rw [hs, hother] at hprepared hnext
  rw [hother] at hkeep
  dsimp only at hprepared hnext hkeep ⊢
  subst hprepared
  cases prepared with
  | answered answer => exact ⟨rfl, hnext⟩
  | rolling t =>
    -- a roll on the well is kept on both sides, any other one is left out of the restricted session
    by_cases hw : t.source.well = w
    · have ht : keep t = true := by rw [hkeep t rfl, decide_eq_true hw]
      dsimp only [Option.all]
      rw [if_pos ht, if_pos ht]
      subst hw
      obtain ⟨hanswer, hdice⟩ := hnext.dice.roll_same
      exact ⟨congrArg some hanswer, hnext.bench, hdice⟩
    · have ht : ¬keep t = true := by
        rw [hkeep t rfl, decide_eq_true_iff]
        exact hw
      dsimp only [Option.all]
      rw [if_neg ht, if_neg ht]
      exact ⟨rfl, hnext.bench, hnext.dice.roll_other hw⟩

/-! ## One step after the other -/

/-- The session after steps. -/
def after (s : Session) (steps : List SessionStep) : Session :=
  steps.foldl (fun s step => (s.perform step).2) s

theorem after_cons (s : Session) (step : SessionStep) (steps : List SessionStep) :
    s.after (step :: steps) = (s.perform step).2.after steps := rfl

/-- The rolls that steps come to. -/
def throws (s : Session) : List SessionStep → List Throw
  | [] => []
  | step :: rest => (s.throw? step).toList ++ (s.perform step).2.throws rest

/-- The answers to steps in the session that is restricted to the rolls to keep. -/
def answersOnly (keep : Throw → Bool) (s : Session) : List SessionStep → List (Option StepAnswer)
  | [] => []
  | step :: rest => (s.performOnly keep step).1 :: (s.performOnly keep step).2.answersOnly keep rest

/-- The answers to steps in the full session, without those to the rolls not to keep. -/
def answersKept (keep : Throw → Bool) (s : Session) : List SessionStep → List (Option StepAnswer)
  | [] => []
  | step :: rest =>
    (if (s.throw? step).all keep then some (s.perform step).1 else none) ::
      (s.perform step).2.answersKept keep rest

/-- The rolls on one well come to the same in the session that is restricted to them. -/
theorem AlikeAt.answersOnly_eq {keep : Throw → Bool} {steps : List SessionStep} (h : AlikeAt w s other)
    (hkeep : ∀ t ∈ other.throws steps, keep t = decide (t.source.well = w)) :
    s.answersOnly keep steps = other.answersKept keep steps := by
  -- the restricted session `s` and the full one `other` remain alike at the well, not elsewhere
  induction steps generalizing s other with
  | nil => rfl
  | cons step rest ih =>
    have hfirst : ∀ t, other.throw? step = some t → keep t = decide (t.source.well = w) := by
      intro t ht
      refine hkeep t (List.mem_append_left _ ?_)
      rw [ht]
      exact List.mem_singleton_self t
    have hrest : ∀ t ∈ (other.perform step).2.throws rest, keep t = decide (t.source.well = w) :=
      fun t ht => hkeep t (List.mem_append_right _ ht)
    obtain ⟨hanswer, hnext⟩ := h.performOnly hfirst
    rw [answersOnly, answersKept, hanswer, ih hnext hrest]

/-! ## Sources -/

/-- Preparing a step changes the dice only if the step has to do with sources. -/
theorem dice_prepare (s : Session) (step : SessionStep) :
    (s.prepare step).2.dice =
      match step with
      | .addSource name plan counts => (s.dice.addSource name plan counts).2
      | .setStandardSource name => (s.dice.install name).2
      | _ => s.dice := by
  cases step with
  | rollOnce given name =>
    dsimp only [prepare]
    unfold prepareRollOnce
    split
    · rfl
    · rfl
    · split <;> rfl
  | _ => rfl

/-- Rolling changes nothing but the wells. -/
theorem dice_perform (s : Session) (step : SessionStep) :
    (s.perform step).2.dice.sources = (s.prepare step).2.dice.sources ∧
      (s.perform step).2.dice.standardSource = (s.prepare step).2.dice.standardSource := by
  unfold perform
  rcases s.prepare step with ⟨answer | t, next⟩ <;> exact ⟨rfl, rfl⟩

/-- The number of the source that a step makes the standard one, if it does. -/
def installedBy? (s : Session) : SessionStep → Option Nat
  | .setStandardSource name => s.dice.installed? name
  | _ => none

theorem standardSource_perform (s : Session) (step : SessionStep) :
    (s.perform step).2.dice.standardSource = (s.installedBy? step).getD s.dice.standardSource := by
  rw [(dice_perform s step).2, dice_prepare]
  cases step with
  | setStandardSource name =>
    dsimp only [installedBy?]
    unfold Dice.install
    cases s.dice.installed? name <;> rfl
  | _ => rfl

/-- The numbers of the sources that steps make the standard one, in turn. -/
def installs (s : Session) : List SessionStep → List Nat
  | [] => []
  | step :: rest => (s.installedBy? step).toList ++ (s.perform step).2.installs rest

/-- The standard source is the one that was installed last. -/
theorem standardSource_after (s : Session) (steps : List SessionStep) :
    (s.after steps).dice.standardSource = (s.installs steps).getLast?.getD s.dice.standardSource := by
  induction steps generalizing s with
  | nil => rfl
  | cons step rest ih =>
    rw [after_cons, ih, standardSource_perform, installs, List.getLast?_append]
    cases ((s.perform step).2.installs rest).getLast? with
    | none => cases s.installedBy? step <;> rfl
    | some i => rfl

theorem throw?_eq_some : s.throw? step = some t ↔ (s.prepare step).1 = .rolling t := by
  unfold throw?
  cases (s.prepare step).1 <;> simp

/-- A step that comes to a roll has chosen its source. -/
theorem choose_of_throw? (h : s.throw? step = some t) :
    s.dice.choose step.source? = some (t.number, t.source) := by
  have hprepare := throw?_eq_some.mp h
  cases step with
  | roll evaluator reduce name => exact choose_of_prepareRoll hprepare
  | rollOnce given name => exact choose_of_prepareRollOnce hprepare
  | _ => cases hprepare

/-- A step that comes to a roll has not touched the dice before. -/
theorem dice_prepare_of_throw? (h : s.throw? step = some t) : (s.prepare step).2.dice = s.dice := by
  rw [dice_prepare]
  cases step with
  | addSource | setStandardSource => cases h
  | _ => rfl

/-- A step that rolls as `t` says, on the source that it names if that counts, or else on the standard source, and
draws from the well of that source only. -/
structure Draws (s : Session) (step : SessionStep) (t : Throw) : Prop where
  source : s.dice.sources[t.number]? = some t.source
  named : ∀ name, step.source? = some name →
    ∃ i named, s.dice.sourceNames.lookup name = some i ∧ s.dice.sources[i]? = some named ∧
      t.number = if named.counts then i else s.dice.standardSource
  standard : step.source? = none → t.number = s.dice.standardSource
  answered : (s.perform step).1.source = t.source.name
  /-- The dice are those that the roll asks for when it is run on what is in the well. -/
  asked : (s.perform step).1.asked =
    (t.roll.run Scripted.source ⟨s.dice.level t.source.well, 0⟩).calls
  /-- What is in other wells does not show in the answer, nor in what is left in the well. -/
  depends : ∀ other, AlikeAt t.source.well other s →
    (other.perform step).1 = (s.perform step).1 ∧
      (other.perform step).2.dice.wells[t.source.well]? = (s.perform step).2.dice.wells[t.source.well]?
  /-- Other wells are left as they were. -/
  leaves : ∀ v, v ≠ t.source.well → (s.perform step).2.dice.wells[v]? = s.dice.wells[v]?

theorem perform_of_throw? (h : s.throw? step = some t) :
    s.perform step = (s.prepare step).2.roll t := by
  have hprepare := throw?_eq_some.mp h
  unfold perform
  rcases hs : s.prepare step with ⟨prepared, next⟩
  rw [hs] at hprepare
  dsimp only at hprepare
  rw [hprepare]

theorem draws_of_throw? (h : s.throw? step = some t) : s.Draws step t := by
  have hchoose := choose_of_throw? h
  have hperform := perform_of_throw? h
  refine ⟨?_, ?_, ?_, ?_, ?_, ?_, ?_⟩
  · cases hname : step.source? with
    | none => exact (Dice.choose_none_eq_some (hname ▸ hchoose)).1
    | some name => exact (Dice.choose_some_eq_some (hname ▸ hchoose)).1
  · intro name hname
    exact (Dice.choose_some_eq_some (hname ▸ hchoose)).2
  · intro hname
    exact (Dice.choose_none_eq_some (hname ▸ hchoose)).2
  · rw [hperform]
    rfl
  · rw [hperform, ← dice_prepare_of_throw? h]
    rfl
  · intro other halike
    obtain ⟨hprepared, hnext⟩ := halike.prepare step
    have hother : other.throw? step = some t := throw?_eq_some.mpr (hprepared.trans (throw?_eq_some.mp h))
    rw [hperform, perform_of_throw? hother]
    obtain ⟨hanswer, hdice⟩ := hnext.dice.roll_same
    exact ⟨hanswer, hdice.well⟩
  · intro v hv
    rw [hperform, ← dice_prepare_of_throw? h]
    exact Dice.getElem?_wells_roll _ hv

/-! ## Sources with a script of their own -/

theorem sources_perform (s : Session) (step : SessionStep) :
    s.dice.sources <+: (s.perform step).2.dice.sources := by
  rw [(dice_perform s step).1, dice_prepare]
  cases step with
  | addSource name plan counts => exact List.prefix_append _ _
  | setStandardSource name =>
    dsimp only
    unfold Dice.install
    cases s.dice.installed? name <;> exact List.prefix_rfl
  | _ => exact List.prefix_rfl

theorem sources_after (s : Session) (steps : List SessionStep) :
    s.dice.sources <+: (s.after steps).dice.sources := by
  induction steps generalizing s with
  | nil => exact List.prefix_rfl
  | cons step rest ih => exact (sources_perform s step).trans (ih _)

/-- The source of a roll still has its number later. -/
theorem source_of_mem_throws {steps : List SessionStep} (h : t ∈ s.throws steps) :
    (s.after steps).dice.sources[t.number]? = some t.source := by
  induction steps generalizing s with
  | nil => cases h
  | cons step rest ih =>
    rcases List.mem_append.mp h with hfirst | hrest
    · have hsource := (draws_of_throw? (Option.mem_toList.mp hfirst)).source
      have hprefix : s.dice.sources <+: (s.after (step :: rest)).dice.sources :=
        (sources_perform s step).trans (sources_after _ rest)
      obtain ⟨hlt, heq⟩ := List.getElem?_eq_some_iff.mp hsource
      rw [List.prefix_iff_getElem?.mp hprefix t.number hlt, heq]
    · exact ih hrest

theorem ownWells_perform (h : s.dice.OwnWells) (step : SessionStep) : (s.perform step).2.dice.OwnWells := by
  have hprepare : (s.prepare step).2.dice.OwnWells := by
    rw [dice_prepare]
    cases step with
    | addSource name plan counts => exact h.addSource name plan counts
    | setStandardSource name => exact h.install name
    | _ => exact h
  unfold perform
  rcases hs : s.prepare step with ⟨answer | t, next⟩
  · rwa [hs] at hprepare
  · rw [hs] at hprepare
    exact hprepare.roll t

theorem ownWells_after (h : s.dice.OwnWells) (steps : List SessionStep) : (s.after steps).dice.OwnWells := by
  induction steps generalizing s with
  | nil => exact h
  | cons step rest ih => exact ih (ownWells_perform h step)

/-- In a session from its start on, sources with a script do not share their wells. -/
theorem ownWells_reachable (steps : List SessionStep) : (Session.after {} steps).dice.OwnWells :=
  ownWells_after Dice.ownWells_init steps

/-! ## Rolls apart -/

/--
**Rolls on different wells do not get in each other's way.**

Of any steps of a session, those that roll on one well are answered as in the session that is restricted to
the rolls on it. For a source that has its well for itself, these are the rolls on that source. A step that
comes to a roll after other steps draws only from the source that it names or, if it names none or one that does
not count, from the one that was installed last.
-/
theorem rolls_apart (s : Session) (steps : List SessionStep) :
    (∀ w, s.answersOnly (·.source.well = w) steps = s.answersKept (·.source.well = w) steps) ∧
    (s.dice.OwnWells → ∀ i source, (s.after steps).dice.sources[i]? = some source → source.well ≠ 0 →
      s.answersOnly (·.number = i) steps = s.answersKept (·.number = i) steps) ∧
    (∀ step t, (s.after steps).throw? step = some t → (s.after steps).Draws step t) ∧
    (s.after steps).dice.standardSource = (s.installs steps).getLast?.getD s.dice.standardSource := by
  refine ⟨fun w => ?_, fun hown i source hsource hwell => ?_, fun step t => draws_of_throw?,
    standardSource_after s steps⟩
  · exact (AlikeAt.refl w s).answersOnly_eq fun _ _ => rfl
  · refine (AlikeAt.refl source.well s).answersOnly_eq fun t ht => ?_
    have hthrow := source_of_mem_throws ht
    -- a source keeps its number, so the wells of the last state tell whose rolls these are
    have hiff : t.number = i ↔ t.source.well = source.well := by
      constructor
      · intro hnumber
        rw [hnumber, hsource] at hthrow
        rw [Option.some.inj hthrow]
      · intro hwells
        exact (ownWells_after hown steps).number_eq hthrow hsource hwells (hwells ▸ hwell)
    exact decide_eq_decide.mpr hiff

end Steps

/-- A coin to toss. -/
def coin : Evaluator := ⟨"1d2", ["1d2"], [⟨⟨0, 0⟩, .pool { count := 1, faces := 2 }⟩]⟩

/-- A source that runs out after one toss, installed between rolls on another one. A third one does not count, so
that a roll on it is one on the standard source. -/
theorem rolls_apart_coin :
    letI : Validator := .lenient fun _ => []
    let s : Session :=
      { bench := { evaluators := [("coin", coin)] }
        dice := {
          sources := [⟨none, 0, true⟩, ⟨some "a", 1, true⟩, ⟨some "b", 2, true⟩, ⟨some "c", 3, false⟩]
          sourceNames := [("c", 3), ("b", 2), ("a", 1)]
          wells := [.generator ⟨#[], 0⟩, .cycle [1, 2] 0, .sequence [2], .sequence [1]] } }
    let steps : List SessionStep :=
      [.roll "coin" true (some "a"), .setStandardSource (some "b"), .roll "coin" true none,
        .roll "coin" true (some "a"), .roll "coin" true (some "c")]
    s.dice.OwnWells ∧ (s.after steps).dice.sources[2]? = some ⟨some "b", 2, true⟩ ∧
      s.answersOnly (·.number = 2) steps = s.answersKept (·.number = 2) steps ∧
      (∃ t, (s.after steps).throw? (.roll "coin" true (some "c")) = some t ∧ t.number = 2 ∧
        (s.after steps).Draws (.roll "coin" true (some "c")) t) ∧
      (s.after steps).dice.standardSource = 2 := by
  intro s steps
  let _ : Validator := .lenient fun _ => []
  have hown : s.dice.OwnWells := by
    refine ⟨?_, ?_, ?_⟩ <;> decide
  have hsource : (s.after steps).dice.sources[2]? = some ⟨some "b", 2, true⟩ := by decide +kernel
  have hthrow : ((s.after steps).throw? (.roll "coin" true (some "c"))).isSome := by decide +kernel
  have hinstalls : (s.installs steps).getLast?.getD s.dice.standardSource = 2 := by decide +kernel
  obtain ⟨t, ht⟩ := Option.isSome_iff_exists.mp hthrow
  have hnumber : (((s.after steps).throw? (.roll "coin" true (some "c"))).map (·.number)) = some 2 := by
    decide +kernel
  rw [ht, Option.map_some, Option.some_inj] at hnumber
  obtain ⟨-, hnumbered, hdraws, hstandard⟩ := rolls_apart s steps
  have hkept := hnumbered hown 2 _ hsource (by decide)
  with_reducible exact ⟨hown, hsource, hkept, ⟨t, ht, hnumber, hdraws _ t ht⟩, hstandard.trans hinstalls⟩

/-- The coin and two sources, "a" and "b", on the shared generator, from which they draw one and then two. -/
def coinOnTwoSources : Session where
  bench := { evaluators := [("coin", coin)] }
  dice := {
    sources := [⟨none, 0, true⟩, ⟨some "a", 0, true⟩, ⟨some "b", 0, true⟩]
    sourceNames := [("b", 2), ("a", 1)]
    wells := [.generator ⟨(0 :: List.replicate 623 0x40000000).toArray, 0⟩] }

/-- **Sources without a script are not apart**, even where no others share a well: a source finds the shared
generator as another one has left it. -/
theorem not_forall_answersOnly_eq :
    ¬∀ [Validator] (s : Session) (steps : List SessionStep) (i : Nat), s.dice.OwnWells →
      s.answersOnly (·.number = i) steps = s.answersKept (·.number = i) steps := by
  intro h
  have hown : coinOnTwoSources.dice.OwnWells := by
    refine ⟨Nat.zero_lt_one, ?_, ?_⟩ <;> decide
  let _ : Validator := .lenient fun _ => []
  have heq := h coinOnTwoSources [.roll "coin" true (some "a"), .roll "coin" true (some "b")] 2 hown
  -- the full session answers the toss on "b" with two, the restricted one with one
  have htotals := congrArg (List.map (Option.bind · StepAnswer.total?)) heq
  revert htotals
  decide +kernel

end Session

end DiceNotation
