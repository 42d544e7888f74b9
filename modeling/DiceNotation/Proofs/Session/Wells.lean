import DiceNotation.Session
import Mathlib.Data.List.Basic

/-!
# Wells

What is said of dice here is said from one well: two states of the dice are alike at a well if they differ
at most in what is in the others. Adding sources, installing one and rolling on the well keep them alike
and give the same answers; a roll elsewhere does not touch the well. Sources with a script do not share
their wells.
-/

namespace DiceNotation

/-! ## Alike at one well -/

/-- Dice that differ at most in what is in the other wells than `w`. -/
structure Dice.AlikeAt (w : Nat) (d e : Dice) : Prop where
  sources : d.sources = e.sources
  sourceNames : d.sourceNames = e.sourceNames
  standardSource : d.standardSource = e.standardSource
  length_wells : d.wells.length = e.wells.length
  well : d.wells[w]? = e.wells[w]?

namespace SourcePlan

/-- A source is made on a well of the same number on both sides. -/
theorem dig_alike (plan : SourcePlan) {wells others : List Script} {w : Nat}
    (hlength : wells.length = others.length) (hwell : wells[w]? = others[w]?) :
    (plan.dig wells).1 = (plan.dig others).1 ∧ (plan.dig wells).2.length = (plan.dig others).2.length ∧
      (plan.dig wells).2[w]? = (plan.dig others).2[w]? := by
  cases plan with
  | script own => simp only [dig, List.length_append, List.getElem?_append, hlength, hwell, and_self]
  | shared seed => simp only [dig, List.length_set, List.getElem?_set, hlength, hwell, and_self]

/-- A source is made on the first well or on a new one. -/
theorem dig_within (plan : SourcePlan) {wells : List Script} (h : 0 < wells.length) :
    wells.length ≤ (plan.dig wells).2.length ∧ (plan.dig wells).1 < (plan.dig wells).2.length ∧
      ((plan.dig wells).1 = 0 ∨ (plan.dig wells).1 = wells.length) := by
  cases plan with
  | script own => simp [dig]
  | shared seed => simp [dig, h]

end SourcePlan

namespace Dice

variable {d e : Dice} {t : Throw} {w : Nat}

theorem AlikeAt.refl (w : Nat) (d : Dice) : AlikeAt w d d := ⟨rfl, rfl, rfl, rfl, rfl⟩

theorem AlikeAt.choose_eq (h : AlikeAt w d e) (name : Option String) : d.choose name = e.choose name := by
  have hnumbered : d.numbered? = e.numbered? := by
    funext i
    rw [numbered?, numbered?, h.sources]
  unfold choose
  rw [hnumbered, h.sourceNames, h.standardSource]

theorem numbered?_eq_some {i j : Nat} {source : DiceSource} :
    d.numbered? i = some (j, source) ↔ i = j ∧ d.sources[i]? = some source := by
  unfold numbered?
  simp only [Option.map_eq_some_iff, Prod.mk.injEq]
  constructor
  · rintro ⟨found, hfound, hnumber, rfl⟩
    exact ⟨hnumber, hfound⟩
  · rintro ⟨hnumber, hfound⟩
    exact ⟨source, hfound, hnumber, rfl⟩

/-- A roll that names no source is on the standard one. -/
theorem choose_none_eq_some {i : Nat} {source : DiceSource} (h : d.choose none = some (i, source)) :
    d.sources[i]? = some source ∧ i = d.standardSource := by
  obtain ⟨rfl, hsource⟩ := numbered?_eq_some.mp h
  exact ⟨hsource, rfl⟩

/-- A roll that names a source is on that one if it counts, and else on the standard one. -/
theorem choose_some_eq_some {name : String} {i : Nat} {source : DiceSource}
    (h : d.choose (some name) = some (i, source)) :
    d.sources[i]? = some source ∧ ∃ j named, d.sourceNames.lookup name = some j ∧
      d.sources[j]? = some named ∧ i = if named.counts then j else d.standardSource := by
  unfold choose at h
  cases hnamed : (d.sourceNames.lookup name).bind d.numbered? with
  | none => simp [hnamed] at h
  | some found =>
    obtain ⟨number, named⟩ := found
    obtain ⟨j, hlookup, hfound⟩ := Option.bind_eq_some_iff.mp hnamed
    obtain ⟨rfl, hsource⟩ := numbered?_eq_some.mp hfound
    simp only [hnamed] at h
    by_cases hcounts : named.counts
    · rw [if_pos hcounts] at h
      cases h
      exact ⟨hsource, _, _, hlookup, hsource, (if_pos hcounts).symm⟩
    · rw [if_neg hcounts] at h
      obtain ⟨rfl, hstandard⟩ := numbered?_eq_some.mp h
      exact ⟨hstandard, _, _, hlookup, hsource, (if_neg hcounts).symm⟩

theorem AlikeAt.level_eq (h : AlikeAt w d e) : d.level w = e.level w := by
  rw [level, level, List.getD_eq_getElem?_getD, List.getD_eq_getElem?_getD, h.well]

/-- A new source draws from the same well on both sides, and that may be a new one. -/
theorem AlikeAt.addSource (h : AlikeAt w d e) (name : String) (plan : SourcePlan) (counts : Bool) :
    AlikeAt w (d.addSource name plan counts).2 (e.addSource name plan counts).2 := by
  obtain ⟨hwell, hlength, hwells⟩ := SourcePlan.dig_alike plan h.length_wells h.well
  refine ⟨?_, ?_, h.standardSource, hlength, hwells⟩
  · dsimp only [Dice.addSource]
    rw [h.sources, hwell]
  · dsimp only [Dice.addSource]
    rw [h.sources, h.sourceNames]

theorem AlikeAt.install (h : AlikeAt w d e) (name : Option String) :
    (d.install name).1 = (e.install name).1 ∧ AlikeAt w (d.install name).2 (e.install name).2 := by
  have hinstalled : d.installed? name = e.installed? name := by
    unfold installed?
    rw [h.sourceNames]
  unfold Dice.install
  rw [hinstalled]
  cases e.installed? name with
  | none => exact ⟨rfl, h⟩
  | some i =>
    refine ⟨?_, h.sources, h.sourceNames, rfl, h.length_wells, h.well⟩
    simp only [h.sources, h.standardSource]

/-- A roll finds the same in a well in which there is the same, and leaves the same. -/
theorem AlikeAt.roll_same (h : AlikeAt t.source.well d e) :
    (d.roll t).1 = (e.roll t).1 ∧ AlikeAt t.source.well (d.roll t).2 (e.roll t).2 := by
  unfold Dice.roll
  rw [h.level_eq]
  refine ⟨rfl, h.sources, h.sourceNames, h.standardSource, ?_, ?_⟩
  · rw [List.length_set, List.length_set, h.length_wells]
  · rw [List.getElem?_set_self', List.getElem?_set_self', h.well]

/-- A roll leaves all wells but its own. -/
theorem getElem?_wells_roll (d : Dice) {v : Nat} (hv : v ≠ t.source.well) :
    (d.roll t).2.wells[v]? = d.wells[v]? :=
  List.getElem?_set_ne hv.symm

theorem AlikeAt.roll_other (h : AlikeAt w d e) (hw : t.source.well ≠ w) : AlikeAt w d (e.roll t).2 := by
  refine ⟨h.sources, h.sourceNames, h.standardSource, ?_, ?_⟩
  · rw [h.length_wells, Dice.roll, List.length_set]
  · rw [h.well, getElem?_wells_roll e hw.symm]

/-! ## Wells of one source only -/

/-- No source shares its well with another, unless that is the first one, the shared generator. -/
structure OwnWells (d : Dice) : Prop where
  length_pos : 0 < d.wells.length
  well_lt : ∀ source ∈ d.sources, source.well < d.wells.length
  apart : d.sources.Pairwise fun a b => a.well = b.well → a.well = 0

theorem ownWells_init : OwnWells {} where
  length_pos := Nat.zero_lt_one
  well_lt := by
    intro source hsource
    rw [List.mem_singleton.mp hsource]
    exact Nat.zero_lt_one
  apart := List.pairwise_singleton _ _

theorem OwnWells.addSource (h : OwnWells d) (name : String) (plan : SourcePlan) (counts : Bool) :
    OwnWells (d.addSource name plan counts).2 := by
  obtain ⟨hgrows, hlt, hnew⟩ := SourcePlan.dig_within plan h.length_pos
  refine ⟨Nat.lt_of_lt_of_le h.length_pos hgrows, ?_, ?_⟩
  · intro source hsource
    rcases List.mem_append.mp hsource with hold | hadded
    · exact Nat.lt_of_lt_of_le (h.well_lt source hold) hgrows
    · rw [List.mem_singleton.mp hadded]
      exact hlt
  · refine List.pairwise_append.mpr ⟨h.apart, List.pairwise_singleton _ _, ?_⟩
    intro a ha b hb hwell
    rw [List.mem_singleton.mp hb] at hwell
    -- the new source is on the first well, or on one that no older source can have
    have hold := h.well_lt a ha
    dsimp only at hwell
    omega

theorem OwnWells.install (h : OwnWells d) (name : Option String) : OwnWells (d.install name).2 := by
  unfold Dice.install
  cases d.installed? name with
  | none => exact h
  | some i => exact ⟨h.length_pos, h.well_lt, h.apart⟩

theorem OwnWells.roll (h : OwnWells d) (t : Throw) : OwnWells (d.roll t).2 := by
  have hlength : (d.roll t).2.wells.length = d.wells.length := List.length_set
  refine ⟨?_, ?_, h.apart⟩
  · rw [hlength]
    exact h.length_pos
  · rw [hlength]
    exact h.well_lt

theorem OwnWells.number_eq (h : OwnWells d) {i j : Nat} {a b : DiceSource} (ha : d.sources[i]? = some a)
    (hb : d.sources[j]? = some b) (hwell : a.well = b.well) (hown : a.well ≠ 0) : i = j := by
  obtain ⟨hi, rfl⟩ := List.getElem?_eq_some_iff.mp ha
  obtain ⟨hj, rfl⟩ := List.getElem?_eq_some_iff.mp hb
  have hapart := List.pairwise_iff_getElem.mp h.apart
  rcases Nat.lt_trichotomy i j with hlt | heq | hgt
  · exact absurd (hapart i j hi hj hlt hwell) hown
  · exact heq
  · exact absurd (hwell.trans (hapart j i hj hi hgt hwell.symm)) hown

end Dice

end DiceNotation
