import DiceNotation.Text.Blank
import DiceNotation.Text.Digit
import DiceNotation.Text.Lowercase

/-!
# Lowercase text stays as it is

The lowercase form of a text consists of characters that are their own lowercase form wherever they
stand. So a text can be put in lowercase once only: what comes out is not changed any more, and it does
not matter what it is put beside. No character becomes blank on the way.

All of this rests on three facts about the case table, each read off the table itself: no run maps to
what a run maps from, every code point that is mapped to is a character, and none of them is blank or
the capital I with a dot. A fourth one is that digits of whatever script are not mapped.
-/

namespace DiceNotation.Text

/-! ## Ranges without digits -/

/-- Whether none of the code points from `first` to `last` is a digit of some script. -/
def offDigits (first last : Nat) : Bool := zeros.all fun start => last.blt start || (start + 9).blt first

theorem not_mem_of_offDigits {c : Char} (h : isDigit c = true) {first last : Nat}
    (hoff : offDigits first last = true) : c.toNat < first ∨ last < c.toNat := by
  obtain ⟨start, hstart, hin⟩ := List.any_eq_true.mp h
  have hapart := List.all_eq_true.mp hoff start hstart
  simp only [Bool.and_eq_true, decide_eq_true_eq] at hin
  simp only [Bool.or_eq_true, Nat.blt_eq] at hapart
  omega

/-! ## The case table -/

/-- The last code point that a run maps to. -/
def CaseRun.lastTarget (run : CaseRun) : Nat := run.target + (run.last - run.first)

/-- Whether a run maps to nothing that `other` maps from: they lie apart, or they alternate. -/
def CaseRun.misses (run other : CaseRun) : Bool :=
  run.lastTarget.blt other.first || other.last.blt run.target ||
    (other.step == 2 && (run.step == 2 || run.first == run.last) && (run.target + other.first) % 2 == 1)

/-- Whether a run maps to nothing between two code points. -/
def CaseRun.avoids (run : CaseRun) (range : Nat × Nat) : Bool :=
  run.lastTarget.blt range.1 || range.2.blt run.target

/-- Runs that stand together in a table, and the code points between which they lie. -/
structure CaseBlock where
  first : Nat
  last : Nat
  runs : List CaseRun

/-- A table in blocks of `size` runs, `count` of them. -/
def caseBlocks (size : Nat) : Nat → List CaseRun → List CaseBlock
  | 0, _ => []
  | count + 1, runs =>
    let block := runs.take size
    ⟨block.head?.elim 0 (·.first), block.getLast?.elim 0 (·.last), block⟩ ::
      caseBlocks size count (runs.drop size)

theorem flatMap_runs_caseBlocks (size count : Nat) (runs : List CaseRun) :
    (caseBlocks size count runs).flatMap (·.runs) = runs.take (count * size) := by
  induction count generalizing runs with
  | zero => simp [caseBlocks]
  | succ count ih => rw [caseBlocks, List.flatMap_cons, ih, Nat.succ_mul, Nat.add_comm, List.take_add]

/-- The case table in blocks. -/
def caseTable : List CaseBlock := caseBlocks 14 13 caseRuns

/-- Whether a run maps to nothing that the runs of a block map from. Most blocks lie apart as a whole. -/
def CaseRun.missesBlock (run : CaseRun) (block : CaseBlock) : Bool :=
  run.lastTarget.blt block.first || block.last.blt run.target || block.runs.all run.misses

/-- What is read off the case table. It is one computation for all, as each of several would have to wait for
those before it. -/
theorem caseTable_checked :
    (caseRuns.length ≤ 13 * 14 ∧
      (∀ block ∈ caseTable, ∀ run ∈ block.runs, block.first ≤ run.first ∧ run.last ≤ block.last) ∧
      (caseRuns.all fun run => caseTable.all run.missesBlock) = true) ∧
    (caseRuns.all fun run => ((0x130, 0x130) :: blankRanges).all run.avoids) = true ∧
    (∀ run ∈ caseRuns, run.lastTarget < 0xD800 ∨ 0xDFFF < run.target ∧ run.lastTarget < 0x110000) ∧
    (caseRuns.all fun run => offDigits run.first run.last) = true := by
  decide +kernel

/-- No run maps to what a run maps from. -/
theorem caseRuns_miss {run other : CaseRun} (hrun : run ∈ caseRuns) (hother : other ∈ caseRuns) :
    run.misses other = true := by
  obtain ⟨⟨hlength, hbounds, hmiss⟩, -⟩ := caseTable_checked
  have htable : caseTable.flatMap (·.runs) = caseRuns :=
    (flatMap_runs_caseBlocks 14 13 caseRuns).trans (List.take_of_length_le hlength)
  rw [← htable, List.mem_flatMap] at hother
  obtain ⟨block, hblock, hin⟩ := hother
  obtain ⟨hfirst, hlast⟩ := hbounds block hblock other hin
  have happart := List.all_eq_true.mp (List.all_eq_true.mp hmiss run hrun) block hblock
  simp only [CaseRun.missesBlock, Bool.or_eq_true, Nat.blt_eq] at happart
  rcases happart with (hbefore | hafter) | hall
  · have hbelow : run.lastTarget < other.first := by omega
    simp [CaseRun.misses, hbelow]
  · have habove : other.last < run.target := by omega
    simp [CaseRun.misses, habove]
  · exact List.all_eq_true.mp hall other hin

/-- The lowercase forms that no run of the table gives, and the capital sigma, which has two of them. -/
theorem lowerCode_special :
    lowerCode 'i'.toNat = 'i'.toNat ∧ lowerCode '\u0307'.toNat = '\u0307'.toNat ∧
      lowerCode 'ς'.toNat = 'ς'.toNat ∧ lowerCode 'σ'.toNat = 'σ'.toNat ∧ lowerCode 'Σ'.toNat ≠ 'Σ'.toNat := by
  decide +kernel

theorem CaseRun.bounds {run : CaseRun} {code : Nat} (h : run.covers code = true) :
    run.first ≤ code ∧ code ≤ run.last ∧ (code - run.first) % run.step = 0 := by
  simpa [CaseRun.covers, and_assoc] using h

/-- What a run maps to is between its first and last targets. -/
theorem CaseRun.le_lastTarget {run : CaseRun} {code : Nat} (h : run.covers code = true) :
    run.target + (code - run.first) ≤ run.lastTarget := by
  obtain ⟨_, hlast, _⟩ := CaseRun.bounds h
  unfold CaseRun.lastTarget
  omega

theorem CaseRun.not_covers_of_misses {run other : CaseRun} {code : Nat}
    (hm : run.misses other = true) (h : run.covers code = true) :
    other.covers (run.target + (code - run.first)) = false := by
  have hle := CaseRun.le_lastTarget h
  obtain ⟨hfirst, hlast, hstep⟩ := CaseRun.bounds h
  rw [Bool.eq_false_iff]
  intro hc
  obtain ⟨cfirst, clast, cstep⟩ := CaseRun.bounds hc
  simp only [CaseRun.misses, Bool.or_eq_true, Bool.and_eq_true, Nat.blt_eq, beq_iff_eq] at hm
  rcases hm with (hm | hm) | ⟨⟨hs, halt⟩, hodd⟩
  · omega
  · omega
  · -- both advance by two, from starting points of different parity
    rw [hs] at cstep
    rcases halt with halt | halt
    · rw [halt] at hstep
      omega
    · omega

/-! ## Single characters -/

/-- A code point is mapped by one of the runs, or it is its own lowercase form. -/
theorem lowerCode_cases (code : Nat) :
    (lowerCode code = code ∧ ∀ run ∈ caseRuns, run.covers code = false) ∨
    ∃ run ∈ caseRuns, run.covers code = true ∧ lowerCode code = run.target + (code - run.first) := by
  unfold lowerCode
  cases hf : caseRuns.find? (·.covers code) with
  | none =>
    rw [List.find?_eq_none] at hf
    exact Or.inl ⟨rfl, fun run hr => by simpa using hf run hr⟩
  | some run =>
    have hc : run.covers code = true := by simpa using List.find?_some hf
    exact Or.inr ⟨run, List.mem_of_find?_eq_some hf, hc, rfl⟩

theorem lowerCode_of_not_covers {code : Nat} (h : ∀ run ∈ caseRuns, run.covers code = false) :
    lowerCode code = code := by
  rcases lowerCode_cases code with ⟨heq, _⟩ | ⟨run, hr, hc, _⟩
  · exact heq
  · exact absurd (h run hr) (by simp [hc])

/-- What a code point is mapped to is not mapped any further. -/
theorem lowerCode_lowerCode (code : Nat) : lowerCode (lowerCode code) = lowerCode code := by
  rcases lowerCode_cases code with ⟨heq, hnone⟩ | ⟨run, hr, hc, heq⟩
  · rw [heq, heq]
  · rw [heq]
    -- the run that maps the code point misses all runs, so none of them maps it on
    exact lowerCode_of_not_covers fun other ho => CaseRun.not_covers_of_misses (caseRuns_miss hr ho) hc

/-- A code point that is mapped into a blank range, or to the capital I with a dot, was there before. -/
theorem mem_range_of_lowerCode {range : Nat × Nat} {code : Nat}
    (hrange : range ∈ (0x130, 0x130) :: blankRanges)
    (h : range.1 ≤ lowerCode code ∧ lowerCode code ≤ range.2) : range.1 ≤ code ∧ code ≤ range.2 := by
  rcases lowerCode_cases code with ⟨heq, _⟩ | ⟨run, hr, hc, heq⟩
  · rwa [heq] at h
  · have hle := CaseRun.le_lastTarget hc
    have hav := List.all_eq_true.mp (List.all_eq_true.mp caseTable_checked.2.1 run hr) range hrange
    simp only [CaseRun.avoids, Bool.or_eq_true, Nat.blt_eq] at hav
    omega

theorem toNat_ofNat {code : Nat} (h : code.isValidChar) : (Char.ofNat code).toNat = code := by
  rw [Char.ofNat, dif_pos h]
  rfl

theorem isValidChar_lowerCode (c : Char) : (lowerCode c.toNat).isValidChar := by
  rcases lowerCode_cases c.toNat with ⟨heq, _⟩ | ⟨run, hr, hc, heq⟩
  · rw [heq]
    exact c.valid
  · have hle := CaseRun.le_lastTarget hc
    have hlast := caseTable_checked.2.2.1 run hr
    rw [heq]
    unfold Nat.isValidChar
    omega

/-- A character that is its own lowercase form, whatever stands beside it. -/
def IsLower (c : Char) : Prop := c ≠ 'Σ' ∧ lowerChar c = [c]

theorem isLower_of_lowerCode {c : Char} (hI : c ≠ 'İ') (h : lowerCode c.toNat = c.toNat) :
    IsLower c := by
  refine ⟨?_, ?_⟩
  · intro heq
    subst heq
    exact lowerCode_special.2.2.2.2 h
  · rw [lowerChar, if_neg hI, h, Char.ofNat_toNat]

/-- Digits have no case. -/
theorem isLower_of_isDigit {c : Char} (h : isDigit c = true) : IsLower c := by
  refine isLower_of_lowerCode ?_ (lowerCode_of_not_covers fun run hr => ?_)
  · rintro rfl
    exact absurd h (by decide)
  · have hoff := not_mem_of_offDigits h (List.all_eq_true.mp caseTable_checked.2.2.2 run hr)
    rw [Bool.eq_false_iff]
    intro hc
    obtain ⟨cfirst, clast, _⟩ := CaseRun.bounds hc
    omega

/-- The lowercase forms of a character that stands alone. -/
theorem mem_lowerChar {c d : Char} (h : d ∈ lowerChar c) :
    c = 'İ' ∧ (d = 'i' ∨ d = '\u0307') ∨ c ≠ 'İ' ∧ d.toNat = lowerCode c.toNat := by
  unfold lowerChar at h
  split at h
  · exact Or.inl ⟨by assumption, by simpa using h⟩
  · rename_i hI
    rw [List.mem_singleton] at h
    exact Or.inr ⟨hI, by rw [h, toNat_ofNat (isValidChar_lowerCode c)]⟩

theorem isLower_of_mem_lowerChar {c d : Char} (h : d ∈ lowerChar c) : IsLower d := by
  rcases mem_lowerChar h with ⟨_, rfl | rfl⟩ | ⟨hI, hd⟩
  · exact isLower_of_lowerCode (by decide) lowerCode_special.1
  · exact isLower_of_lowerCode (by decide) lowerCode_special.2.1
  · refine isLower_of_lowerCode ?_ (by rw [hd, lowerCode_lowerCode])
    -- the capital I with a dot is not mapped to
    intro heq
    subst heq
    have hin : 0x130 ≤ c.toNat ∧ c.toNat ≤ 0x130 :=
      mem_range_of_lowerCode List.mem_cons_self (by rw [← hd]; decide)
    exact hI (Char.toNat_inj.1 (Nat.le_antisymm hin.2 hin.1))

/-- A character does not become blank. -/
theorem isBlank_of_mem_lowerChar {c d : Char} (h : d ∈ lowerChar c) (hb : isBlank d = true) :
    isBlank c = true := by
  rcases mem_lowerChar h with ⟨_, rfl | rfl⟩ | ⟨_, hd⟩
  · exact absurd hb (by decide)
  · exact absurd hb (by decide)
  · unfold isBlank CodeRanges.covers at hb ⊢
    rw [List.any_eq_true] at hb ⊢
    obtain ⟨range, hr, hin⟩ := hb
    rw [hd] at hin
    have hc := mem_range_of_lowerCode (List.mem_cons_of_mem _ hr) (by simpa using hin)
    exact ⟨range, hr, by simpa using hc⟩

/-! ## Texts -/

/-- A character of a lowercase text comes from one of the characters that were put in lowercase. -/
theorem mem_lowerFrom {afterCased : Bool} {text : List Char} {d : Char}
    (h : d ∈ lowerFrom afterCased text) :
    ∃ c ∈ text, d ∈ lowerChar c ∨ c = 'Σ' ∧ (d = 'ς' ∨ d = 'σ') := by
  induction text generalizing afterCased with
  | nil => simp [lowerFrom] at h
  | cons c rest ih =>
    unfold lowerFrom at h
    rcases List.mem_append.mp h with hd | hd
    · refine ⟨c, List.mem_cons_self, ?_⟩
      split at hd
      · right
        refine ⟨by assumption, ?_⟩
        rw [List.mem_singleton] at hd
        split at hd
        · exact Or.inl hd
        · exact Or.inr hd
      · exact Or.inl hd
    · obtain ⟨c', hc', hd'⟩ := ih hd
      exact ⟨c', List.mem_cons_of_mem c hc', hd'⟩

theorem isLower_of_mem_lowerFrom {afterCased : Bool} {text : List Char} {d : Char}
    (h : d ∈ lowerFrom afterCased text) : IsLower d := by
  obtain ⟨c, _, hd | ⟨_, rfl | rfl⟩⟩ := mem_lowerFrom h
  · exact isLower_of_mem_lowerChar hd
  · exact isLower_of_lowerCode (by decide) lowerCode_special.2.2.1
  · exact isLower_of_lowerCode (by decide) lowerCode_special.2.2.2.1

theorem exists_isBlank_of_lowerFrom {afterCased : Bool} {text : List Char} {d : Char}
    (h : d ∈ lowerFrom afterCased text) (hb : isBlank d = true) : ∃ c ∈ text, isBlank c = true := by
  obtain ⟨c, hc, hd | ⟨_, rfl | rfl⟩⟩ := mem_lowerFrom h
  · exact ⟨c, hc, isBlank_of_mem_lowerChar hd hb⟩
  · exact absurd hb (by decide)
  · exact absurd hb (by decide)

/-- A text of characters that are their own lowercase form is not changed. -/
theorem lowerFrom_of_isLower (afterCased : Bool) {text : List Char} (h : ∀ c ∈ text, IsLower c) :
    lowerFrom afterCased text = text := by
  induction text generalizing afterCased with
  | nil => rfl
  | cons c rest ih =>
    obtain ⟨hsigma, hlower⟩ := h c List.mem_cons_self
    unfold lowerFrom
    rw [if_neg hsigma, hlower, ih _ fun d hd => h d (List.mem_cons_of_mem c hd), List.singleton_append]

end DiceNotation.Text
