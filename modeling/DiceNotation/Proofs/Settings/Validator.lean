import DiceNotation.Settings.Lenient
import Mathlib.Data.List.Nodup

/-!
# What is known of validators

A validator comes from outside, so that what it does to a value is not known here. What is known is how it goes
through the rules: a value is looked up under the key of the rule, the standard number holds where there is none,
a number below the least one is refused, and every refusal is reported, in the order of the rules. Entries under
other keys are not looked at.

From these laws, which speak of one rule each, follows what is read by any rules with keys of their own: either
each of them has its number, or the errors are those of the rules that have one.
-/

namespace DiceNotation

/-- The errors of what was read. -/
def errorsOf {α : Type} : Except (List EntryError) α → List EntryError
  | .ok _ => []
  | .error errors => errors

/-- What all validators have in common. -/
class LawfulValidator [Validator] : Prop where
  /-- Where no value is given the standard number holds. -/
  check_none : ∀ rule, Validator.check rule none = .ok (rule.standard : Int)
  /-- What stands for no whole number is refused for that. -/
  check_refused : ∀ rule {v refusal}, Validator.whole v = .error refusal →
    Validator.check rule (some v) = .error refusal
  check_below : ∀ rule {v n}, Validator.whole v = .ok n → n < rule.least →
    Validator.check rule (some v) = .error (Validator.below rule.least)
  check_ok : ∀ rule {v n}, Validator.whole v = .ok n → rule.least ≤ n →
    Validator.check rule (some v) = .ok n
  read_nil : ∀ entries, ∃ number, Validator.read [] entries = .ok number
  /-- A number that holds by the first rule stands under its key. -/
  read_passed : ∀ rule rules entries {n}, Validator.check rule (valueUnder? entries rule.key) = .ok n →
    Validator.read (rule :: rules) entries =
      (Validator.read rules entries).map fun number key => if key = rule.key then n else number key
  /-- A value that is refused is reported, and those after it all the same. -/
  read_refused : ∀ rule rules entries {v refusal}, valueUnder? entries rule.key = some v →
    Validator.check rule (some v) = .error refusal →
    Validator.read (rule :: rules) entries =
      .error (⟨rule.key, refusal, v⟩ :: errorsOf (Validator.read rules entries))

namespace Validator

/-- What is wrong with the value that a table gives for a rule. -/
def error? [Validator] (entries : List (String × Value)) (rule : NumberRule) : Option EntryError :=
  (valueUnder? entries rule.key).bind fun v =>
    match check rule (some v) with
    | .ok _ => none
    | .error refusal => some ⟨rule.key, refusal, v⟩

section Laws

variable [Validator] [LawfulValidator] {rule : NumberRule} {v : Value} {entries : List (String × Value)}

/-! ## One rule -/

theorem check_some_eq_ok_iff {n : Int} :
    check rule (some v) = .ok n ↔ whole v = .ok n ∧ rule.least ≤ n := by
  constructor
  · intro h
    cases hwhole : whole v with
    | error refusal =>
      rw [LawfulValidator.check_refused rule hwhole] at h
      cases h
    | ok m =>
      by_cases hleast : rule.least ≤ m
      · rw [LawfulValidator.check_ok rule hwhole hleast] at h
        cases h
        exact ⟨rfl, hleast⟩
      · rw [LawfulValidator.check_below rule hwhole (Int.not_le.mp hleast)] at h
        cases h
  · rintro ⟨hwhole, hleast⟩
    exact LawfulValidator.check_ok rule hwhole hleast

theorem check_some_eq_error_iff {refusal : Refusal} :
    check rule (some v) = .error refusal ↔
      whole v = .error refusal ∨ (∃ n < rule.least, whole v = .ok n) ∧ refusal = below rule.least := by
  constructor
  · intro h
    cases hwhole : whole v with
    | error other =>
      rw [LawfulValidator.check_refused rule hwhole] at h
      exact Or.inl h
    | ok m =>
      by_cases hleast : rule.least ≤ m
      · rw [LawfulValidator.check_ok rule hwhole hleast] at h
        cases h
      · rw [LawfulValidator.check_below rule hwhole (Int.not_le.mp hleast)] at h
        cases h
        exact Or.inr ⟨⟨m, Int.not_le.mp hleast, rfl⟩, rfl⟩
  · rintro (hwhole | ⟨⟨n, hbelow, hwhole⟩, rfl⟩)
    · exact LawfulValidator.check_refused rule hwhole
    · exact LawfulValidator.check_below rule hwhole hbelow

omit [LawfulValidator] in
theorem error?_eq_some_iff {e : EntryError} :
    error? entries rule = some e ↔
      e.key = rule.key ∧ valueUnder? entries rule.key = some e.given ∧
        check rule (some e.given) = .error e.refusal := by
  unfold error?
  rw [Option.bind_eq_some_iff]
  constructor
  · rintro ⟨v, hgiven, herror⟩
    split at herror
    · cases herror
    · next refusal hrefusal =>
      cases herror
      exact ⟨rfl, hgiven, hrefusal⟩
  · rintro ⟨hkey, hgiven, hrefusal⟩
    refine ⟨e.given, hgiven, ?_⟩
    rw [hrefusal, ← hkey]

/-- A rule without an error has its number. -/
theorem exists_check_of_error?_eq_none (h : error? entries rule = none) :
    ∃ n, check rule (valueUnder? entries rule.key) = .ok n := by
  cases hgiven : valueUnder? entries rule.key with
  | none => exact ⟨rule.standard, LawfulValidator.check_none rule⟩
  | some v =>
    cases hcheck : check rule (some v) with
    | ok n => exact ⟨n, rfl⟩
    | error refusal =>
      have herror : error? entries rule = some ⟨rule.key, refusal, v⟩ :=
        error?_eq_some_iff.mpr ⟨rfl, hgiven, hcheck⟩
      rw [h] at herror
      cases herror

/-! ## One rule after the other -/

/-- **What is read by rules** with keys of their own: a number for each, or all errors. -/
theorem read_cases (entries : List (String × Value)) {rules : List NumberRule}
    (hkeys : (rules.map NumberRule.key).Nodup) :
    (rules.filterMap (error? entries) = [] ∧ ∃ number, read rules entries = .ok number ∧
        ∀ rule ∈ rules, check rule (valueUnder? entries rule.key) = .ok (number rule.key)) ∨
      rules.filterMap (error? entries) ≠ [] ∧
        read rules entries = .error (rules.filterMap (error? entries)) := by
  induction rules with
  | nil =>
    obtain ⟨number, hnumber⟩ := LawfulValidator.read_nil entries
    exact Or.inl ⟨rfl, number, hnumber, List.forall_mem_nil _⟩
  | cons rule rules ih =>
    obtain ⟨hkey, hkeys⟩ := List.nodup_cons.mp hkeys
    cases herror : error? entries rule with
    | some e =>
      obtain ⟨hkey, hgiven, hrefusal⟩ := error?_eq_some_iff.mp herror
      have herrors : errorsOf (read rules entries) = rules.filterMap (error? entries) := by
        rcases ih hkeys with ⟨hnil, number, hread, -⟩ | ⟨-, hread⟩
        · rw [hread, hnil, errorsOf]
        · rw [hread, errorsOf]
      rw [List.filterMap_cons_some herror]
      refine Or.inr ⟨List.cons_ne_nil _ _, ?_⟩
      rw [LawfulValidator.read_refused rule rules entries hgiven hrefusal, herrors, ← hkey]
    | none =>
      obtain ⟨n, hn⟩ := exists_check_of_error?_eq_none herror
      rw [List.filterMap_cons_none herror, LawfulValidator.read_passed rule rules entries hn]
      refine (ih hkeys).imp ?_ ?_
      · rintro ⟨hnil, number, hread, hnumber⟩
        refine ⟨hnil, _, by rw [hread]; rfl, List.forall_mem_cons.mpr ⟨?_, fun other hother => ?_⟩⟩
        · exact hn.trans (congrArg Except.ok (if_pos rfl).symm)
        · -- the number of the first rule stands in the way of no other, its key being its own
          have hne : other.key ≠ rule.key := fun heq => hkey (heq ▸ List.mem_map_of_mem hother)
          exact (hnumber other hother).trans (congrArg Except.ok (if_neg hne).symm)
      · rintro ⟨hne, hread⟩
        exact ⟨hne, by rw [hread]; rfl⟩

omit [LawfulValidator] in
/-- The errors of several rules are in the order of the rules. -/
theorem sublist_map_key (entries : List (String × Value)) (rules : List NumberRule) :
    ((rules.filterMap (error? entries)).map EntryError.key).Sublist (rules.map NumberRule.key) := by
  induction rules with
  | nil => exact .slnil
  | cons rule rules ih =>
    cases herror : error? entries rule with
    | none =>
      rw [List.filterMap_cons_none herror]
      exact ih.cons rule.key
    | some e =>
      rw [List.filterMap_cons_some herror, List.map_cons, (error?_eq_some_iff.mp herror).1]
      exact ih.cons_cons rule.key

omit [LawfulValidator] in
/-- Errors are known by their order and by what they are: they are those that the rules have. -/
theorem eq_filterMap_error? {rules : List NumberRule} {errors : List EntryError}
    (hkeys : (rules.map NumberRule.key).Nodup)
    (hordered : (errors.map EntryError.key).Sublist (rules.map NumberRule.key))
    (hsound : ∀ e ∈ errors, ∀ rule ∈ rules, e.key = rule.key → error? entries rule = some e)
    (hcomplete : ∀ rule ∈ rules, ∀ e, error? entries rule = some e → e ∈ errors) :
    errors = rules.filterMap (error? entries) := by
  induction rules generalizing errors with
  | nil => exact List.map_eq_nil_iff.mp (List.sublist_nil.mp hordered)
  | cons rule rules ih =>
    obtain ⟨hkey, hkeys⟩ := List.nodup_cons.mp hkeys
    rw [List.map_cons] at hordered
    generalize hmap : errors.map EntryError.key = seen at hordered
    cases hordered with
    | cons _ hseen =>
      -- an error of the first rule would have been seen among the others
      have hnone : error? entries rule = none := by
        refine Option.eq_none_iff_forall_ne_some.mpr fun e he => hkey ?_
        have hmem := List.mem_map_of_mem (f := EntryError.key) (hcomplete rule List.mem_cons_self e he)
        rw [hmap, (error?_eq_some_iff.mp he).1] at hmem
        exact hseen.subset hmem
      rw [List.filterMap_cons_none hnone]
      exact ih hkeys (hmap ▸ hseen) (fun e he other hother => hsound e he other (List.mem_cons_of_mem rule hother))
        fun other hother => hcomplete other (List.mem_cons_of_mem rule hother)
    | cons_cons _ hseen =>
      obtain ⟨e, more, rfl, he, rfl⟩ := List.map_eq_cons_iff.mp hmap
      rw [List.filterMap_cons_some (hsound e List.mem_cons_self rule List.mem_cons_self he)]
      refine congrArg (e :: ·) (ih hkeys hseen ?_ ?_)
      · intro d hd other hother
        exact hsound d (List.mem_cons_of_mem e hd) other (List.mem_cons_of_mem rule hother)
      · intro other hother d hd
        rcases List.mem_cons.mp (hcomplete other (List.mem_cons_of_mem rule hother) d hd) with rfl | hmore
        · have heq : other.key = rule.key := (error?_eq_some_iff.mp hd).1.symm.trans he
          exact absurd (heq ▸ List.mem_map_of_mem hother) hkey
        · exact hmore

end Laws

end Validator

/-! ## The lenient validator -/

namespace Lenient

variable {rule : NumberRule} {rules : List NumberRule} {entries : List (String × Value)} {v : Value} {n : Int}

theorem check_of_refused {refusal : Refusal} (h : whole v = .error refusal) :
    check rule (some v) = .error refusal := by
  simp only [check, h]

theorem check_of_below (h : whole v = .ok n) (hbelow : n < rule.least) :
    check rule (some v) = .error (below rule.least) := by
  simp only [check, h, if_neg (Int.not_le.mpr hbelow)]

theorem check_of_le (h : whole v = .ok n) (hleast : rule.least ≤ n) : check rule (some v) = .ok n := by
  simp only [check, h, if_pos hleast]

theorem error?_eq_none (h : check rule (valueUnder? entries rule.key) = .ok n) :
    error? entries rule = none := by
  unfold error?
  cases hgiven : valueUnder? entries rule.key with
  | none => rfl
  | some v =>
    rw [hgiven] at h
    simp only [h]

theorem error?_eq_some {refusal : Refusal} (hgiven : valueUnder? entries rule.key = some v)
    (h : check rule (some v) = .error refusal) : error? entries rule = some ⟨rule.key, refusal, v⟩ := by
  simp only [error?, hgiven, h]

theorem errorsOf_read (rules : List NumberRule) (entries : List (String × Value)) :
    errorsOf (read rules entries) = rules.filterMap (error? entries) := by
  unfold read
  split
  · next hnil => exact hnil.symm
  · rfl

theorem read_passed (h : check rule (valueUnder? entries rule.key) = .ok n) :
    read (rule :: rules) entries =
      (read rules entries).map fun number key => if key = rule.key then n else number key := by
  unfold read
  rw [List.filterMap_cons_none (error?_eq_none h)]
  split
  · refine congrArg Except.ok (funext fun key => ?_)
    simp only [numbers, h]
  · rfl

theorem read_refused {refusal : Refusal} (hgiven : valueUnder? entries rule.key = some v)
    (h : check rule (some v) = .error refusal) :
    read (rule :: rules) entries = .error (⟨rule.key, refusal, v⟩ :: errorsOf (read rules entries)) := by
  rw [errorsOf_read, read, List.filterMap_cons_some (error?_eq_some hgiven h)]

end Lenient

/-- The lenient validator is a validator, whatever its reports say. -/
theorem lawfulValidator_lenient (further : String → List String) : @LawfulValidator (.lenient further) :=
  letI : Validator := .lenient further
  { check_none _ := rfl
    check_refused _ _ _ h := Lenient.check_of_refused h
    check_below _ _ _ h hbelow := Lenient.check_of_below h hbelow
    check_ok _ _ _ h hleast := Lenient.check_of_le h hleast
    read_nil _ := ⟨_, rfl⟩
    read_passed _ _ _ _ h := Lenient.read_passed h
    read_refused _ _ _ _ _ hgiven h := Lenient.read_refused hgiven h }

end DiceNotation
