import DiceNotation.Limits.Reading
import DiceNotation.Proofs.Settings.Validator

/-!
# What limits are read from a table

A table in which no key stands twice is read limit by limit: either all that is given stands for limits, and what
is not given has its standard value, or all that does not is reported, and nothing else is. What a value stands
for is told by the validator.

As every limit is looked up by its key, a table may hold any other keys as well.
-/

namespace DiceNotation

/-- Where no key stands twice, looking a key up finds the entry that has it. -/
theorem lookup_eq_some_iff {α : Type} {entries : List (String × α)} {key : String} {a : α}
    (h : (entries.map Prod.fst).Nodup) : entries.lookup key = some a ↔ (key, a) ∈ entries := by
  induction entries with
  | nil => simp
  | cons entry rest ih =>
    obtain ⟨other, b⟩ := entry
    obtain ⟨hother, hrest⟩ := List.nodup_cons.mp h
    rw [List.mem_cons, Prod.mk.injEq, ← ih hrest, List.lookup_cons]
    by_cases hkey : key = other
    · subst hkey
      have hnone : rest.lookup key ≠ some a := fun hsome =>
        hother (List.mem_map.mpr ⟨(key, a), (ih hrest).mp hsome, rfl⟩)
      simp [hnone, eq_comm]
    · simp [hkey, beq_eq_false_iff_ne.mpr hkey]

theorem valueUnder?_eq_some_iff {entries : List (String × Value)} {key : String} {v : Value}
    (h : (entries.map Prod.fst).Nodup) : valueUnder? entries key = some v ↔ (key, v) ∈ entries := by
  have hreverse : (entries.reverse.map Prod.fst).Nodup := by
    rw [List.map_reverse, List.nodup_reverse]
    exact h
  rw [valueUnder?, lookup_eq_some_iff hreverse, List.mem_reverse]

namespace LimitField

theorem mem_all (field : LimitField) : field ∈ all := by
  cases field <;> decide

/-- The limits have keys of their own. -/
theorem nodup_keys : ((all.map rule).map NumberRule.key).Nodup := by
  decide

theorem forall_mem_rules {p : NumberRule → Prop} : (∀ r ∈ all.map rule, p r) ↔ ∀ field : LimitField, p field.rule :=
  List.forall_mem_map.trans ⟨fun h field => h field field.mem_all, fun h field _ => h field⟩

end LimitField

namespace Limits

/-- Every limit is at least one. -/
def Usable (limits : Limits) : Prop := ∀ field, 1 ≤ limits.get field

theorem usable_standard : Usable .standard := by
  intro field
  cases field <;> decide

theorem eq_of_get {limits others : Limits} (h : ∀ field, limits.get field = others.get field) :
    limits = others := by
  obtain ⟨maxLength, maxChunks, maxDice, maxFaces⟩ := limits
  rw [Limits.mk.injEq]
  exact ⟨h .maxLength, h .maxChunks, h .maxDice, h .maxFaces⟩

theorem get_ofNumbers (number : String → Int) (field : LimitField) :
    (ofNumbers number).get field = (number field.key).toNat := by
  cases field <;> rfl

end Limits

section Reading

variable [Validator]

/-- The value is no limit, and refused for that: it stands for no whole number, or for one below one. -/
def Value.IsRefused (v : Value) (refusal : Refusal) : Prop :=
  Validator.whole v = .error refusal ∨ (∃ n < 1, Validator.whole v = .ok n) ∧ refusal = Validator.below 1

/-- The limits are those that the fields of a table give. -/
structure Limits.GivenBy (fields : List (String × Value)) (limits : Limits) : Prop where
  /-- A limit that is given is the number that its value stands for. -/
  given : ∀ field v, (field.key, v) ∈ fields → Validator.whole v = .ok (limits.get field : Int)
  /-- A limit that is not given has its standard value. -/
  absent : ∀ field, (∀ v, (field.key, v) ∉ fields) → limits.get field = Limits.standard.get field
  /-- Every limit is at least one. -/
  usable : limits.Usable

/-- The errors are those of the fields of a table. -/
structure ReportedBy (fields : List (String × Value)) (errors : List EntryError) : Prop where
  /-- There are errors. -/
  ne_nil : errors ≠ []
  /-- They are in the order of the limits, and there is at most one for each. -/
  ordered : (errors.map EntryError.key).Sublist (LimitField.all.map LimitField.key)
  /-- There is one for each value that is given for a limit and is none, with its reason. -/
  mem_iff : ∀ e, e ∈ errors ↔
    (∃ field : LimitField, e.key = field.key) ∧ (e.key, e.given) ∈ fields ∧ e.given.IsRefused e.refusal

variable {fields : List (String × Value)} {limits others : Limits} {errors : List EntryError}

/-- A table gives one kind of limits only. -/
theorem Limits.GivenBy.unique (h : GivenBy fields limits) (h' : GivenBy fields others) : limits = others := by
  refine eq_of_get fun field => ?_
  by_cases hgiven : ∃ v, (field.key, v) ∈ fields
  · obtain ⟨v, hv⟩ := hgiven
    exact Int.ofNat_inj.mp (Except.ok.inj ((h.given field v hv).symm.trans (h'.given field v hv)))
  · rw [h.absent field (not_exists.mp hgiven), h'.absent field (not_exists.mp hgiven)]

/-- No table gives limits and has errors. -/
theorem Limits.GivenBy.not_reportedBy (h : GivenBy fields limits) (herrors : ReportedBy fields errors) : False := by
  obtain ⟨e, he⟩ := List.exists_mem_of_ne_nil errors herrors.ne_nil
  obtain ⟨⟨field, hkey⟩, hgiven, hrefused⟩ := (herrors.mem_iff e).mp he
  rw [hkey] at hgiven
  have hwhole := h.given field e.given hgiven
  rcases hrefused with herror | ⟨⟨n, hbelow, hn⟩, -⟩
  · rw [hwhole] at herror
    cases herror
  · have hleast := h.usable field
    have heq := Except.ok.inj (hwhole.symm.trans hn)
    omega

variable [LawfulValidator]

/-! ## One limit -/

/-- The value of a limit is none if and only if it is refused. -/
theorem error?_rule_eq_some_iff (h : (fields.map Prod.fst).Nodup) {field : LimitField} {e : EntryError} :
    Validator.error? fields field.rule = some e ↔
      e.key = field.key ∧ (field.key, e.given) ∈ fields ∧ e.given.IsRefused e.refusal := by
  rw [Validator.error?_eq_some_iff, valueUnder?_eq_some_iff h, Validator.check_some_eq_error_iff]
  rfl

theorem mem_errors_iff (h : (fields.map Prod.fst).Nodup) {e : EntryError} :
    e ∈ (LimitField.all.map LimitField.rule).filterMap (Validator.error? fields) ↔
      (∃ field : LimitField, e.key = field.key) ∧ (e.key, e.given) ∈ fields ∧ e.given.IsRefused e.refusal := by
  rw [List.mem_filterMap]
  constructor
  · rintro ⟨_, hrule, herror⟩
    obtain ⟨field, -, rfl⟩ := List.mem_map.mp hrule
    obtain ⟨hkey, hgiven, hrefused⟩ := (error?_rule_eq_some_iff h).mp herror
    exact ⟨⟨field, hkey⟩, hkey ▸ hgiven, hrefused⟩
  · rintro ⟨⟨field, hkey⟩, hgiven, hrefused⟩
    exact ⟨field.rule, List.mem_map_of_mem field.mem_all,
      (error?_rule_eq_some_iff h).mpr ⟨hkey, hkey ▸ hgiven, hrefused⟩⟩

/-! ## All limits -/

/-- Where nothing is wrong, the limits are those that are given. -/
theorem givenBy_ofNumbers (h : (fields.map Prod.fst).Nodup) {number : String → Int}
    (hnumber : ∀ field : LimitField,
      Validator.check field.rule (valueUnder? fields field.key) = .ok (number field.key)) :
    (Limits.ofNumbers number).GivenBy fields := by
  have hgiven {field : LimitField} {v : Value} (hv : valueUnder? fields field.key = some v) :
      Validator.whole v = .ok (number field.key) ∧ 1 ≤ number field.key :=
    Validator.check_some_eq_ok_iff.mp (hv ▸ hnumber field)
  have habsent {field : LimitField} (hv : valueUnder? fields field.key = none) :
      number field.key = (Limits.standard.get field : Int) := by
    have hcheck := hnumber field
    rw [hv, LawfulValidator.check_none] at hcheck
    exact (Except.ok.inj hcheck).symm
  refine ⟨fun field v hv => ?_, fun field hnone => ?_, fun field => ?_⟩
  · obtain ⟨hwhole, hleast⟩ := hgiven ((valueUnder?_eq_some_iff h).mpr hv)
    rw [hwhole, Limits.get_ofNumbers, Int.toNat_of_nonneg (by omega)]
  · rw [Limits.get_ofNumbers, habsent, Int.toNat_natCast]
    exact Option.eq_none_iff_forall_ne_some.mpr fun v hv => hnone v ((valueUnder?_eq_some_iff h).mp hv)
  · rw [Limits.get_ofNumbers]
    cases hv : valueUnder? fields field.key with
    | none =>
      rw [habsent hv, Int.toNat_natCast]
      exact Limits.usable_standard field
    | some v =>
      obtain ⟨-, hleast⟩ := hgiven hv
      omega

/-- What is read of a table: the limits that it gives, or the errors in it. -/
theorem ofEntries_cases (h : (fields.map Prod.fst).Nodup) :
    (∃ limits, Limits.ofEntries fields = .ok limits ∧ limits.GivenBy fields) ∨
      ∃ errors, Limits.ofEntries fields = .error errors ∧ ReportedBy fields errors := by
  unfold Limits.ofEntries
  rcases Validator.read_cases fields LimitField.nodup_keys with ⟨-, number, hread, hnumber⟩ | ⟨hne, hread⟩
  · rw [hread]
    exact Or.inl ⟨_, rfl, givenBy_ofNumbers h (LimitField.forall_mem_rules.mp hnumber)⟩
  · rw [hread]
    have hordered := Validator.sublist_map_key fields (LimitField.all.map LimitField.rule)
    rw [List.map_map] at hordered
    exact Or.inr ⟨_, rfl, hne, hordered, fun e => mem_errors_iff h⟩

/-- A table has one list of errors only. -/
theorem ReportedBy.eq_filterMap (h : (fields.map Prod.fst).Nodup) (herrors : ReportedBy fields errors) :
    errors = (LimitField.all.map LimitField.rule).filterMap (Validator.error? fields) := by
  have hordered := herrors.ordered
  refine Validator.eq_filterMap_error? LimitField.nodup_keys (by rwa [List.map_map]) ?_ ?_
  · intro e he rule hrule hkey
    obtain ⟨field, -, rfl⟩ := List.mem_map.mp hrule
    obtain ⟨-, hgiven, hrefused⟩ := (herrors.mem_iff e).mp he
    have hkey : e.key = field.key := hkey
    exact (error?_rule_eq_some_iff h).mpr ⟨hkey, hkey ▸ hgiven, hrefused⟩
  · intro rule hrule e he
    exact (herrors.mem_iff e).mpr ((mem_errors_iff h).mp (List.mem_filterMap.mpr ⟨rule, hrule, he⟩))

/-- **Limits are read** if and only if they are those that are given, nothing being wrong with any. -/
theorem Limits.ofEntries_eq_ok_iff (h : (fields.map Prod.fst).Nodup) :
    ofEntries fields = .ok limits ↔ GivenBy fields limits := by
  rcases ofEntries_cases h with ⟨made, hmade, hgiven⟩ | ⟨errors, herrors, hreported⟩
  · rw [hmade]
    constructor
    · rintro ⟨⟩
      exact hgiven
    · intro hlimits
      rw [hgiven.unique hlimits]
  · rw [herrors]
    exact iff_of_false nofun fun hlimits => hlimits.not_reportedBy hreported

/-- **Errors are reported** if and only if they are all that is wrong. -/
theorem Limits.ofEntries_eq_error_iff (h : (fields.map Prod.fst).Nodup) :
    ofEntries fields = .error errors ↔ ReportedBy fields errors := by
  rcases ofEntries_cases h with ⟨made, hmade, hgiven⟩ | ⟨reported, herrors, hreported⟩
  · rw [hmade]
    exact iff_of_false nofun fun herrors => hgiven.not_reportedBy herrors
  · rw [herrors]
    constructor
    · rintro ⟨⟩
      exact hreported
    · intro h'
      rw [hreported.eq_filterMap h, h'.eq_filterMap h]

/-- An empty table gives the standard limits. -/
theorem Limits.ofEntries_nil : ofEntries [] = .ok .standard :=
  (ofEntries_eq_ok_iff (by simp)).mpr ⟨fun _ _ => nofun, fun _ _ => rfl, usable_standard⟩

/-! ## Other keys -/

/-- Only the values of the four limits make a difference. -/
theorem Limits.ofEntries_congr {fields others : List (String × Value)} (h : (fields.map Prod.fst).Nodup)
    (h' : (others.map Prod.fst).Nodup)
    (halike : ∀ (field : LimitField) v, (field.key, v) ∈ fields ↔ (field.key, v) ∈ others) :
    ofEntries fields = ofEntries others := by
  rcases ofEntries_cases h with ⟨limits, hlimits, hgiven⟩ | ⟨errors, herrors, hreported⟩
  · rw [hlimits, eq_comm, ofEntries_eq_ok_iff h']
    exact ⟨fun field v hv => hgiven.given field v ((halike field v).mpr hv),
      fun field hnone => hgiven.absent field fun v hv => hnone v ((halike field v).mp hv), hgiven.usable⟩
  · rw [herrors, eq_comm, ofEntries_eq_error_iff h']
    refine ⟨hreported.ne_nil, hreported.ordered, fun e => (hreported.mem_iff e).trans ?_⟩
    refine and_congr_right fun hkey => ?_
    obtain ⟨field, hfield⟩ := hkey
    rw [hfield, halike]

end Reading

end DiceNotation
