import Mathlib
import DiceNotation.Proofs.CommandLine.Project
import DiceNotation.Proofs.Limits.Reading
import DiceNotation.Proofs.Toml.Keys

/-!
# What limits are loaded from a document

A document that can be read at all comes to one of three things: the standard limits, if it sets none; the
limits that its table `dice` gives, all of them at least one; or an error, if that is no table, or for the
fields of the table that are no limits. So no command ever works under limits that let nothing through.
-/

namespace DiceNotation

/-- What the entries of a document come to. -/
inductive LoadsTo [Validator] (entries : List (String × Value)) : Except LoadError Limits → Prop
  /-- There is nothing under the key. -/
  | missing : (∀ v, ("dice", v) ∉ entries) → LoadsTo entries (.ok .standard)
  /-- What is there counts as absent, as an empty table does. -/
  | bare {v : Value} : ("dice", v) ∈ entries → v.isBare = true → LoadsTo entries (.ok .standard)
  | notATable {v : Value} : ("dice", v) ∈ entries → v.isBare = false → (∀ fields, v ≠ .table fields) →
      LoadsTo entries (.error .notATable)
  | read {fields : List (String × Value)} {limits : Limits} : ("dice", .table fields) ∈ entries →
      fields ≠ [] → limits.GivenBy fields → LoadsTo entries (.ok limits)
  | refused {fields : List (String × Value)} {errors : List EntryError} : ("dice", .table fields) ∈ entries →
      fields ≠ [] → ReportedBy fields errors → LoadsTo entries (.error (.limits errors))

/-- Two documents have tables that agree on the limits, whatever else they hold. -/
def SetAlike (entries others : List (String × Value)) : Prop :=
  ∃ fields more, ("dice", .table fields) ∈ entries ∧ ("dice", .table more) ∈ others ∧
    ∀ (field : LimitField) v, (field.key, v) ∈ fields ↔ (field.key, v) ∈ more

/-! ## Documents -/

variable {file : File} {entries : List (String × Value)}

theorem File.unambiguous_entries (h : file.entries = .ok entries) : (Value.table entries).Unambiguous := by
  cases file with
  | missing =>
    cases h
    exact .table List.nodup_nil (List.forall_mem_nil _)
  | directory | unreachable => cases h
  | document text =>
    unfold File.entries at h
    dsimp only at h
    cases hread : Toml.read text with
    | ok read =>
      rw [hread] at h
      cases h
      exact Toml.unambiguous_of_read hread
    | error fault =>
      rw [hread] at h
      cases fault with
      | malformed => cases h
      | overlong numeral => cases h

theorem nodup_of_unambiguous {entries : List (String × Value)} (h : (Value.table entries).Unambiguous) :
    (entries.map Prod.fst).Nodup := by
  cases h with
  | scalar _ htable => exact absurd rfl (htable entries)
  | table hkeys _ => exact hkeys

theorem unambiguous_of_mem {entries : List (String × Value)} (h : (Value.table entries).Unambiguous)
    {key : String} {v : Value} (hv : (key, v) ∈ entries) : v.Unambiguous := by
  cases h with
  | scalar _ htable => exact absurd rfl (htable entries)
  | table _ hvalues => exact hvalues (key, v) hv

/-- What is under the key is looked up, there being one such entry at most. -/
theorem lookup_dice_eq_some_iff (h : file.entries = .ok entries) {v : Value} :
    entries.lookup "dice" = some v ↔ ("dice", v) ∈ entries :=
  lookup_eq_some_iff (nodup_of_unambiguous (file.unambiguous_entries h))

theorem nodup_of_mem_table (h : file.entries = .ok entries) {key : String} {fields : List (String × Value)}
    (hfields : (key, .table fields) ∈ entries) : (fields.map Prod.fst).Nodup :=
  nodup_of_unambiguous (unambiguous_of_mem (file.unambiguous_entries h) hfields)

/-! ## Loading -/

section Loading

variable [Validator]

theorem loadLimits_of_missing (h : file.entries = .ok entries) (hmissing : entries.lookup "dice" = none)
    (path : String) : (loadLimits path file).1 = .ok .standard := by
  unfold loadLimits limitsOfEntries?
  simp only [h, Except.bind, hmissing]

theorem loadLimits_of_bare (h : file.entries = .ok entries) {v : Value} (hv : entries.lookup "dice" = some v)
    (hbare : v.isBare = true) (path : String) : (loadLimits path file).1 = .ok .standard := by
  unfold loadLimits limitsOfEntries?
  simp only [h, Except.bind, hv, if_pos hbare]

theorem loadLimits_of_not_table (h : file.entries = .ok entries) {v : Value}
    (hv : entries.lookup "dice" = some v) (hbare : v.isBare = false) (htable : ∀ fields, v ≠ .table fields)
    (path : String) : (loadLimits path file).1 = .error .notATable := by
  unfold loadLimits limitsOfEntries?
  simp only [h, Except.bind, hv, hbare]
  cases v with
  | table fields => exact absurd rfl (htable fields)
  | nothing | boolean | integer | real | text | moment | list => rfl

variable [LawfulValidator]

/-- A table is read, the empty one as well: it gives no limits, so that the standard ones hold. -/
theorem loadLimits_of_table (h : file.entries = .ok entries) {fields : List (String × Value)}
    (hfields : entries.lookup "dice" = some (.table fields)) (path : String) :
    (loadLimits path file).1 = (Limits.ofEntries fields).mapError .limits := by
  unfold loadLimits limitsOfEntries?
  simp only [h, Except.bind, hfields]
  cases fields with
  | nil =>
    rw [Limits.ofEntries_nil]
    rfl
  | cons field fields =>
    have hbare : ¬(Value.table (field :: fields)).isBare = true := by simp [Value.isBare]
    rw [if_neg hbare]
    cases Limits.ofEntries (field :: fields) with
    | ok limits => rfl
    | error errors => rfl

theorem loadsTo_loadLimits (h : file.entries = .ok entries) (path : String) :
    LoadsTo entries (loadLimits path file).1 := by
  cases hdice : entries.lookup "dice" with
  | none =>
    rw [loadLimits_of_missing h hdice]
    refine .missing fun v hv => ?_
    rw [(lookup_dice_eq_some_iff h).mpr hv] at hdice
    cases hdice
  | some v =>
    have hv := (lookup_dice_eq_some_iff h).mp hdice
    cases hbare : v.isBare with
    | true =>
      rw [loadLimits_of_bare h hdice hbare]
      exact .bare hv hbare
    | false =>
      by_cases htable : ∃ fields, v = .table fields
      · obtain ⟨fields, rfl⟩ := htable
        have hkeys := nodup_of_mem_table h hv
        have hne : fields ≠ [] := by
          rintro rfl
          cases hbare
        rw [loadLimits_of_table h hdice]
        cases hread : Limits.ofEntries fields with
        | ok limits => exact .read hv hne ((Limits.ofEntries_eq_ok_iff hkeys).mp hread)
        | error errors => exact .refused hv hne ((Limits.ofEntries_eq_error_iff hkeys).mp hread)
      · rw [loadLimits_of_not_table h hdice hbare (not_exists.mp htable)]
        exact .notATable hv hbare (not_exists.mp htable)

/-- **A document comes to** what its entries come to, and to nothing else. -/
theorem loadLimits_eq_iff (h : file.entries = .ok entries) (path : String) {outcome : Except LoadError Limits} :
    (loadLimits path file).1 = outcome ↔ LoadsTo entries outcome := by
  constructor
  · rintro rfl
    exact loadsTo_loadLimits h path
  · intro hloads
    cases hloads with
    | missing hmissing =>
      refine loadLimits_of_missing h (Option.eq_none_iff_forall_ne_some.mpr fun v hv => ?_) path
      exact hmissing v ((lookup_dice_eq_some_iff h).mp hv)
    | bare hv hbare => exact loadLimits_of_bare h ((lookup_dice_eq_some_iff h).mpr hv) hbare path
    | notATable hv hbare htable =>
      exact loadLimits_of_not_table h ((lookup_dice_eq_some_iff h).mpr hv) hbare htable path
    | read hfields _ hgiven =>
      rw [loadLimits_of_table h ((lookup_dice_eq_some_iff h).mpr hfields),
        (Limits.ofEntries_eq_ok_iff (nodup_of_mem_table h hfields)).mpr hgiven]
      rfl
    | refused hfields _ hreported =>
      rw [loadLimits_of_table h ((lookup_dice_eq_some_iff h).mpr hfields),
        (Limits.ofEntries_eq_error_iff (nodup_of_mem_table h hfields)).mpr hreported]
      rfl

omit [LawfulValidator] in
theorem LoadsTo.usable {limits : Limits} (h : LoadsTo entries (.ok limits)) : limits.Usable := by
  cases h with
  | missing _ | bare _ _ => exact Limits.usable_standard
  | read _ _ hgiven => exact hgiven.usable

/-- Whatever is loaded is usable. -/
theorem usable_of_loadLimits {path : String} {limits : Limits} (h : (loadLimits path file).1 = .ok limits) :
    limits.Usable := by
  cases hentries : file.entries with
  | ok entries => exact (h ▸ loadsTo_loadLimits hentries path).usable
  | error e =>
    unfold loadLimits at h
    rw [hentries] at h
    cases h

/-- Documents that set limits alike come to the same. -/
theorem loadLimits_congr (h : file.entries = .ok entries) {other : File} {others : List (String × Value)}
    (hother : other.entries = .ok others) (halike : SetAlike entries others) (path path' : String) :
    (loadLimits path file).1 = (loadLimits path' other).1 := by
  obtain ⟨fields, more, hfields, hmore, hagree⟩ := halike
  rw [loadLimits_of_table h ((lookup_dice_eq_some_iff h).mpr hfields),
    loadLimits_of_table hother ((lookup_dice_eq_some_iff hother).mpr hmore),
    Limits.ofEntries_congr (nodup_of_mem_table h hfields) (nodup_of_mem_table hother hmore) hagree]

/-! ## Commands -/

namespace CommandLine

variable {earlier : List Invocation} {limits : Limits}

theorem usable_of_settles? {config : Option Document} {project : Document}
    (h : settles? config project = some limits) : limits.Usable := by
  unfold settles? at h
  split at h
  · cases h
  · cases hload : (loadLimits project.path project.file).1 with
    | ok loaded =>
      rw [hload] at h
      cases h
      exact usable_of_loadLimits hload
    | error e =>
      rw [hload] at h
      cases h

/-- The limits that are settled for a project were loaded. -/
theorem usable_of_projectLimits? (h : projectLimits? earlier = some limits) : limits.Usable := by
  obtain ⟨i, -, hi⟩ := List.exists_of_findSome?_eq_some h
  unfold Invocation.settles? at hi
  split at hi
  · cases hi
  · exact usable_of_settles? hi

/-- A command works under limits that it loaded or that were settled before it. -/
theorem usable_of_limitsFor {config : Option Document} {project : Document}
    (h : limitsFor (projectLimits? earlier) config project = .ok limits) : limits.Usable := by
  unfold limitsFor at h
  split at h
  · exact usable_of_loadLimits h
  · next hsettled =>
    cases h
    exact usable_of_projectLimits? hsettled
  · exact usable_of_loadLimits h

/-- The compilers of all commands are under usable limits. -/
theorem usable_of_chooseCompiler [Console] {start : Desk} (hstandard : Compiler.Reachable .standard start.standard)
    (hproject : start.project = none) {config : Option Document} {project : Document} {c : Compiler}
    {place : Place} (h : (chooseCompiler (start.after earlier) config project).1 = .ok (c, place)) :
    c.limits.Usable := by
  have hchooses := ((Desk.keepsTo_none hstandard hproject).after earlier).chooses config project
  generalize hloaded : limitsFor (projectLimits? earlier) config project = loaded at hchooses
  generalize chooseCompiler (start.after earlier) config project = result at h hchooses
  cases hchooses with
  | failed _ => cases h
  | chosen hserves =>
    cases h
    rw [(Compiler.faithful_reachable hserves.compiler).2]
    exact usable_of_limitsFor hloaded

end CommandLine

/--
**Loaded limits are usable.**

Let a document be read, or be missing. Then loading comes to the standard limits if nothing that counts
stands under the key `dice`, to an error if what stands there is no table, and for a table to the limits that
it gives or to the errors in them, as the validator tells. All limits that come of it are at least one, whatever the
validator. Whatever the document holds besides the four limits makes no difference.

A process that begins with its standard compiler under the standard limits, and without a compiler of the
project, never has a command work with a compiler under other limits than usable ones, whatever
commands were run before.
-/
theorem loaded_limits_usable [CommandLine.Console] (h : file.entries = .ok entries) (path : String) :
    (∀ outcome, (loadLimits path file).1 = outcome ↔ LoadsTo entries outcome) ∧
      (∀ limits, (loadLimits path file).1 = .ok limits → limits.Usable) ∧
      (∀ other others path', File.entries other = .ok others → SetAlike entries others →
        (loadLimits path' other).1 = (loadLimits path file).1) ∧
      ∀ start : CommandLine.Desk, Compiler.Reachable .standard start.standard → start.project = none →
        ∀ earlier config project c place,
          (CommandLine.chooseCompiler (start.after earlier) config project).1 = .ok (c, place) →
            c.limits.Usable := by
  refine ⟨fun outcome => loadLimits_eq_iff h path, fun limits => usable_of_loadLimits, ?_, ?_⟩
  · intro other others path' hother halike
    exact (loadLimits_congr h hother halike path path').symm
  · intro start hstandard hproject earlier config project c place hchoice
    exact CommandLine.usable_of_chooseCompiler hstandard hproject hchoice

end Loading

/-- A limit may be given as a text. That the document also has a key that is none of a limit, with a value that
would be refused for one, makes no difference. -/
theorem loaded_limits_usable_text :
    letI : Validator := .lenient fun _ => []
    letI : CommandLine.Console := .terminal
    let file := File.document "[dice]\nmax_dice = \"7\"\nfaces = 0\n"
    let other := File.document "[dice]\nmax_dice = \"7\"\n"
    let entries := [("dice", Value.table [("max_dice", .text "7"), ("faces", .integer 0)])]
    let config : CommandLine.Document := ⟨"config.toml", file⟩
    let project : CommandLine.Document := ⟨"project.toml", .missing⟩
    LawfulValidator ∧ file.entries = .ok entries ∧ LoadsTo entries (.ok { maxDice := 7 }) ∧
      (loadLimits "other.toml" other).1 = (loadLimits "config.toml" file).1 ∧
      ∃ c place, (CommandLine.chooseCompiler {} (some config) project).1 = .ok (c, place) ∧ c.limits.Usable := by
  intro file other entries config project
  let _ : Validator := .lenient fun _ => []
  let _ : CommandLine.Console := .terminal
  have hlawful : LawfulValidator := lawfulValidator_lenient fun _ => []
  have hentries : file.entries = .ok entries := by cbv
  have hothers : other.entries = .ok [("dice", .table [("max_dice", .text "7")])] := by cbv
  have hload : loadLimits "config.toml" file = (.ok { maxDice := 7 }, []) := by cbv
  have halike : SetAlike entries [("dice", .table [("max_dice", .text "7")])] := by
    refine ⟨_, _, List.mem_cons_self, List.mem_cons_self, fun field v => ?_⟩
    cases field <;> simp [LimitField.key]
  have hchoice : (CommandLine.chooseCompiler (CommandLine.Desk.after {} []) (some config) project).1 =
      .ok ({ owner := 1, limits := { maxDice := 7 } }, .nowhere) := by
    unfold CommandLine.chooseCompiler
    dsimp only [config]
    rw [hload]
    rfl
  obtain ⟨hloads, -, hcongr, hcompilers⟩ := loaded_limits_usable hentries "config.toml"
  exact ⟨hlawful, hentries, (hloads _).mp (by rw [hload]), hcongr other _ "other.toml" hothers halike, _, _, hchoice,
    hcompilers {} (.init 0) rfl _ _ _ _ _ hchoice⟩

end DiceNotation
