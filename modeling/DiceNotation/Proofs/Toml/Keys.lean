import Mathlib.Data.List.Nodup
import DiceNotation.Proofs.Result
import DiceNotation.Toml.Document

/-!
# Keys of documents

In no table of a document does a key stand twice. So it makes no difference whether the first or the last
entry of a key is looked up: there is only one.

While a document is read, its tree changes in one way only, which is that a node is put under a key; there it
takes the place of the node that stood there before, if there was one. The tree is entered at any depth to do
so, and may hold values that were read as a whole, with tables of their own.
-/

namespace DiceNotation

/-- No table in the value has a key twice, the value itself included. -/
inductive Value.Unambiguous : Value → Prop
  | scalar {v : Value} : (∀ items, v ≠ .list items) → (∀ entries, v ≠ .table entries) → Unambiguous v
  | list {items : List Value} : (∀ v ∈ items, v.Unambiguous) → Unambiguous (.list items)
  | table {entries : List (String × Value)} : (entries.map Prod.fst).Nodup →
      (∀ entry ∈ entries, entry.2.Unambiguous) → Unambiguous (.table entries)

namespace Toml

/-- No table in the node has a key twice, the node itself included. -/
inductive Node.Unambiguous : Node → Prop
  | value {v : Value} : v.Unambiguous → Unambiguous (.value v)
  | table {standing : Standing} {entries : Entries} : (entries.map Prod.fst).Nodup →
      (∀ entry ∈ entries, entry.2.Unambiguous) → Unambiguous (.table standing entries)
  | tables {items : List Entries} : (∀ entries ∈ items, (entries.map Prod.fst).Nodup) →
      (∀ entries ∈ items, ∀ entry ∈ entries, entry.2.Unambiguous) → Unambiguous (.tables items)

namespace Entries

/-- No key stands twice among the entries, nor in a table in them. -/
structure Unambiguous (entries : Entries) : Prop where
  /-- Each key stands among the entries once. -/
  keys : (entries.map Prod.fst).Nodup
  /-- The tables in the entries are in order. -/
  nodes : ∀ entry ∈ entries, entry.2.Unambiguous

variable {entries : Entries} {key : String} {node : Node}

theorem unambiguous_nil : Unambiguous [] := ⟨List.nodup_nil, List.forall_mem_nil _⟩

theorem Unambiguous.table (h : entries.Unambiguous) (standing : Standing) :
    (Node.table standing entries).Unambiguous := .table h.keys h.nodes

theorem Unambiguous.of_table {standing : Standing} (h : (Node.table standing entries).Unambiguous) :
    entries.Unambiguous := by
  cases h with
  | table hkeys hnodes => exact ⟨hkeys, hnodes⟩

theorem Unambiguous.of_tables {items : List Entries} (h : (Node.tables items).Unambiguous) :
    ∀ entries ∈ items, entries.Unambiguous := by
  cases h with
  | tables hkeys hnodes => exact fun entries hentries => ⟨hkeys entries hentries, hnodes entries hentries⟩

theorem unambiguous_tables {items : List Entries} (h : ∀ entries ∈ items, entries.Unambiguous) :
    (Node.tables items).Unambiguous :=
  .tables (fun entries hentries => (h entries hentries).keys) fun entries hentries => (h entries hentries).nodes

/-- What is found among the entries is one of them. -/
theorem Unambiguous.of_find? (h : entries.Unambiguous) (hfind : entries.find? key = some node) :
    node.Unambiguous := by
  obtain ⟨before, after, hentries, -⟩ := List.lookup_eq_some_iff.mp hfind
  exact h.nodes (key, node) (hentries ▸ List.mem_append_right before List.mem_cons_self)

/-- **To put a node under a key** leaves each key once among the entries. -/
theorem Unambiguous.put (h : entries.Unambiguous) (hnode : node.Unambiguous) :
    (entries.put key node).Unambiguous := by
  unfold Entries.put
  split
  · -- the key is known, and the keys stay what they are
    have hsame : (entries.map fun entry => if entry.1 == key then (key, node) else entry).map Prod.fst =
        entries.map Prod.fst := by
      rw [List.map_map]
      refine List.map_congr_left fun entry _ => ?_
      by_cases hkey : entry.1 = key
      · simp [hkey]
      · simp [hkey]
    refine ⟨hsame ▸ h.keys, fun entry hentry => ?_⟩
    obtain ⟨old, hold, rfl⟩ := List.mem_map.mp hentry
    split
    · exact hnode
    · exact h.nodes old hold
  · next hnew =>
    have hnew : key ∉ entries.map Prod.fst := by simpa using hnew
    refine ⟨?_, fun entry hentry => ?_⟩
    · rw [List.map_append, List.nodup_append']
      exact ⟨h.keys, List.nodup_singleton key, List.disjoint_singleton.mpr hnew⟩
    · rcases List.mem_append.mp hentry with hold | hadded
      · exact h.nodes entry hold
      · rw [List.mem_singleton.mp hadded]
        exact hnode

theorem Unambiguous.declare (h : entries.Unambiguous) {changed : Entries}
    (hchanged : Entries.declare key entries = some changed) : changed.Unambiguous := by
  unfold Entries.declare at hchanged
  split at hchanged
  · cases hchanged
    exact h.put (unambiguous_nil.table _)
  · next inner hfind =>
    cases hchanged
    exact h.put ((Unambiguous.of_table (h.of_find? hfind)).table _)
  · cases hchanged

theorem Unambiguous.extend (h : entries.Unambiguous) {changed : Entries}
    (hchanged : Entries.extend key entries = some changed) : changed.Unambiguous := by
  unfold Entries.extend at hchanged
  split at hchanged
  · cases hchanged
    exact h.put (unambiguous_tables (List.forall_mem_singleton.mpr unambiguous_nil))
  · next items hfind =>
    cases hchanged
    have hitems := Unambiguous.of_tables (h.of_find? hfind)
    exact h.put (unambiguous_tables (List.forall_mem_cons.mpr ⟨unambiguous_nil, hitems⟩))
  · cases hchanged

/-- A value is written at the end of a path by putting a node under each key of the path. -/
theorem Unambiguous.write {header : Nat} {v : Value} (hv : v.Unambiguous) {path : List String}
    (h : entries.Unambiguous) {changed : Entries} (hchanged : Entries.write header v path entries = some changed) :
    changed.Unambiguous := by
  induction path generalizing entries changed with
  | nil => cases hchanged
  | cons key path ih =>
    cases path with
    | nil =>
      unfold Entries.write at hchanged
      split at hchanged
      · cases hchanged
      · cases hchanged
        exact h.put (.value hv)
    | cons next path =>
      unfold Entries.write at hchanged
      split at hchanged
      · obtain ⟨inner, hinner, rfl⟩ := Option.map_eq_some_iff.mp hchanged
        exact h.put ((ih unambiguous_nil hinner).table _)
      · next standing old hfind =>
        split at hchanged
        · obtain ⟨inner, hinner, rfl⟩ := Option.map_eq_some_iff.mp hchanged
          exact h.put ((ih (Unambiguous.of_table (h.of_find? hfind)) hinner).table _)
        · cases hchanged
      · cases hchanged

/-- A change at the end of a path leaves the tree in order if it leaves the table there in order. -/
theorem Unambiguous.within {change : Entries → Option Entries}
    (hchange : ∀ {inner changed : Entries}, inner.Unambiguous → change inner = some changed → changed.Unambiguous)
    {path : List String} (h : entries.Unambiguous) {changed : Entries}
    (hchanged : Entries.within change path entries = some changed) : changed.Unambiguous := by
  induction path generalizing entries changed with
  | nil => exact hchange h hchanged
  | cons key path ih =>
    unfold Entries.within at hchanged
    split at hchanged
    · obtain ⟨inner, hinner, rfl⟩ := Option.map_eq_some_iff.mp hchanged
      exact h.put ((ih unambiguous_nil hinner).table _)
    · next standing old hfind =>
      obtain ⟨inner, hinner, rfl⟩ := Option.map_eq_some_iff.mp hchanged
      exact h.put ((ih (Unambiguous.of_table (h.of_find? hfind)) hinner).table _)
    · next latest older hfind =>
      obtain ⟨inner, hinner, rfl⟩ := Option.map_eq_some_iff.mp hchanged
      obtain ⟨hlatest, holder⟩ := List.forall_mem_cons.mp (Unambiguous.of_tables (h.of_find? hfind))
      exact h.put (unambiguous_tables (List.forall_mem_cons.mpr ⟨ih hlatest hinner, holder⟩))
    · cases hchanged
    · cases hchanged

end Entries

/-! ## From trees to values -/

theorem entryValues_eq_map (entries : Entries) :
    entryValues entries = entries.map fun entry => (entry.1, entry.2.toValue) := by
  induction entries with
  | nil => rw [entryValues, List.map_nil]
  | cons entry rest ih => rw [entryValues, ih, List.map_cons]

theorem tableValues_eq_map (items : List Entries) :
    tableValues items = items.map fun entries => .table (entryValues entries) := by
  induction items with
  | nil => rw [tableValues, List.map_nil]
  | cons entries rest ih => rw [tableValues, ih, List.map_cons]

theorem map_fst_entryValues (entries : Entries) :
    (entryValues entries).map Prod.fst = entries.map Prod.fst := by
  rw [entryValues_eq_map, List.map_map]
  rfl

/-- The entries of a table are in order if its nodes are, as values. -/
theorem unambiguous_entryValues {entries : Entries} (hkeys : (entries.map Prod.fst).Nodup)
    (hnodes : ∀ entry ∈ entries, entry.2.toValue.Unambiguous) : (Value.table (entryValues entries)).Unambiguous := by
  refine .table (map_fst_entryValues entries ▸ hkeys) fun entry hentry => ?_
  rw [entryValues_eq_map] at hentry
  obtain ⟨old, hold, rfl⟩ := List.mem_map.mp hentry
  exact hnodes old hold

theorem Node.Unambiguous.toValue {node : Node} (h : node.Unambiguous) : node.toValue.Unambiguous := by
  induction h with
  | value hv => rwa [Node.toValue]
  | table hkeys _ ih =>
    rw [Node.toValue]
    exact unambiguous_entryValues hkeys ih
  | tables hkeys _ ih =>
    rw [Node.toValue, tableValues_eq_map]
    refine .list fun v hv => ?_
    obtain ⟨entries, hentries, rfl⟩ := List.mem_map.mp (List.mem_reverse.mp hv)
    exact unambiguous_entryValues (hkeys entries hentries) (ih entries hentries)

theorem Entries.Unambiguous.toValue {entries : Entries} (h : entries.Unambiguous) :
    (Value.table (entryValues entries)).Unambiguous :=
  unambiguous_entryValues h.keys fun entry hentry => (h.nodes entry hentry).toValue

/-! ## Reading numbers -/

theorem unambiguous_of_readBased? {input rest : List Char} {v : Value}
    (h : readBased? input = some (v, rest)) : v.Unambiguous := by
  unfold readBased? at h
  split at h
  · dsimp only [bind] at h
    -- whatever letter gives the base, the number is a whole number
    split at h
    on_goal 2 => split at h
    on_goal 3 => split at h
    all_goals
      obtain ⟨base, -, h⟩ := Option.bind_eq_some_iff.mp h
      split at h
      · cases h
      · cases h
        exact .scalar nofun nofun
  · cases h

theorem unambiguous_of_readDecimal? {input rest : List Char} {v : Value}
    (h : readDecimal? input = some (.ok (v, rest))) : v.Unambiguous := by
  unfold readDecimal? at h
  obtain ⟨⟨whole, left⟩, -, h⟩ := Option.bind_eq_some_iff.mp h
  dsimp only at h
  split at h
  · have h := Option.some.inj h
    split at h
    · cases h
      exact .scalar nofun nofun
    · cases h
  · cases h
    exact .scalar nofun nofun

theorem unambiguous_of_readSpecial? {input rest : List Char} {v : Value}
    (h : readSpecial? input = some (v, rest)) : v.Unambiguous := by
  unfold readSpecial? at h
  dsimp only at h
  split at h
  · cases h
    exact .scalar nofun nofun
  · obtain ⟨left, -, hleft⟩ := Option.map_eq_some_iff.mp h
    cases hleft
    exact .scalar nofun nofun

theorem unambiguous_of_readNumber? {input rest : List Char} {v : Value}
    (h : readNumber? input = some (.ok (v, rest))) : v.Unambiguous := by
  unfold readNumber? at h
  split at h
  · next hbased =>
    cases h
    exact unambiguous_of_readBased? hbased
  · split at h
    · next hdecimal =>
      cases h
      exact unambiguous_of_readDecimal? hdecimal
    · obtain ⟨read, hread, heq⟩ := Option.map_eq_some_iff.mp h
      cases heq
      exact unambiguous_of_readSpecial? hread

/-! ## Reading values -/

/-- With this fuel values are read in order, alone, in lists and in tables. -/
structure ReadsInOrder (fuel : Nat) : Prop where
  /-- A value that is read is in order. -/
  value : ∀ {input v rest}, readValueWith fuel input = .ok (v, rest) → v.Unambiguous
  /-- So are the items of a list. -/
  items : ∀ {input items rest}, readItems fuel input = .ok (items, rest) → ∀ v ∈ items, v.Unambiguous
  /-- The entries of a table stay in order when others are read. -/
  entries : ∀ {entries read : Entries} {input rest}, entries.Unambiguous →
    readEntries fuel entries input = .ok (read, rest) → read.Unambiguous

namespace ReadsInOrder

variable {fuel : Nat} {input rest : List Char}

theorem value_succ (h : ReadsInOrder fuel) {v : Value} (hread : readValueWith (fuel + 1) input = .ok (v, rest)) :
    v.Unambiguous := by
  unfold readValueWith at hread
  split at hread
  · obtain ⟨⟨text, left⟩, -, hmade⟩ := exists_of_map_eq_ok hread
    cases hmade
    exact .scalar nofun nofun
  · split at hread
    · obtain ⟨left, -, hread⟩ := bind_eq_ok hread
      obtain ⟨⟨items, left⟩, hitems, hmade⟩ := bind_eq_ok hread
      cases hmade
      exact .list (h.items hitems)
    · split at hread
      · cases hread
        exact Entries.unambiguous_nil.toValue
      · obtain ⟨⟨entries, left⟩, hentries, hmade⟩ := bind_eq_ok hread
        cases hmade
        exact (h.entries Entries.unambiguous_nil hentries).toValue
    · split at hread
      · cases hread
        exact .scalar nofun nofun
      · cases hread
        exact .scalar nofun nofun
      · split at hread
        · obtain ⟨⟨moment, left⟩, -, hmade⟩ := exists_of_map_eq_ok hread
          cases hmade
          exact .scalar nofun nofun
        · cases hnumber : readNumber? input with
          | none =>
            rw [hnumber] at hread
            cases hread
          | some read =>
            rw [hnumber, Option.getD_some] at hread
            subst hread
            exact unambiguous_of_readNumber? hnumber

theorem items_succ (h : ReadsInOrder fuel) {items : List Value}
    (hread : readItems (fuel + 1) input = .ok (items, rest)) : ∀ v ∈ items, v.Unambiguous := by
  unfold readItems at hread
  split at hread
  · cases hread
    exact List.forall_mem_nil _
  · obtain ⟨⟨item, left⟩, hitem, hread⟩ := bind_eq_ok hread
    obtain ⟨left, -, hread⟩ := bind_eq_ok hread
    dsimp only at hread
    split at hread
    · cases hread
      exact List.forall_mem_singleton.mpr (h.value hitem)
    · obtain ⟨left, -, hread⟩ := bind_eq_ok hread
      obtain ⟨⟨others, left⟩, hothers, hmade⟩ := bind_eq_ok hread
      cases hmade
      exact List.forall_mem_cons.mpr ⟨h.value hitem, h.items hothers⟩
    · cases hread

theorem entries_succ (h : ReadsInOrder fuel) {entries read : Entries} (hentries : entries.Unambiguous)
    (hread : readEntries (fuel + 1) entries input = .ok (read, rest)) : read.Unambiguous := by
  unfold readEntries at hread
  obtain ⟨⟨key, left⟩, -, hread⟩ := bind_eq_ok hread
  dsimp only at hread
  split at hread
  · obtain ⟨⟨v, left⟩, hv, hread⟩ := bind_eq_ok hread
    dsimp only at hread
    split at hread
    · cases hread
    · next written hwritten =>
      have hwritten := hentries.write (h.value hv) hwritten
      split at hread
      · cases hread
        exact hwritten
      · exact h.entries hwritten hread
      · cases hread
  · cases hread

end ReadsInOrder

theorem readsInOrder (fuel : Nat) : ReadsInOrder fuel := by
  induction fuel with
  | zero => exact ⟨nofun, nofun, nofun⟩
  | succ fuel ih => exact ⟨ih.value_succ, ih.items_succ, ih.entries_succ⟩

/-! ## Reading documents -/

theorem Draft.unambiguous_enter {draft next : Draft} (h : draft.entries.Unambiguous)
    {change : String → Entries → Option Entries}
    (hchange : ∀ {key : String} {inner changed : Entries}, inner.Unambiguous →
      change key inner = some changed → changed.Unambiguous)
    {key : List String} (hnext : draft.enter change key = .ok next) : next.entries.Unambiguous := by
  unfold Draft.enter at hnext
  split at hnext
  · next entries hentries =>
    cases hnext
    obtain ⟨last, -, hwithin⟩ := Option.bind_eq_some_iff.mp hentries
    exact h.within hchange hwithin
  · cases hnext

/-- **A statement** leaves the tables of the document in order. -/
theorem unambiguous_of_readStatement {draft next : Draft} {input rest : List Char}
    (h : draft.entries.Unambiguous) (hread : readStatement draft input = .ok (next, rest)) :
    next.entries.Unambiguous := by
  unfold readStatement at hread
  split at hread
  · obtain ⟨⟨key, left⟩, -, hread⟩ := bind_eq_ok hread
    obtain ⟨entered, hentered, hmade⟩ := bind_eq_ok hread
    cases hmade
    exact Draft.unambiguous_enter h (fun hinner hchanged => hinner.extend hchanged) hentered
  · obtain ⟨⟨key, left⟩, -, hread⟩ := bind_eq_ok hread
    obtain ⟨entered, hentered, hmade⟩ := bind_eq_ok hread
    cases hmade
    exact Draft.unambiguous_enter h (fun hinner hchanged => hinner.declare hchanged) hentered
  · cases hread
    exact h
  · obtain ⟨⟨key, left⟩, -, hread⟩ := bind_eq_ok hread
    dsimp only at hread
    split at hread
    · obtain ⟨⟨v, left⟩, hv, hread⟩ := bind_eq_ok hread
      dsimp only at hread
      split at hread
      · next written hwritten =>
        cases hread
        exact h.within (fun hinner => hinner.write ((readsInOrder _).value hv)) hwritten
      · cases hread
    · cases hread

/-- **All statements** leave the tables of the document in order. -/
theorem unambiguous_of_readStatements {fuel : Nat} {draft next : Draft} {input : List Char}
    (h : draft.entries.Unambiguous) (hread : readStatements fuel draft input = .ok next) :
    next.entries.Unambiguous := by
  induction fuel generalizing draft input with
  | zero => cases hread
  | succ fuel ih =>
    unfold readStatements at hread
    split at hread
    · cases hread
      exact h
    · exact ih h hread
    · obtain ⟨⟨further, left⟩, hfurther, hread⟩ := bind_eq_ok hread
      obtain ⟨left, -, hread⟩ := bind_eq_ok hread
      have hfurther := unambiguous_of_readStatement h hfurther
      split at hread
      · cases hread
        exact hfurther
      · exact ih hfurther hread
      · cases hread

/-- In no table of a document does a key stand twice. -/
theorem unambiguous_of_read {document : String} {entries : List (String × Value)}
    (h : read document = .ok entries) : (Value.table entries).Unambiguous := by
  obtain ⟨draft, hdraft, rfl⟩ := exists_of_map_eq_ok h
  exact (unambiguous_of_readStatements Entries.unambiguous_nil hdraft).toValue

end Toml

end DiceNotation
