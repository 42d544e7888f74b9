import Mathlib.Data.List.TakeWhile
import DiceNotation.Chunk.Reader
import DiceNotation.Proofs.Chunk.Grammar

/-!
# Reading undoes writing

A chunk tree is read from a text exactly if the tree is well-formed and the text is its written form. So
every chunk has one tree, and the texts that are read are those in the language of chunks.

Both directions go part by part. A part reads its own written form back whenever what follows cannot
be taken for more of it: no sign after a sign that was left out, no digit after a row of digits.
-/

namespace DiceNotation

/-- A text is parted where its first part, which has the property throughout, is followed by a character that
has not, or by nothing. -/
theorem Text.span_append {p : Char → Bool} {front rest : List Char} (hfront : ∀ c ∈ front, p c = true)
    (hrest : ∀ c, rest.head? = some c → p c = false) :
    (front ++ rest).takeWhile p = front ∧ (front ++ rest).dropWhile p = rest := by
  rw [List.takeWhile_append_of_pos hfront, List.dropWhile_append_of_pos hfront]
  cases rest with
  | nil => simp
  | cons c rest =>
    have hc : ¬p c = true := by simp [hrest c rfl]
    rw [List.takeWhile_cons_of_neg hc, List.dropWhile_cons_of_neg hc, List.append_nil]
    exact ⟨rfl, rfl⟩

/-! ## Rows of digits -/

/-- A text that does not go on with a digit. -/
def NoDigitAhead (text : List Char) : Prop := ∀ c ∈ text.head?, Text.isDigit c = false

theorem noDigitAhead_nil : NoDigitAhead [] := by
  intro c hc
  cases hc

theorem noDigitAhead_cons {c : Char} (rest : List Char) (h : Text.isDigit c = false) :
    NoDigitAhead (c :: rest) := by
  intro d hd
  cases hd
  exact h

theorem takeWhile_digits {number rest : List Char} (hn : AreDigits number) (hr : NoDigitAhead rest) :
    (number ++ rest).takeWhile Text.isDigit = number :=
  (Text.span_append hn hr).1

theorem dropWhile_digits {number rest : List Char} (hn : AreDigits number) (hr : NoDigitAhead rest) :
    (number ++ rest).dropWhile Text.isDigit = rest :=
  (Text.span_append hn hr).2

theorem areDigits_takeWhile (text : List Char) : AreDigits (text.takeWhile Text.isDigit) :=
  List.all_eq_true.mp List.all_takeWhile

theorem isDigit_of_append_eq_cons {number rest tail : List Char} {c : Char} (hne : number ≠ [])
    (hn : AreDigits number) (h : number ++ rest = c :: tail) : Text.isDigit c = true := by
  cases number with
  | nil => exact absurd rfl hne
  | cons d number =>
    rw [← (List.cons.inj h).1]
    exact hn d List.mem_cons_self

/-! ## Signs -/

/-- A text that does not begin with a sign. -/
def NoSignAhead (text : List Char) : Prop := ∀ c ∈ text.head?, c ≠ '+' ∧ c ≠ '-'

theorem Sign.write_append_of_read {text rest : List Char} {s : Sign} (h : Sign.read text = (s, rest)) :
    s.write ++ rest = text := by
  unfold Sign.read at h
  split at h
  · cases h; rfl
  · cases h; rfl
  · cases h; rfl

theorem Sign.read_write_append (s : Sign) {rest : List Char} (h : NoSignAhead rest) :
    Sign.read (s.write ++ rest) = (s, rest) := by
  cases s with
  | plus => rfl
  | minus => rfl
  | unsigned =>
    cases rest with
    | nil => rfl
    | cons c rest =>
      obtain ⟨hplus, hminus⟩ := h c (by simp)
      show Sign.read (c :: rest) = _
      unfold Sign.read
      split
      · rename_i heq; exact absurd (List.cons.inj heq).1 hplus
      · rename_i heq; exact absurd (List.cons.inj heq).1 hminus
      · rfl

theorem noSignAhead_cons_of_isDigit {c : Char} (rest : List Char) (h : Text.isDigit c = true) :
    NoSignAhead (c :: rest) := by
  intro d hd
  cases hd
  constructor
  · intro heq
    subst heq
    exact absurd h (by decide)
  · intro heq
    subst heq
    exact absurd h (by decide)

theorem noSignAhead_of_areDigits {number : List Char} (h : AreDigits number) : NoSignAhead number := by
  cases number with
  | nil => simp [NoSignAhead]
  | cons c number => exact noSignAhead_cons_of_isDigit number (h c List.mem_cons_self)

/-! ## Kinds of dice -/

theorem Faces.write_append_of_read? {text rest : List Char} {f : Faces}
    (h : Faces.read? text = some (f, rest)) : f.WellFormed ∧ f.write ++ rest = text := by
  unfold Faces.read? at h
  split at h
  · cases h; exact ⟨trivial, rfl⟩
  · cases h; exact ⟨trivial, rfl⟩
  · dsimp only at h
    split at h
    · cases h
    · rename_i hne
      cases h
      refine ⟨⟨?_, areDigits_takeWhile text⟩, List.takeWhile_append_dropWhile⟩
      simpa using hne

theorem Faces.read?_write_append {f : Faces} {rest : List Char} (hf : f.WellFormed)
    (hr : NoDigitAhead rest) : Faces.read? (f.write ++ rest) = some (f, rest) := by
  cases f with
  | fudge => rfl
  | percent => rfl
  | number number =>
    obtain ⟨hne, hn⟩ := hf
    show Faces.read? (number ++ rest) = _
    unfold Faces.read?
    split
    · -- a row of digits does not begin with a letter
      rename_i heq
      exact absurd (isDigit_of_append_eq_cons hne hn heq) (by decide)
    · rename_i heq
      exact absurd (isDigit_of_append_eq_cons hne hn heq) (by decide)
    · rw [takeWhile_digits hn hr, dropWhile_digits hn hr]
      simp [hne]

/-! ## Modifiers -/

theorem Modifier.token_append_of_read? {text rest : List Char} {m : Modifier}
    (h : Modifier.read? text = some (m, rest)) : m.token.toList ++ rest = text := by
  unfold Modifier.read? at h
  split at h <;> cases h <;> rfl

theorem Modifier.read?_token_append (m : Modifier) (rest : List Char) :
    Modifier.read? (m.token.toList ++ rest) = some (m, rest) := by
  cases m <;> rfl

/-- A token is not empty, and a row of digits ends before it. -/
theorem Modifier.token_eq_cons (m : Modifier) :
    ∃ c rest, m.token.toList = c :: rest ∧ Text.isDigit c = false := by
  cases m <;> exact ⟨_, _, rfl, by decide⟩

theorem ModifierText.write_eq_cons (m : ModifierText) :
    ∃ c rest, m.write = c :: rest ∧ Text.isDigit c = false := by
  obtain ⟨c, rest, htoken, hc⟩ := m.modifier.token_eq_cons
  exact ⟨c, rest ++ m.argument, by rw [ModifierText.write, htoken, List.cons_append], hc⟩

theorem ModifierText.wellFormed_of_read? {text : List Char} {m : ModifierText}
    (h : ModifierText.read? text = some m) : m.WellFormed ∧ m.write = text := by
  simp only [ModifierText.read?, Option.bind_eq_bind, Option.bind_eq_some_iff] at h
  obtain ⟨⟨modifier, rest⟩, hread, h⟩ := h
  have htoken := Modifier.token_append_of_read? hread
  cases hp : modifier.picksFace with
  | true =>
    rcases hs : Sign.read rest with ⟨s, number⟩
    have hsign := Sign.write_append_of_read hs
    simp only [hp, if_true, hs] at h
    split at h
    · rename_i hc
      cases h
      simp only [Bool.and_eq_true, Bool.or_eq_true, List.all_eq_true] at hc
      obtain ⟨hdigits, hsome⟩ := hc
      refine ⟨⟨hdigits, fun hne => ⟨hp, ?_⟩⟩, ?_⟩
      · rcases hsome with hunsigned | hsome
        · exact absurd (by simpa using hunsigned) hne
        · simpa using hsome
      · rw [ModifierText.write, ModifierText.argument, hsign, htoken]
    · cases h
  | false =>
    simp only [hp, Bool.false_eq_true, if_false] at h
    split at h
    · rename_i hc
      cases h
      simp only [Bool.and_eq_true, List.all_eq_true] at hc
      exact ⟨⟨hc.1, fun hne => absurd rfl hne⟩, htoken⟩
    · cases h

theorem ModifierText.read?_write {m : ModifierText} (h : m.WellFormed) :
    ModifierText.read? m.write = some m := by
  obtain ⟨modifier, s, number⟩ := m
  obtain ⟨hdigits, hsign⟩ := h
  have hall : number.all Text.isDigit = true := List.all_eq_true.mpr hdigits
  have hread : Modifier.read? (modifier.token.toList ++ (s.write ++ number)) = some (modifier, s.write ++ number) :=
    Modifier.read?_token_append modifier (s.write ++ number)
  simp only [ModifierText.read?, ModifierText.write, ModifierText.argument, hread, Option.bind_eq_bind,
    Option.bind_some]
  cases hp : modifier.picksFace with
  | true =>
    simp only [if_true, Sign.read_write_append s (noSignAhead_of_areDigits hdigits), hall]
    by_cases hs : s = .unsigned
    · simp [hs]
    · simp [(hsign hs).2]
  | false =>
    have hs : s = .unsigned := by
      by_contra hne
      exact absurd (hsign hne).1 (by simp [hp])
    subst hs
    simp [Sign.write, hall]

/-- The modifier, or none, is read that makes up all of a text. -/
theorem ModifierText.readRest?_eq_some_iff {text : List Char} {m : Option ModifierText} :
    ModifierText.readRest? text = some m ↔
      (∀ w, m = some w → w.WellFormed) ∧ m.elim [] ModifierText.write = text := by
  unfold ModifierText.readRest?
  cases m with
  | none =>
    cases text with
    | nil => simp
    | cons c text => simp
  | some m =>
    constructor
    · intro h
      split at h
      · cases h
      · obtain ⟨w, hw, heq⟩ := Option.map_eq_some_iff.mp h
        cases heq
        obtain ⟨hwf, hwrite⟩ := ModifierText.wellFormed_of_read? hw
        exact ⟨fun w' hw' => by cases hw'; exact hwf, hwrite⟩
    · intro hall
      obtain ⟨hwf, rfl⟩ := hall
      obtain ⟨c, rest, hcons, _⟩ := m.write_eq_cons
      show (if m.write.isEmpty then some none else (ModifierText.read? m.write).map some) = some (some m)
      rw [ModifierText.read?_write (hwf m rfl), hcons]
      rfl

/-! ## Chunks -/

theorem Chunk.wellFormed_of_read? {text : List Char} {c : Chunk} (h : Chunk.read? text = some c) :
    c.WellFormed ∧ c.write = text := by
  unfold Chunk.read? at h
  rcases hs : Sign.read text with ⟨s, rest⟩
  have hsign := Sign.write_append_of_read hs
  have hdigits := areDigits_takeWhile rest
  have hspan : rest.takeWhile Text.isDigit ++ rest.dropWhile Text.isDigit = rest :=
    List.takeWhile_append_dropWhile
  simp only [hs] at h
  split at h
  · -- nothing follows the digits: a constant
    rename_i hrest
    rw [hrest, List.append_nil] at hspan
    split at h
    · cases h
    · rename_i hne
      cases h
      refine ⟨⟨by simpa using hne, hdigits⟩, ?_⟩
      rw [Chunk.write, hspan, hsign]
  · -- a pool, with the digits before its `d` as its count
    rename_i body hrest
    simp only [Option.bind_eq_bind, Option.bind_eq_some_iff] at h
    obtain ⟨⟨f, tail⟩, hf, m, hm, heq⟩ := h
    cases heq
    obtain ⟨hfaces, hbody⟩ := Faces.write_append_of_read? hf
    obtain ⟨hmodifier, htail⟩ := ModifierText.readRest?_eq_some_iff.mp hm
    refine ⟨⟨hdigits, hfaces, hmodifier⟩, ?_⟩
    rw [hrest, ← hbody] at hspan
    simp [Chunk.write, PoolText.write, htail, hspan, hsign]
  · cases h

theorem ModifierText.noDigitAhead_write (m : Option ModifierText) :
    NoDigitAhead (m.elim [] ModifierText.write) := by
  cases m with
  | none => exact noDigitAhead_nil
  | some m =>
    obtain ⟨c, rest, hcons, hc⟩ := m.write_eq_cons
    show NoDigitAhead m.write
    rw [hcons]
    exact noDigitAhead_cons rest hc

theorem Chunk.read?_write {c : Chunk} (h : c.WellFormed) : Chunk.read? c.write = some c := by
  cases c with
  | constant s number =>
    obtain ⟨hne, hdigits⟩ := h
    have htake := takeWhile_digits hdigits noDigitAhead_nil
    have hdrop := dropWhile_digits hdigits noDigitAhead_nil
    rw [List.append_nil] at htake hdrop
    simp [Chunk.read?, Chunk.write, Sign.read_write_append s (noSignAhead_of_areDigits hdigits), htake,
      hdrop, hne]
  | pool p =>
    obtain ⟨s, count, f, m⟩ := p
    obtain ⟨hcount, hfaces, hmodifier⟩ := h
    have hwrite : (Chunk.pool ⟨s, count, f, m⟩).write =
        s.write ++ (count ++ 'd' :: (f.write ++ m.elim [] ModifierText.write)) := by
      simp [Chunk.write, PoolText.write]
    -- the reader must stop where the writer went on: after the sign, the count and the faces
    have hsign : NoSignAhead (count ++ 'd' :: (f.write ++ m.elim [] ModifierText.write)) := by
      cases count with
      | nil => simp [NoSignAhead]
      | cons c count => exact noSignAhead_cons_of_isDigit _ (hcount c List.mem_cons_self)
    have hd := noDigitAhead_cons (f.write ++ m.elim [] ModifierText.write) (by decide : Text.isDigit 'd' = false)
    have hrest := ModifierText.readRest?_eq_some_iff.mpr ⟨hmodifier, rfl⟩
    rw [hwrite, Chunk.read?, Sign.read_write_append s hsign]
    simp only [takeWhile_digits hcount hd, dropWhile_digits hcount hd,
      Faces.read?_write_append hfaces (ModifierText.noDigitAhead_write m), hrest, Option.bind_eq_bind,
      Option.bind_some]
    rfl

/-- A tree is read from a text if and only if it is well-formed and the text is its written form. -/
theorem Chunk.read?_eq_some_iff {text : List Char} {c : Chunk} :
    Chunk.read? text = some c ↔ c.WellFormed ∧ c.write = text := by
  constructor
  · exact Chunk.wellFormed_of_read?
  · intro hall
    obtain ⟨h, rfl⟩ := hall
    exact Chunk.read?_write h

/-! ## Line ends -/

theorem withoutLineEnd_of_not_mem {text : List Char} (h : '\n' ∉ text) : withoutLineEnd text = text :=
  if_neg fun heq => h (List.mem_of_getLast? heq)

/-- A chunk is read from a text if the text, but for a line end, is how it is written. -/
theorem Chunk.ofText?_eq_some_iff_write {text : String} {c : Chunk} :
    ofText? text = some c ↔ c.WellFormed ∧ c.write = withoutLineEnd text.toList :=
  read?_eq_some_iff

/-- Without a line end after it, a text is a chunk if and only if it is in the language of chunks. -/
theorem isChunk_iff_mem_chunk {text : String} (h : '\n' ∉ text.toList) :
    isChunk text = true ↔ text.toList ∈ Grammar.chunk := by
  rw [isChunk, Option.isSome_iff_exists, Grammar.mem_chunk]
  refine exists_congr fun c => ?_
  rw [Chunk.ofText?_eq_some_iff_write, withoutLineEnd_of_not_mem h]

end DiceNotation
