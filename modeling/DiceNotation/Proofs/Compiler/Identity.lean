import Mathlib.Logic.Function.Basic
import DiceNotation.Proofs.Compiler.History

/-!
# Which objects are the same

Compilers hand out objects: evaluators, terms, and terms as parts of evaluators. An evaluator goes by the
tidied text of its expression, a term by its chunk. Two objects are the same if and only if they come from
the same compiler, which was not cleared in between, and go by the same label. This holds for histories of
requests to any number of compilers, with changes of their limits and failures on the way.

The proof rests on the numbers that a compiler gives to what it makes. They never come back, not even after
the compiler is cleared, so that the objects that are kept at any time are told apart by them; and what is
kept under a label stays there until the compiler is cleared.
-/

namespace DiceNotation.Compiler

/-! ## Objects and labels -/

/-- What an object goes by. -/
inductive Label where
  | text (text : String)
  | chunk (chunk : String)

/-- An object that a compiler has made. -/
inductive Item where
  | evaluator (made : Stamped Evaluator)
  | term (made : Stamped Term)

/-- The stamp of an object. -/
def Item.stamp : Item → Stamp
  | evaluator made => made.stamp
  | term made => made.stamp

/-- An object is kept under a label. -/
inductive Holds (c : Compiler) : Label → Item → Prop where
  | evaluator {text : String} {made : Stamped Evaluator} :
      c.expressions.find? text = some made → Holds c (.text text) (.evaluator made)
  | term {chunk : String} {made : Stamped Term} :
      c.chunks.find? chunk = some made → Holds c (.chunk chunk) (.term made)

/-- The objects that the answer to a request gives, with their labels. -/
inductive Gives (c : Compiler) : Request → Label → Item → Prop where
  | evaluator {given : Value} {made : Stamped Evaluator} : (c.compile given).1 = .ok made →
      Gives c (.compile given) (.text (Expression.tidy given.plain)) (.evaluator made)
  /-- The term of an evaluator at one of its chunks. -/
  | part {given : Value} {made : Stamped Evaluator} {chunk : String} {term : Stamped Term} :
      (c.compile given).1 = .ok made → (chunk, term) ∈ made.value.chunks.zip made.value.terms →
      Gives c (.compile given) (.chunk chunk) (.term term)
  | term {chunk : String} {made : Stamped Term} : (c.compileChunk chunk).1 = .ok made →
      Gives c (.compileChunk chunk) (.chunk chunk) (.term made)

variable {c : Compiler} {first : Nat} {label other : Label} {item also : Item} {request : Request}

/-- There is one object under a label. -/
theorem Holds.unique (h : c.Holds label item) (h' : c.Holds label also) : item = also := by
  cases h with
  | evaluator hfind =>
    cases h' with
    | evaluator hfind' => exact congrArg Item.evaluator (Option.some.inj (hfind.symm.trans hfind'))
  | term hfind =>
    cases h' with
    | term hfind' => exact congrArg Item.term (Option.some.inj (hfind.symm.trans hfind'))

/-! ## Numbers -/

/-- The objects that are kept are told apart by their stamps, and none has a number below `first`. -/
structure TellsApart (c : Compiler) (first : Nat) : Prop where
  evaluators : c.expressions.Orderly c.owner c.made
  terms : c.chunks.Orderly c.owner c.made
  /-- No evaluator has the stamp of a term. -/
  kinds : ∀ text chunk made term, c.expressions.find? text = some made → c.chunks.find? chunk = some term →
    made.stamp ≠ term.stamp
  /-- The numbers begin with `first`. -/
  since : ∀ label item, c.Holds label item → first ≤ item.stamp.serial
  /-- So do those of the objects that are still to be made. -/
  next : first ≤ c.made

namespace TellsApart

theorem bounds (h : c.TellsApart first) (hitem : c.Holds label item) :
    item.stamp.owner = c.owner ∧ item.stamp.serial < c.made := by
  cases hitem with
  | evaluator hfind => exact h.evaluators.stamps _ _ hfind
  | term hfind => exact h.terms.stamps _ _ hfind

theorem label_eq (h : c.TellsApart first) (hitem : c.Holds label item) (halso : c.Holds other also)
    (hstamp : item.stamp = also.stamp) : label = other := by
  cases hitem with
  | evaluator hfind =>
    cases halso with
    | evaluator hfind' => exact congrArg Label.text (h.evaluators.distinct _ _ _ _ hfind hfind' hstamp)
    | term hfind' => exact absurd hstamp (h.kinds _ _ _ _ hfind hfind')
  | term hfind =>
    cases halso with
    | evaluator hfind' => exact absurd hstamp.symm (h.kinds _ _ _ _ hfind' hfind)
    | term hfind' => exact congrArg Label.chunk (h.terms.distinct _ _ _ _ hfind hfind' hstamp)

theorem of_empty (hexpressions : c.expressions = []) (hchunks : c.chunks = []) (hfirst : first ≤ c.made) :
    c.TellsApart first where
  evaluators := by
    rw [hexpressions]
    exact .nil _ _
  terms := by
    rw [hchunks]
    exact .nil _ _
  kinds := by
    intro text chunk made term hfind
    rw [hexpressions] at hfind
    cases hfind
  since := by
    intro label item hitem
    cases hitem with
    | evaluator hfind => rw [hexpressions] at hfind; cases hfind
    | term hfind => rw [hchunks] at hfind; cases hfind
  next := hfirst

theorem mono (h : c.TellsApart first) {lower : Nat} (hle : lower ≤ first) : c.TellsApart lower where
  evaluators := h.evaluators
  terms := h.terms
  kinds := h.kinds
  since := fun label item hitem => Nat.le_trans hle (h.since label item hitem)
  next := Nat.le_trans hle h.next

/-- The next term gets a number that nothing else has. -/
theorem keepTerm (h : c.TellsApart first) {chunk : String} (hfree : c.chunks.find? chunk = none) (term : Term) :
    (c.keepTerm chunk term).TellsApart first where
  evaluators := h.evaluators.mono (Nat.le_succ _)
  terms := h.terms.add hfree term
  kinds := by
    intro text key made found hmade hfound hstamp
    rcases Shelf.find?_add_eq_some hfound with ⟨rfl, rfl⟩ | ⟨-, hold⟩
    · have hserial := (h.evaluators.stamps text made hmade).2
      rw [hstamp] at hserial
      exact absurd hserial (Nat.lt_irrefl c.made)
    · exact h.kinds text key made found hmade hold hstamp
  since := by
    intro label item hitem
    cases hitem with
    | evaluator hfind => exact h.since _ _ (.evaluator hfind)
    | term hfind =>
      rcases Shelf.find?_add_eq_some hfind with ⟨rfl, rfl⟩ | ⟨-, hold⟩
      · exact h.next
      · exact h.since _ _ (.term hold)
  next := Nat.le_succ_of_le h.next

/-- So does the next evaluator. -/
theorem keepEvaluator (h : c.TellsApart first) {e : Evaluator}
    (hfree : c.expressions.find? e.expression = none) : (c.keepEvaluator e).TellsApart first where
  evaluators := h.evaluators.add hfree e
  terms := h.terms.mono (Nat.le_succ _)
  kinds := by
    intro text key made found hmade hfound hstamp
    rcases Shelf.find?_add_eq_some hmade with ⟨rfl, rfl⟩ | ⟨-, hold⟩
    · have hserial := (h.terms.stamps key found hfound).2
      rw [← hstamp] at hserial
      exact absurd hserial (Nat.lt_irrefl c.made)
    · exact h.kinds text key made found hold hfound hstamp
  since := by
    intro label item hitem
    cases hitem with
    | evaluator hfind =>
      rcases Shelf.find?_add_eq_some hfind with ⟨rfl, rfl⟩ | ⟨-, hold⟩
      · exact h.next
      · exact h.since _ _ (.evaluator hold)
    | term hfind => exact h.since _ _ (.term hfind)
  next := Nat.le_succ_of_le h.next

theorem compileChunk (h : c.TellsApart first) (chunk : String) : (c.compileChunk chunk).2.TellsApart first := by
  rcases c.compileChunk_cases chunk with ⟨_, _, heq⟩ | ⟨_, _, _, heq⟩ | ⟨term, hfree, _, heq⟩
  · rw [heq]; exact h
  · rw [heq]; exact h
  · rw [heq]; exact h.keepTerm hfree term

theorem compileChunks (h : c.TellsApart first) (chunks : List String) :
    (c.compileChunks chunks).2.TellsApart first :=
  compileChunks_induction (P := (TellsApart · first)) (fun _ chunk h => h.compileChunk chunk) h chunks

theorem compile (h : c.TellsApart first) (given : Value) : (c.compile given).2.1.TellsApart first := by
  rcases c.compile_left_cases given with heq | ⟨chunks, hfree, -, heq | ⟨terms, -, heq⟩⟩
  · rw [heq]; exact h
  · rw [heq]; exact h.compileChunks chunks
  · rw [heq]
    rw [← (c.grows_compileChunks chunks).expressions] at hfree
    exact (h.compileChunks chunks).keepEvaluator hfree

/-- **A request** leaves objects that are told apart, even one that clears the compiler. -/
theorem handle (h : c.TellsApart first) (request : Request) : (c.handle request).2.TellsApart first := by
  cases request with
  | compile given => exact h.compile given
  | compileChunk chunk => exact h.compileChunk chunk
  | clear => exact of_empty rfl rfl h.next
  | setLimits limits =>
    refine ⟨h.evaluators, h.terms, h.kinds, ?_, h.next⟩
    intro label item hitem
    cases hitem with
    | evaluator hfind => exact h.since _ _ (.evaluator hfind)
    | term hfind => exact h.since _ _ (.term hfind)

theorem after (h : c.TellsApart first) (requests : List Request) : (c.after requests).TellsApart first := by
  induction requests generalizing c with
  | nil => exact h
  | cons request rest ih => exact ih (h.handle request)

end TellsApart

/-! ## From one request to a later one -/

theorem Holds.mono {d : Compiler} (h : c.Holds label item) (hexpressions : c.expressions.Within d.expressions)
    (hchunks : c.chunks.Within d.chunks) : d.Holds label item := by
  cases h with
  | evaluator hfind => exact .evaluator (hexpressions _ _ hfind)
  | term hfind => exact .term (hchunks _ _ hfind)

/-- What is kept under a label stays there, unless the compiler is cleared. -/
theorem Holds.handle (h : c.Holds label item) (hrequest : request ≠ .clear) :
    (c.handle request).2.Holds label item := by
  cases request with
  | clear => exact absurd rfl hrequest
  | setLimits limits => exact h.mono (fun _ _ h => h) fun _ _ h => h
  | compileChunk chunk =>
    have hgrows := c.grows_compileChunk chunk
    exact h.mono (fun _ _ h => hgrows.expressions ▸ h) hgrows.within
  | compile given =>
    show (c.compile given).2.1.Holds label item
    rcases c.compile_left_cases given with heq | ⟨chunks, hfree, -, heq | ⟨terms, -, heq⟩⟩
    · rw [heq]; exact h
    · have hgrows := c.grows_compileChunks chunks
      rw [heq]
      exact h.mono (fun _ _ h => hgrows.expressions ▸ h) hgrows.within
    · have hgrows := c.grows_compileChunks chunks
      rw [heq]
      rw [← hgrows.expressions] at hfree
      refine h.mono (fun _ _ h => ?_) hgrows.within
      exact Shelf.within_add hfree _ _ _ (hgrows.expressions ▸ h)

theorem Holds.after (h : c.Holds label item) {requests : List Request} (hclear : .clear ∉ requests) :
    (c.after requests).Holds label item := by
  induction requests generalizing c with
  | nil => exact h
  | cons request rest ih =>
    obtain ⟨hrequest, hrest⟩ := List.ne_and_not_mem_of_not_mem_cons hclear
    exact ih (h.handle hrequest.symm) hrest

/-- A request takes no number back, and leaves the compiler its own. -/
theorem handle_made (c : Compiler) (request : Request) :
    (c.handle request).2.owner = c.owner ∧ c.made ≤ (c.handle request).2.made := by
  have hchunk : ∀ (d : Compiler) (chunk : String), d.owner = c.owner ∧ c.made ≤ d.made →
      (d.compileChunk chunk).2.owner = c.owner ∧ c.made ≤ (d.compileChunk chunk).2.made := by
    intro d chunk hd
    rcases d.compileChunk_cases chunk with ⟨_, _, heq⟩ | ⟨_, _, _, heq⟩ | ⟨_, _, _, heq⟩
    · rw [heq]; exact hd
    · rw [heq]; exact hd
    · rw [heq]; exact ⟨hd.1, Nat.le_succ_of_le hd.2⟩
  have hstart : c.owner = c.owner ∧ c.made ≤ c.made := ⟨rfl, Nat.le_refl _⟩
  cases request with
  | clear => exact hstart
  | setLimits limits => exact hstart
  | compileChunk chunk => exact hchunk c chunk hstart
  | compile given =>
    have hchunks := fun chunks =>
      compileChunks_induction (P := fun d => d.owner = c.owner ∧ c.made ≤ d.made) hchunk hstart chunks
    show (c.compile given).2.1.owner = c.owner ∧ c.made ≤ (c.compile given).2.1.made
    rcases c.compile_left_cases given with heq | ⟨chunks, -, -, heq | ⟨terms, -, heq⟩⟩
    · rw [heq]; exact hstart
    · rw [heq]; exact hchunks chunks
    · rw [heq]; exact ⟨(hchunks chunks).1, Nat.le_succ_of_le (hchunks chunks).2⟩

theorem after_owner (c : Compiler) (requests : List Request) : (c.after requests).owner = c.owner := by
  induction requests generalizing c with
  | nil => rfl
  | cons request rest ih => exact (ih _).trans (c.handle_made request).1

/-- Once the compiler was cleared, all that it keeps has new numbers. -/
theorem TellsApart.after_of_clear (h : c.TellsApart first) {requests : List Request}
    (hclear : .clear ∈ requests) : (c.after requests).TellsApart c.made := by
  induction requests generalizing c first with
  | nil => cases hclear
  | cons request rest ih =>
    rcases List.mem_cons.mp hclear with rfl | hrest
    · exact TellsApart.after (of_empty rfl rfl (Nat.le_refl _)) rest
    · exact (ih (h.handle request) hrest).mono (c.handle_made request).2

/-! ## What is given -/

theorem Gives.ne_clear (h : c.Gives request label item) : request ≠ .clear := by
  cases h <;> nofun

/-- What is given is what is kept. -/
theorem Gives.holds (h : c.Gives request label item) (hcoherent : c.Coherent) :
    (c.handle request).2.Holds label item := by
  cases h with
  | evaluator hmade => exact .evaluator (find?_of_compile hmade)
  | @part given made chunk term hmade hmem =>
    exact .term ((List.forall₂_iff_zip.mp (hcoherent.shares_of_compile hmade).terms).2 hmem)
  | @term chunk made hmade => exact .term (find?_of_compileChunk (Prod.ext hmade rfl))

/-- Objects that are kept at the same time are the same if and only if they go by the same label. -/
theorem TellsApart.stamp_eq_iff (h : c.TellsApart first) (hitem : c.Holds label item)
    (halso : c.Holds other also) :
    (item.stamp = also.stamp ↔ label = other) ∧ (item.stamp = also.stamp → item = also) := by
  have hlabel : label = other → item = also := by
    rintro rfl
    exact hitem.unique halso
  exact ⟨⟨h.label_eq hitem halso, fun heq => congrArg Item.stamp (hlabel heq)⟩,
    fun hstamp => hlabel (h.label_eq hitem halso hstamp)⟩

/-- Objects that one compiler gives for two requests, with others `between` them. -/
theorem Gives.stamp_eq_iff_of_later (h : c.TellsApart first) (hcoherent : c.Coherent) {later : Request}
    (hitem : c.Gives request label item) (between : List Request)
    (halso : ((c.handle request).2.after between).Gives later other also) :
    (item.stamp = also.stamp ↔ .clear ∉ between ∧ label = other) ∧
      (item.stamp = also.stamp → item = also) := by
  have hheld := hitem.holds hcoherent
  have hheld' := halso.holds ((hcoherent.handle request).after between)
  by_cases hclear : .clear ∈ between
  · -- the later object has a number from after the clearing
    have hne : item.stamp ≠ also.stamp := by
      intro hstamp
      have hold := ((h.handle request).bounds hheld).2
      have hnew := (((h.handle request).after_of_clear hclear).handle later).since _ _ hheld'
      rw [hstamp] at hold
      exact Nat.lt_irrefl _ (Nat.lt_of_lt_of_le hold hnew)
    exact ⟨⟨fun hstamp => absurd hstamp hne, fun hall => absurd hclear hall.1⟩,
      fun hstamp => absurd hstamp hne⟩
  · -- the earlier object is still kept when the later one is given
    have hboth := (((h.handle request).after between).handle later).stamp_eq_iff
      ((hheld.after hclear).handle halso.ne_clear) hheld'
    exact ⟨hboth.1.trans (and_iff_right hclear).symm, hboth.2⟩

/-! ## Several compilers -/

/-- A request to one of several compilers. -/
structure Commission where
  compiler : Nat
  request : Request

/-- Compilers side by side. -/
abbrev Workshop := Nat → Compiler

namespace Workshop

/-- New compilers, each under limits of its own. -/
def opened (limits : Nat → Limits) : Workshop := fun n => { owner := n, limits := limits n }

/-- The compilers after a request to one of them. -/
def handle (w : Workshop) (o : Commission) : Workshop :=
  Function.update w o.compiler ((w o.compiler).handle o.request).2

/-- The compilers after requests, be they answered or not. -/
def after (w : Workshop) (history : List Commission) : Workshop := history.foldl handle w

/-- The requests that are made of one compiler. -/
def requestsOf (n : Nat) (history : List Commission) : List Request :=
  (history.filter (·.compiler == n)).map (·.request)

theorem mem_requestsOf {n : Nat} {history : List Commission} {request : Request} :
    request ∈ requestsOf n history ↔ ⟨n, request⟩ ∈ history := by
  unfold requestsOf
  constructor
  · intro hmem
    obtain ⟨o, ho, rfl⟩ := List.mem_map.mp hmem
    obtain ⟨hhistory, hn⟩ := List.mem_filter.mp ho
    rw [← eq_of_beq hn]
    exact hhistory
  · intro hmem
    exact List.mem_map.mpr ⟨_, List.mem_filter.mpr ⟨hmem, beq_self_eq_true n⟩, rfl⟩

/-- A compiler only sees the requests that are made of it. -/
theorem after_apply (w : Workshop) (history : List Commission) (n : Nat) :
    w.after history n = (w n).after (requestsOf n history) := by
  induction history generalizing w with
  | nil => rfl
  | cons o rest ih =>
    rw [after, List.foldl_cons]
    show (w.handle o).after rest n = _
    rw [ih]
    by_cases hn : o.compiler = n
    · subst hn
      simp [requestsOf, handle, Compiler.after]
    · simp [requestsOf, handle, hn, Function.update_of_ne (Ne.symm hn)]

theorem after_append (w : Workshop) (before later : List Commission) :
    w.after (before ++ later) = (w.after before).after later :=
  List.foldl_append

theorem after_opened (limits : Nat → Limits) (history : List Commission) (n : Nat) :
    ((opened limits).after history n).Coherent ∧ ((opened limits).after history n).TellsApart 0 ∧
      ((opened limits).after history n).owner = n := by
  rw [after_apply]
  exact ⟨(coherent_of_empty rfl rfl).after _, (TellsApart.of_empty rfl rfl (Nat.zero_le _)).after _,
    after_owner _ _⟩

/-- The request at a place of a history is one to compiler `n`, and the answer gives the object. -/
def GivesAt (limits : Nat → Limits) (history : List Commission) (place n : Nat) (label : Label) (item : Item) :
    Prop :=
  ∃ request, history[place]? = some ⟨n, request⟩ ∧
    ((opened limits).after (history.take place) n).Gives request label item

theorem GivesAt.owner_eq {limits : Nat → Limits} {history : List Commission} {place n : Nat}
    (h : GivesAt limits history place n label item) : item.stamp.owner = n := by
  obtain ⟨request, -, hgives⟩ := h
  obtain ⟨hcoherent, hapart, howner⟩ := after_opened limits (history.take place) n
  have hbounds := (hapart.handle request).bounds (hgives.holds hcoherent)
  rw [hbounds.1, (handle_made _ request).1, howner]

/-- The compiler at a later place is the one that the request left, after the requests in between. -/
theorem after_take_eq (w : Workshop) {history : List Commission} {i j n : Nat} {request : Request}
    (hplace : history[i]? = some ⟨n, request⟩) (hij : i < j) :
    w.after (history.take j) n =
      ((w.after (history.take i) n).handle request).2.after (requestsOf n ((history.take j).drop (i + 1))) := by
  have hsplit : history.take j = history.take i ++ ⟨n, request⟩ :: (history.take j).drop (i + 1) := by
    have htake : (history.take j).take (i + 1) = history.take i ++ [⟨n, request⟩] := by
      rw [List.take_take, Nat.min_eq_left hij, List.take_add_one, hplace]
      rfl
    rw [← List.singleton_append, ← List.append_assoc, ← htake, List.take_append_drop]
  conv_lhs => rw [hsplit, after_append]
  show (handle _ _).after _ n = _
  rw [after_apply]
  simp [handle]

/--
**Objects are the same if and only if they go by the same label.**

Take any history of requests to any number of compilers. Two objects that are given in its course, at the
same place or at an earlier and a later one, are the same if and only if the same compiler gives them, it is
not cleared in between, and they go by the same label: evaluators by the tidied text of their expressions,
terms by their chunks, be they given by themselves or as parts of evaluators.
-/
theorem stamp_eq_iff_label_eq (limits : Nat → Limits) (history : List Commission) {i j n m : Nat}
    (hij : i ≤ j) (hitem : GivesAt limits history i n label item)
    (halso : GivesAt limits history j m other also) :
    (item.stamp = also.stamp ↔
        n = m ∧ ⟨n, .clear⟩ ∉ (history.take j).drop (i + 1) ∧ label = other) ∧
      (item.stamp = also.stamp → item = also) := by
  by_cases hnm : n = m
  · subst hnm
    obtain ⟨request, hplace, hgives⟩ := hitem
    obtain ⟨later, hplace', hgives'⟩ := halso
    obtain ⟨hcoherent, hapart, -⟩ := after_opened limits (history.take i) n
    rw [and_iff_right rfl]
    rcases Nat.eq_or_lt_of_le hij with rfl | hlt
    · -- at one place both objects are kept after the one request
      obtain rfl : request = later := by
        rw [hplace] at hplace'
        cases hplace'
        rfl
      have hboth := (hapart.handle request).stamp_eq_iff (hgives.holds hcoherent) (hgives'.holds hcoherent)
      have hnone : (history.take i).drop (i + 1) = [] :=
        List.drop_eq_nil_of_le (Nat.le_succ_of_le (List.length_take_le i history))
      rw [hnone, and_iff_right List.not_mem_nil]
      exact hboth
    · rw [after_take_eq _ hplace hlt] at hgives'
      have hboth := hgives.stamp_eq_iff_of_later hapart hcoherent _ hgives'
      rw [mem_requestsOf] at hboth
      exact hboth
  · have hne : item.stamp ≠ also.stamp := by
      intro hstamp
      rw [← hitem.owner_eq, ← halso.owner_eq, hstamp] at hnm
      exact hnm rfl
    exact ⟨⟨fun hstamp => absurd hstamp hne, fun hall => absurd hall.1 hnm⟩,
      fun hstamp => absurd hstamp hne⟩

/-- A history in which a chunk that is part of an evaluator is asked for under other limits, and once more
after the compiler was cleared. -/
def clearedHistory : List Commission := [
  ⟨0, .compile (.text "2D6 + 1")⟩, ⟨1, .compileChunk "2d6"⟩, ⟨0, .setLimits { maxDice := 5 }⟩,
  ⟨0, .compile (.text "2d6+x")⟩, ⟨0, .compileChunk "2d6"⟩, ⟨0, .clear⟩, ⟨0, .compileChunk "2d6"⟩]

theorem stamp_eq_iff_label_eq_cleared :
    let limits : Nat → Limits := fun _ => .standard
    let found : Item := .term ⟨⟨0, 0⟩, .pool { count := 2, faces := 6 }⟩
    let renewed : Item := .term ⟨⟨0, 3⟩, .pool { count := 2, faces := 6, maxDice := 5 }⟩
    0 ≤ 4 ∧ 0 ≤ 6 ∧ GivesAt limits clearedHistory 0 0 (.chunk "2d6") found ∧
      GivesAt limits clearedHistory 4 0 (.chunk "2d6") found ∧
      GivesAt limits clearedHistory 6 0 (.chunk "2d6") renewed ∧
      (found.stamp = found.stamp ↔ 0 = 0 ∧ ⟨0, .clear⟩ ∉ (clearedHistory.take 4).drop 1 ∧
        Label.chunk "2d6" = Label.chunk "2d6") ∧
      (found.stamp = renewed.stamp ↔ 0 = 0 ∧ ⟨0, .clear⟩ ∉ (clearedHistory.take 6).drop 1 ∧
        Label.chunk "2d6" = Label.chunk "2d6") := by
  intro limits found renewed
  let made : Stamped Evaluator := ⟨⟨0, 2⟩, "2d6+1", ["2d6", "+1"],
    [⟨⟨0, 0⟩, .pool { count := 2, faces := 6 }⟩, ⟨⟨0, 1⟩, .constant 1⟩]⟩
  have hmade : (Compiler.compile { owner := 0, limits := .standard } (.text "2D6 + 1")).1 = .ok made := rfl
  have hpart : GivesAt limits clearedHistory 0 0 (.chunk "2d6") found :=
    ⟨_, rfl, .part hmade (by decide)⟩
  have hterm : GivesAt limits clearedHistory 4 0 (.chunk "2d6") found := ⟨_, rfl, .term rfl⟩
  have hrenewed : GivesAt limits clearedHistory 6 0 (.chunk "2d6") renewed := ⟨_, rfl, .term rfl⟩
  refine ⟨Nat.zero_le _, Nat.zero_le _, hpart, hterm, hrenewed, ?_, ?_⟩
  · exact (stamp_eq_iff_label_eq limits clearedHistory (Nat.zero_le _) hpart hterm).1
  · exact (stamp_eq_iff_label_eq limits clearedHistory (Nat.zero_le _) hpart hrenewed).1

end Workshop

end DiceNotation.Compiler
