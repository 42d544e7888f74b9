/-!
# Rolls

A roll is a computation that asks for dice. It is kept apart from where the dice come from: a roll is
finished, or stopped by an error, or names the faces of the die it waits for and says how it goes on
with each answer. Two rolls that are equal ask for the same dice and give the same result whatever
answers.
-/

namespace DiceNotation

/-- Why a source gives no answer. -/
inductive SourceFailure where
  /-- A scripted source has no value for this call, the first being number one. -/
  | exhausted (call : Nat)
  /-- A scripted source has no value for a die with these faces. -/
  | exhaustedFor (faces : Int)
  /-- There is no value between one and the number of faces. -/
  | emptyRange (faces : Int)
deriving DecidableEq, Repr

/-- What is said of a source that gives no answer. -/
def SourceFailure.message : SourceFailure → String
  | exhausted call => s!"roll {call}"
  | exhaustedFor faces => s!"d{faces}"
  | emptyRange faces => s!"empty range for randrange() (1, {faces + 1}, {faces})"

/-- Why a roll stops. -/
inductive RollError where
  /-- `pending` dice of a pool of `size` show `face` and would have to be rolled again, but only
  `limit` dice are allowed. -/
  | limitExceeded (face : Int) (size pending : Nat) (limit : Int)
  /-- The same, where the limit has too many digits to be written in a message. -/
  | unwritable (face : Int) (size pending : Nat) (limit : Int)
  /-- A pool names a modifier that does not exist. -/
  | unknownModifier (token : String)
  /-- The source gives no answer. -/
  | source (failure : SourceFailure)
deriving DecidableEq, Repr

/-- A roll in progress. -/
inductive Roll (α : Type) where
  | done (result : α)
  | stop (error : RollError)
  | ask (faces : Int) (next : Int → Roll α)

namespace Roll

variable {α β γ : Type}

/-- Goes on with the result of a roll. -/
def bind : Roll α → (α → Roll β) → Roll β
  | done a, f => f a
  | stop e, _ => stop e
  | ask faces next, f => ask faces fun value => (next value).bind f

instance : Monad Roll where
  pure := done
  bind := bind

@[simp] theorem pure_eq_done (a : α) : (pure a : Roll α) = done a := rfl

@[simp] theorem bind_eq (r : Roll α) (f : α → Roll β) : r >>= f = r.bind f := rfl

@[simp] theorem done_bind (a : α) (f : α → Roll β) : (done a).bind f = f a := rfl

@[simp] theorem stop_bind (e : RollError) (f : α → Roll β) : (stop e : Roll α).bind f = stop e := rfl

@[simp] theorem ask_bind (faces : Int) (next : Int → Roll α) (f : α → Roll β) :
    (ask faces next).bind f = ask faces fun value => (next value).bind f := rfl

@[simp] theorem bind_done (r : Roll α) : r.bind done = r := by
  induction r with
  | done a => rfl
  | stop e => rfl
  | ask faces next ih => simp [ih]

@[simp] theorem bind_assoc (r : Roll α) (f : α → Roll β) (g : β → Roll γ) :
    (r.bind f).bind g = r.bind fun a => (f a).bind g := by
  induction r with
  | done a => rfl
  | stop e => rfl
  | ask faces next ih => simp [ih]

/-- One die, its value moved by `offset`. -/
def die (faces offset : Int) : Roll Int := ask faces fun value => done (value + offset)

/-! ## Rolls one after the other -/

/-- Goes on with a roll for each item; `results` are those of the items before, the last one first. -/
def mapEachFrom (f : α → Roll β) (results : List β) : List α → Roll (List β)
  | [] => done results.reverse
  | a :: rest => (f a).bind fun b => mapEachFrom f (b :: results) rest

/-- A roll for each item, in order. What is still to be rolled stands last at every point, so that an
answer does not pass through all the items before it. -/
def mapEach (f : α → Roll β) (items : List α) : Roll (List β) := mapEachFrom f [] items

theorem mapEachFrom_eq (f : α → Roll β) (results : List β) (items : List α) :
    mapEachFrom f results items = (mapEach f items).bind fun bs => done (results.reverse ++ bs) := by
  induction items generalizing results with
  | nil => simp [mapEachFrom, mapEach]
  | cons a rest ih =>
    rw [mapEach, mapEachFrom, mapEachFrom, bind_assoc]
    congr 1
    funext b
    rw [ih (b :: results), ih [b]]
    simp

@[simp] theorem mapEach_nil (f : α → Roll β) : mapEach f [] = done [] := rfl

theorem mapEach_cons (f : α → Roll β) (a : α) (rest : List α) :
    mapEach f (a :: rest) = (f a).bind fun b => (mapEach f rest).bind fun bs => done (b :: bs) := by
  rw [mapEach, mapEachFrom]
  congr 1
  funext b
  rw [mapEachFrom_eq]
  rfl

/-- Several rolls of one kind. -/
def times (r : Roll α) (n : Nat) : Roll (List α) := mapEach (fun _ => r) (List.range n)

end Roll

end DiceNotation
