import RpcSchema.Text

/-! Readers take a value off the front of a text. A reader never looks back, so what
it leaves is an end piece of what it was given; this is part of the type. Choice is
ordered: the second alternative is read only where the first one fails. -/
namespace RpcSchema

structure Reader (α : Type) where
  run : Text → Option (α × Text)
  suffix : ∀ {s a r}, run s = some (a, r) → r <:+ s

namespace Reader

variable {α β σ : Type}

protected def pure (a : α) : Reader α where
  run s := some (a, s)
  suffix h := by cases h; exact List.suffix_refl _

protected def bind (p : Reader α) (f : α → Reader β) : Reader β where
  run s :=
    match p.run s with
    | none => none
    | some (a, r) => (f a).run r
  suffix {s b t} h := by
    cases hp : p.run s with
    | none => simp [hp] at h
    | some x =>
      simp only [hp] at h
      exact ((f x.1).suffix h).trans (p.suffix hp)

instance : Monad Reader where
  pure := Reader.pure
  bind := Reader.bind

def fail : Reader α where
  run _ := none
  suffix h := by cases h

def remaining : Reader Text where
  run s := some (s, s)
  suffix h := by cases h; exact List.suffix_refl _

def orElse (p : Reader α) (q : Unit → Reader α) : Reader α where
  run s :=
    match p.run s with
    | some x => some x
    | none => (q ()).run s
  suffix {s a r} h := by
    cases hp : p.run s with
    | none =>
      simp only [hp] at h
      exact (q ()).suffix h
    | some x =>
      simp only [hp, Option.some.injEq] at h
      subst h
      exact p.suffix hp

instance : OrElse (Reader α) := ⟨orElse⟩

def require (b : Bool) : Reader Unit := if b then Reader.pure () else fail

def optional (p : Reader α) : Reader (Option α) :=
  orElse (Reader.bind p fun a => Reader.pure (some a)) fun _ => Reader.pure none

/-- The value that stands there, if any; nothing is taken off. -/
def peek (p : Reader α) : Reader (Option α) where
  run s := some ((p.run s).map Prod.fst, s)
  suffix h := by cases h; exact List.suffix_refl _

/-- Whether the value stands there; nothing is taken off. -/
def sees (p : Reader α) : Reader Bool := Reader.bind (peek p) fun found => Reader.pure found.isSome

/-- Two readings of one place. The first one decides what is left, if there is one. -/
def both (p : Reader α) (q : Reader β) : Reader (Option α × Option β) where
  run s :=
    match p.run s, q.run s with
    | some (a, r), some (b, _) => some ((some a, some b), r)
    | some (a, r), none => some ((some a, none), r)
    | none, some (b, r) => some ((none, some b), r)
    | none, none => none
  suffix {s x r} h := by
    cases hp : p.run s with
    | some y =>
      have hy : y.2 = r := by
        cases hq : q.run s <;> simp only [hp, hq, Option.some.injEq, Prod.mk.injEq] at h <;>
          exact h.2
      exact hy ▸ p.suffix hp
    | none =>
      cases hq : q.run s with
      | none => simp [hp, hq] at h
      | some z =>
        simp only [hp, hq, Option.some.injEq, Prod.mk.injEq] at h
        exact h.2 ▸ q.suffix hq

/-- Reads a value and tells which piece of the text it was. -/
def captured (p : Reader α) : Reader (Text × α) where
  run s :=
    match p.run s with
    | none => none
    | some (a, r) => some ((s.take (s.length - r.length), a), r)
  suffix {s x r} h := by
    cases hp : p.run s with
    | none => simp [hp] at h
    | some y =>
      simp only [hp, Option.some.injEq, Prod.mk.injEq] at h
      exact h.2 ▸ p.suffix hp

/-- Values read one after the other, at most `n`, as long as the next one succeeds. -/
def repeated (step : σ → Reader (α × σ)) : Nat → σ → Reader (List α)
  | 0, _ => Reader.pure []
  | n + 1, state =>
    orElse (Reader.bind (step state) fun x =>
        Reader.bind (repeated step n x.2) fun xs => Reader.pure (x.1 :: xs))
      fun _ => Reader.pure []

/-- As many values as there are, each step passing a state to the next. A text has
no more of them than characters. -/
def manyFrom (step : σ → Reader (α × σ)) (state : σ) : Reader (List α) :=
  Reader.bind remaining fun s => repeated step s.length state

def many (p : Reader α) : Reader (List α) :=
  manyFrom (fun _ => Reader.bind p fun a => Reader.pure (a, ())) ()

/-- One or more values with a separator between them. -/
def separated (separator : Reader β) (p : Reader α) : Reader (List α) :=
  Reader.bind p fun a =>
    Reader.bind (many (Reader.bind separator fun _ => p)) fun as => Reader.pure (a :: as)

/-- One character of a class. -/
def one (p : Char → Bool) : Reader Char where
  run
    | c :: s => if p c then some (c, s) else none
    | [] => none
  suffix {s a r} h := by
    cases s with
    | nil => cases h
    | cons c s =>
      simp only at h
      split at h
      · cases h
        exact List.suffix_cons _ _
      · cases h

def times (p : Char → Bool) : Nat → Reader Unit
  | 0 => Reader.pure ()
  | n + 1 => Reader.bind (one p) fun _ => times p n

def anyOf (cs : List Char) : Reader Unit :=
  Reader.bind (one fun c => cs.contains c) fun _ => Reader.pure ()

/-- The characters of a class, as far as they go. -/
def span (p : Char → Bool) : Reader Text where
  run s := some (s.takeWhile p, s.dropWhile p)
  suffix h := by cases h; exact List.dropWhile_suffix _

/-- A given piece of text at the front. -/
def exactly (piece : Text) : Reader Unit where
  run s := if piece <+: s then some ((), s.drop piece.length) else none
  suffix {s a r} h := by
    split at h
    · cases h
      exact List.drop_suffix _ _
    · cases h

/-- The character at the front, left where it is. -/
def front : Reader (Option Char) where
  run s := some (s.head?, s)
  suffix h := by cases h; exact List.suffix_refl _

end Reader

end RpcSchema
