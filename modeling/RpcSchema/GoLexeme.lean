import RpcSchema.IdentifierCharacter
import RpcSchema.TextReader

/-! The lexemes of Go. Blanks and comments may stand before every lexeme. A line break
is a blank as well, except where it would end a statement: there it is a lexeme of its
own, and readers are told so by `lineEnds`. What a word is depends on its place: a
keyword is one only where the grammar has a use for it. -/
namespace RpcSchema.GoLexeme
open Reader (exactly front)

def isBlank (c : Char) : Bool :=
  c == ' ' || c == '\t' || c == '\n' || c == '\x0b' || c == '\x0c' || c == '\r'

def afterLine : Text → Text
  | [] => []
  | c :: s => if c == '\n' || c == '\x00' then c :: s else afterLine s

/-- The text after the end of a block comment whose opening has been read. -/
def afterBlock : Text → Option Text
  | [] => none
  | [_] => none
  | c :: d :: s =>
    if c == '*' && d == '/' then some s
    else if c == '\x00' then none
    else afterBlock (d :: s)

/-- One blank or comment: the comment, and what follows. -/
def nextTrivia (lineEnds : Bool) : Text → Option (Option Text × Text)
  | '/' :: '/' :: s =>
    some (some ('/' :: '/' :: s.take (s.length - (afterLine s).length)), afterLine s)
  | '/' :: '*' :: s =>
    match afterBlock s with
    | none => none
    | some r => some (some ('/' :: '*' :: s.take (s.length - r.length)), r)
  | c :: s => if isBlank c && !(lineEnds && c == '\n') then some (none, s) else none
  | [] => none

theorem afterLine_suffix (s : Text) : afterLine s <:+ s := by
  induction s with
  | nil => exact List.suffix_refl _
  | cons c s ih =>
    unfold afterLine
    split
    · exact List.suffix_refl _
    · exact ih.trans (List.suffix_cons c s)

theorem afterBlock_suffix {s r : Text} (h : afterBlock s = some r) : r <:+ s := by
  fun_induction afterBlock s with
  | case1 => cases h
  | case2 => cases h
  | case3 c d s _ =>
    cases h
    exact (List.suffix_cons d _).trans (List.suffix_cons c _)
  | case4 => cases h
  | case5 c d s _ _ ih => exact (ih h).trans (List.suffix_cons c (d :: s))

theorem nextTrivia_suffix {lineEnds : Bool} {s : Text} {x : Option Text × Text}
    (h : nextTrivia lineEnds s = some x) : ∃ c t, s = c :: t ∧ x.2 <:+ t := by
  unfold nextTrivia at h
  split at h
  · next t =>
    cases h
    exact ⟨_, _, rfl, (afterLine_suffix t).trans (List.suffix_cons '/' t)⟩
  · next t =>
    split at h
    · cases h
    · next hr =>
      cases h
      exact ⟨_, _, rfl, (afterBlock_suffix hr).trans (List.suffix_cons '*' t)⟩
  · split at h
    · cases h
      exact ⟨_, _, rfl, List.suffix_refl _⟩
    · cases h
  · cases h

theorem length_lt_of_nextTrivia {lineEnds : Bool} {s : Text} {x : Option Text × Text}
    (h : nextTrivia lineEnds s = some x) : x.2.length < s.length := by
  obtain ⟨c, t, rfl, ht⟩ := nextTrivia_suffix h
  exact Nat.lt_succ_of_le ht.length_le

/-- The comments before the next lexeme, and the text from that lexeme on. -/
def trivia (lineEnds : Bool) (s : Text) : List Text × Text :=
  match h : nextTrivia lineEnds s with
  | none => ([], s)
  | some (comment, r) =>
    have : r.length < s.length := length_lt_of_nextTrivia h
    let next := trivia lineEnds r
    (comment.toList ++ next.1, next.2)
termination_by s.length

theorem trivia_suffix (lineEnds : Bool) (s : Text) : (trivia lineEnds s).2 <:+ s := by
  fun_induction trivia lineEnds s with
  | case1 => exact List.suffix_refl _
  | case2 s comment r h _ next ih =>
    obtain ⟨c, t, rfl, ht⟩ := nextTrivia_suffix h
    exact (ih.trans ht).trans (List.suffix_cons c t)

/-- Reads over blanks and comments and returns the comments. -/
def comments (lineEnds : Bool) : Reader (List Text) where
  run s := some (trivia lineEnds s)
  suffix {s a r} h := by
    have := trivia_suffix lineEnds s
    rwa [Option.some.inj h] at this

def lexeme {α : Type} (lineEnds : Bool) (p : Reader α) : Reader α := do
  let _ ← comments lineEnds
  p

/-- The maximal run of identifier characters at the front. -/
def identifier : Reader Text where
  run
    | [] => none
    | c :: s =>
      if IdentifierCharacter.isStart c then
        some (c :: s.takeWhile IdentifierCharacter.isContinue,
          s.dropWhile IdentifierCharacter.isContinue)
      else none
  suffix {s a r} h := by
    cases s with
    | nil => cases h
    | cons c s =>
      simp only at h
      split at h
      · cases h
        exact (List.dropWhile_suffix _).trans (List.suffix_cons c s)
      · cases h

def word (lineEnds : Bool) : Reader Text := lexeme lineEnds identifier

/-- A word that is not reserved at its place. -/
def name (lineEnds : Bool) (reserved : List Text) : Reader Text := do
  let w ← word lineEnds
  Reader.require (!reserved.contains w)
  return w

def keyword (lineEnds : Bool) (k : Text) : Reader Unit := do
  let w ← word lineEnds
  Reader.require (w == k)

def symbol (lineEnds : Bool) (piece : Text) : Reader Unit := lexeme lineEnds (exactly piece)

/-- The first character of the next lexeme, which is left to be read. -/
def nextChar (lineEnds : Bool) : Reader (Option Char) := do
  return (← Reader.peek (lexeme lineEnds front)).join

/-- The end of a statement: a line break, a semicolon or the character NUL. -/
def terminator : Reader Unit :=
  symbol true ['\n'] <|> symbol true [';'] <|> symbol true ['\x00']

/-- The end of the text, after blanks and comments. -/
def endOfText : Reader Unit := do
  let c ← nextChar false
  Reader.require c.isNone

end RpcSchema.GoLexeme
