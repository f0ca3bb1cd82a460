import RpcSchema.Proofs.PlainNames
import RpcSchema.Proofs.ReaderRun
import Mathlib.Data.List.TakeWhile

/-! # Runs of the lexeme readers

A lexeme is read behind blanks and comments; `Skips` says what stands behind them. -/
namespace RpcSchema.LexemeRun
open GoLexeme ReaderRun PlainNames

variable {α : Type} {p : Reader α} {a : α} {lineEnds : Bool} {s t r w k : Text}
  {cs : List Text} {c d : Char}

/-- Behind the comments `cs` and the blanks at the front of `s` stands `t`. -/
def Skips (lineEnds : Bool) (s : Text) (cs : List Text) (t : Text) : Prop :=
  trivia lineEnds s = (cs, t)

/-- No blank and no comment stands at the front. -/
def Solid (s : Text) : Prop := ∀ lineEnds, nextTrivia lineEnds s = none

theorem solid_nil : Solid [] :=
  fun _ => rfl

theorem solid_cons (hb : isBlank c = false) (hc : c ≠ '/') : Solid (c :: s) := by
  intro lineEnds
  unfold nextTrivia
  split
  · next h => exact absurd (List.head_eq_of_cons_eq h) hc
  · next h => exact absurd (List.head_eq_of_cons_eq h) hc
  · next h =>
    obtain ⟨rfl, rfl⟩ := List.cons.inj h
    rw [hb]
    rfl
  · rfl

theorem skips_of_none (h : nextTrivia lineEnds s = none) : Skips lineEnds s [] s := by
  unfold Skips
  rw [trivia]
  split
  · rfl
  · next hs => simp [h] at hs

theorem Solid.skips (h : Solid s) : Skips lineEnds s [] s :=
  skips_of_none (h lineEnds)

theorem skips_cons (hb : isBlank c = false) (hc : c ≠ '/') :
    Skips lineEnds (c :: s) [] (c :: s) :=
  (solid_cons hb hc).skips

theorem skips_line_end : Skips true ('\n' :: s) [] ('\n' :: s) :=
  skips_of_none rfl

theorem Skips.step {comment : Option Text} {u : Text}
    (h : nextTrivia lineEnds s = some (comment, u)) (hu : Skips lineEnds u cs t) :
    Skips lineEnds s (comment.toList ++ cs) t := by
  unfold Skips at *
  rw [trivia]
  split
  · next hs => simp [h] at hs
  · next hs =>
    rw [h] at hs
    obtain ⟨rfl, rfl⟩ := Prod.mk.inj (Option.some.inj hs)
    simp [hu]

theorem nextTrivia_blank (hb : isBlank c = true) (hbreak : (lineEnds && c == '\n') = false) :
    nextTrivia lineEnds (c :: s) = some (none, s) := by
  have hslash {v : Text} (h : c :: s = '/' :: v) : False := by
    rw [List.head_eq_of_cons_eq h] at hb
    exact absurd hb (by decide)
  unfold nextTrivia
  split
  · next h => exact (hslash h).elim
  · next h => exact (hslash h).elim
  · next h =>
    obtain ⟨rfl, rfl⟩ := List.cons.inj h
    rw [hb, hbreak]
    rfl
  · next h => cases h

theorem Skips.skip (hb : isBlank c = true) (hbreak : (lineEnds && c == '\n') = false)
    (h : Skips lineEnds s cs t) : Skips lineEnds (c :: s) cs t :=
  .step (nextTrivia_blank hb hbreak) h

theorem Skips.blank (h : Skips lineEnds s cs t) : Skips lineEnds (' ' :: s) cs t :=
  h.skip rfl (by simp)

theorem reads_comments (h : Skips lineEnds s cs t) : Reads (comments lineEnds) s cs t :=
  congrArg some h

theorem reads_lexeme (h : Skips lineEnds s cs t) (hp : Reads p t a r) :
    Reads (lexeme lineEnds p) s a r :=
  (reads_comments h).bind hp

theorem refuses_lexeme (h : Skips lineEnds s cs t) (hp : Refuses p t) :
    Refuses (lexeme lineEnds p) s :=
  (reads_comments h).bind_refuses hp

theorem reads_nextChar (h : Skips lineEnds s cs t) : Reads (nextChar lineEnds) s t.head? s :=
  (reads_lexeme h Reads.front).peek.bind .pure

section Symbols

theorem reads_symbol {piece : Text} (h : Skips lineEnds s cs (piece ++ r)) :
    Reads (symbol lineEnds piece) s () r :=
  reads_lexeme h (Reads.exactly piece r)

theorem reads_sign (h : Skips lineEnds s cs (c :: r)) : Reads (symbol lineEnds [c]) s () r :=
  reads_symbol h

theorem refuses_symbol {piece : Text} (h : Skips lineEnds s cs (c :: t)) (hc : d ≠ c) :
    Refuses (symbol lineEnds (d :: piece)) s :=
  refuses_lexeme h (Refuses.exactly hc)

end Symbols

section Words

/-- A word does not go on here. -/
def Stops (r : Text) : Prop := ∀ c ∈ r.head?, IdentifierCharacter.isContinue c = false

/-- No word begins here. -/
def NoWord (r : Text) : Prop := ∀ c ∈ r.head?, IdentifierCharacter.isStart c = false

theorem stops_cons (h : IdentifierCharacter.isContinue c = false) : Stops (c :: r) :=
  forall_head h

theorem noWord_nil : NoWord [] := by
  intro d hd
  cases hd

theorem noWord_cons (h : IdentifierCharacter.isStart c = false) : NoWord (c :: r) :=
  forall_head h

/-- No sign begins a word. -/
theorem notMem_of_isStart (h : IdentifierCharacter.isStart c = true) {marks : List Char}
    (hmarks : marks ⊆ punctuation) : c ∉ marks :=
  fun hc => (notMem_of_isContinue (IdentifierCharacter.isContinue_of_isStart h)).2 (hmarks hc)

theorem ne_of_isStart (h : IdentifierCharacter.isStart c = true) (hd : d ∈ punctuation) :
    c ≠ d := by
  rintro rfl
  exact notMem_of_isStart h (List.Subset.refl punctuation) hd

theorem isBlank_of_isStart (h : IdentifierCharacter.isStart c = true) : isBlank c = false := by
  have hw := (notMem_of_isContinue (IdentifierCharacter.isContinue_of_isStart h)).1
  by_contra hb
  simp only [isBlank, Bool.not_eq_false, Bool.or_eq_true, beq_iff_eq] at hb
  apply hw
  rcases hb with ((((rfl | rfl) | rfl) | rfl) | rfl) | rfl <;> decide

theorem solid_of_isStart (h : IdentifierCharacter.isStart c = true) : Solid (c :: s) :=
  solid_cons (isBlank_of_isStart h) (ne_of_isStart h (by decide))

theorem exists_head (h : IsIdentifier w) :
    ∃ c v, w = c :: v ∧ IdentifierCharacter.isStart c = true := by
  cases w with
  | nil => exact absurd h id
  | cons c v => exact ⟨c, v, rfl, h.1⟩

theorem solid_of_isIdentifier (h : IsIdentifier w) : Solid (w ++ r) := by
  obtain ⟨c, v, rfl, hc⟩ := exists_head h
  exact solid_of_isStart hc

theorem skips_word (h : IsIdentifier w) : Skips lineEnds (w ++ r) [] (w ++ r) :=
  (solid_of_isIdentifier h).skips

private theorem takeWhile_eq_nil {P : Char → Bool} (h : ∀ c ∈ r.head?, P c = false) :
    r.takeWhile P = [] ∧ r.dropWhile P = r := by
  cases r with
  | nil => exact ⟨rfl, rfl⟩
  | cons c r =>
    have hc := h c rfl
    exact ⟨by simp [hc], by simp [hc]⟩

theorem reads_identifier (hw : IsIdentifier w) (hr : Stops r) : Reads identifier (w ++ r) w r := by
  cases w with
  | nil => exact absurd hw id
  | cons c v =>
    obtain ⟨hc, hv⟩ := hw
    obtain ⟨htake, hdrop⟩ := takeWhile_eq_nil hr
    have htake : (v ++ r).takeWhile IdentifierCharacter.isContinue = v := by
      rw [List.takeWhile_append_of_pos hv, htake, List.append_nil]
    have hdrop : (v ++ r).dropWhile IdentifierCharacter.isContinue = r := by
      rw [List.dropWhile_append_of_pos hv, hdrop]
    unfold Reads
    change (if IdentifierCharacter.isStart c then
      some (c :: (v ++ r).takeWhile _, (v ++ r).dropWhile _) else none) = _
    rw [if_pos hc, htake, hdrop]

theorem refuses_identifier (h : NoWord r) : Refuses identifier r := by
  cases r with
  | nil => rfl
  | cons c r =>
    unfold Refuses
    change (if IdentifierCharacter.isStart c then _ else none) = _
    rw [if_neg]
    simp [h c rfl]

theorem reads_word (h : Skips lineEnds s cs (w ++ r)) (hw : IsIdentifier w) (hr : Stops r) :
    Reads (word lineEnds) s w r :=
  reads_lexeme h (reads_identifier hw hr)

theorem refuses_word (h : Skips lineEnds s cs t) (ht : NoWord t) : Refuses (word lineEnds) s :=
  refuses_lexeme h (refuses_identifier ht)

theorem reads_keyword (h : Skips lineEnds s cs (k ++ r)) (hk : IsIdentifier k) (hr : Stops r) :
    Reads (keyword lineEnds k) s () r :=
  (reads_word h hk hr).bind (.require (beq_self_eq_true k))

/-- Another word stands here. -/
theorem refuses_keyword (h : Skips lineEnds s cs (w ++ r)) (hw : IsIdentifier w) (hr : Stops r)
    (hk : w ≠ k) : Refuses (keyword lineEnds k) s :=
  (reads_word h hw hr).bind_refuses (.require (beq_eq_false_iff_ne.2 hk))

theorem refuses_keyword_noWord (h : Skips lineEnds s cs t) (ht : NoWord t) :
    Refuses (keyword lineEnds k) s :=
  (refuses_word h ht).bind

theorem reads_name {reserved : List Text} (h : Skips lineEnds s cs (w ++ r))
    (hw : IsIdentifier w) (hr : Stops r) (hres : w ∉ reserved) :
    Reads (name lineEnds reserved) s w r :=
  (reads_word h hw hr).bind (Reads.bind (.require (by simpa using hres)) .pure)

theorem refuses_name {reserved : List Text} (h : Skips lineEnds s cs (w ++ r))
    (hw : IsIdentifier w) (hr : Stops r) (hres : w ∈ reserved) :
    Refuses (name lineEnds reserved) s :=
  (reads_word h hw hr).bind_refuses (Refuses.bind (.require (by simpa using hres)))

theorem refuses_name_noWord {reserved : List Text} (h : Skips lineEnds s cs t) (ht : NoWord t) :
    Refuses (name lineEnds reserved) s :=
  (refuses_word h ht).bind

end Words

section Marks

/-- The signs that stand behind a piece of a list or of brackets. -/
def endMarks : List Char := [',', ')', ']']

theorem solid_endMark (h : c ∈ endMarks) : Solid (c :: s) := by
  have hall : ∀ c ∈ endMarks, isBlank c = false ∧ c ≠ '/' := by decide
  exact solid_cons (hall c h).1 (hall c h).2

theorem skips_endMark (h : c ∈ endMarks) : Skips lineEnds (c :: s) [] (c :: s) :=
  (solid_endMark h).skips

/-- The brackets that may stand behind an operand. -/
def closers : List Char := [']', ')']

theorem closers_subset : closers ⊆ endMarks := by decide

/-- Behind blanks and comments stands one of the signs. -/
structure LeadsTo (marks : List Char) (r : Text) : Prop where
  front : ∃ c u, r = c :: u ∧ c ∈ ' ' :: '/' :: marks
  skips : ∃ cs c u, Skips false r cs (c :: u) ∧ c ∈ marks

variable {marks : List Char}

theorem LeadsTo.stops (h : LeadsTo marks r) (hmarks : marks ⊆ endMarks) : Stops r := by
  have hall : ∀ c ∈ ' ' :: '/' :: endMarks, IdentifierCharacter.isContinue c = false := by decide
  obtain ⟨c, u, rfl, hc⟩ := h.front
  exact stops_cons (hall c (List.cons_subset_cons _ (List.cons_subset_cons _ hmarks) hc))

end Marks

end RpcSchema.LexemeRun
