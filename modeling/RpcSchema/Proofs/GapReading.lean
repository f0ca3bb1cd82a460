import RpcSchema.Proofs.CommentedSource
import RpcSchema.Proofs.FillerReading

/-! # Runs over gaps

Reading goes on behind the blanks and comments of a gap as if they were not there. -/
namespace RpcSchema.GapReading
open GoLexeme ReaderRun LexemeRun FillerReading CommentedSource

variable {α : Type} {p : Reader α} {lineEnds : Bool} {s t r : Text} {cs : List Text} {a : α}
  {c : Char} {marks : List Char}

theorem skips_gap (g : Gap) (h : Skips lineEnds s cs t) :
    Skips lineEnds (g.text ++ s) (g.comments ++ cs) t := by
  induction g with
  | nil => exact h
  | cons piece g ih =>
    cases piece with
    | blank => exact ih.blank
    | comment c =>
      have htext : Gap.text (.comment c :: g) ++ s =
          '/' :: '*' :: (c.text ++ '*' :: '/' :: (Gap.text g ++ s)) := by
        simp [Gap.text, GapPiece.text]
      rw [htext]
      exact ih.step (nextTrivia_blockComment c.noEnd c.noNul)

theorem Solid.skips_gap (h : Solid s) (g : Gap) : Skips lineEnds (g.text ++ s) g.comments s := by
  have hfront : Skips lineEnds s [] s := h.skips
  have hskips := GapReading.skips_gap g hfront
  rwa [List.append_nil] at hskips

/-- A gap begins with a blank or with a comment. -/
theorem exists_front_gap {g : Gap} (h : g ≠ []) (s : Text) :
    ∃ c u, g.text ++ s = c :: u ∧ c ∈ [' ', '/'] := by
  cases g with
  | nil => exact absurd rfl h
  | cons piece g =>
    cases piece with
    | blank => exact ⟨' ', _, rfl, by decide⟩
    | comment c => exact ⟨'/', _, rfl, by decide⟩

theorem stops_separator (g : Separator) (s : Text) : Stops (g.text ++ s) := by
  obtain ⟨c, u, h, hc⟩ := exists_front_gap g.notEmpty s
  have hall : ∀ c ∈ [' ', '/'], IdentifierCharacter.isContinue c = false := by decide
  exact h ▸ stops_cons (hall c hc)

theorem stops_gap (g : Gap) (h : Stops s) : Stops (g.text ++ s) := by
  by_cases hg : g = []
  · subst hg
    exact h
  · exact stops_separator ⟨g, hg⟩ s

theorem leadsTo_gap (g : Gap) (hc : c ∈ marks) (hmarks : marks ⊆ endMarks) :
    LeadsTo marks (g.text ++ c :: r) := by
  refine ⟨?_, _, c, r, skips_gap g (skips_endMark (hmarks hc)), hc⟩
  by_cases hg : g = []
  · subst hg
    exact ⟨c, r, rfl, .tail _ (.tail _ hc)⟩
  · obtain ⟨d, u, h, hd⟩ := exists_front_gap hg (c :: r)
    exact ⟨d, u, h, List.mem_append_left marks hd⟩

/-- A lexeme may stand behind a gap. -/
theorem run_lexeme_gap (g : Gap) (p : Reader α) (s : Text) :
    (lexeme lineEnds p).run (g.text ++ s) = (lexeme lineEnds p).run s := by
  have hskips : Skips lineEnds s (trivia lineEnds s).1 (trivia lineEnds s).2 := rfl
  unfold lexeme
  rw [(reads_comments (skips_gap g hskips)).run_eq, (reads_comments hskips).run_eq]

theorem reads_type_gap {n : Nat} {node : TypeNode} (g : Gap)
    (h : Reads ((Nested.upTo n).type lineEnds) s node r) :
    Reads ((Nested.upTo n).type lineEnds) (g.text ++ s) node r := by
  cases n with
  | zero => cases h
  | succ n => exact (run_bind_congr (run_lexeme_gap g _ s)).trans h

end RpcSchema.GapReading
