import RpcSchema.Proofs.FirstRefusal
import RpcSchema.Proofs.LexemeRun
import RpcSchema.Proofs.QuotedSource

/-! # Refusals quote the source

A refused type is reported as it stands in the source, but for arrays: of an array only the
element is kept, so what stands between the brackets is missing in the report, and so are the
blanks and comments behind them. -/
namespace RpcSchema.QuotedRefusals
open Reader GoLexeme LexemeRun ReaderRun ReaderOutcome QuotedSource

section Gaps

variable {lineEnds : Bool} {s r : Text}

/-- Blanks and whole comments. -/
inductive IsGap : Text → Prop
  | nil : IsGap []
  | blank {c : Char} {t : Text} (hc : isBlank c = true) (h : IsGap t) : IsGap (c :: t)
  | lineComment {comment t : Text} (hcomment : '\n' ∉ comment) (h : IsGap t) :
      IsGap ('/' :: '/' :: (comment ++ '\n' :: t))
  | blockComment {comment t : Text} (hcomment : ¬['*', '/'] <:+: comment) (h : IsGap t) :
      IsGap ('/' :: '*' :: (comment ++ '*' :: '/' :: t))

/-- A line comment goes on to a line break, a character NUL or the end of the text. -/
theorem afterLine_split (s : Text) :
    ∃ comment, '\n' ∉ comment ∧ s = comment ++ afterLine s ∧
      ∀ c ∈ (afterLine s).head?, c = '\n' ∨ c = '\x00' := by
  induction s with
  | nil => exact ⟨[], by simp, rfl, nofun⟩
  | cons c s ih =>
    unfold afterLine
    by_cases hc : (c == '\n' || c == '\x00') = true
    · rw [if_pos hc]
      exact ⟨[], by simp, rfl, by simpa using hc⟩
    · rw [if_neg hc]
      obtain ⟨comment, hbreak, hs, hend⟩ := ih
      simp only [Bool.or_eq_true, beq_iff_eq, not_or] at hc
      exact ⟨c :: comment, by simp [Ne.symm hc.1, hbreak], congrArg (c :: ·) hs, hend⟩

/-- A block comment goes on to the first end mark. -/
theorem afterBlock_split (h : afterBlock s = some r) :
    ∃ comment, ¬['*', '/'] <:+: comment ∧ s = comment ++ '*' :: '/' :: r := by
  fun_induction afterBlock s with
  | case1 => cases h
  | case2 => cases h
  | case3 c d s hmark =>
    obtain rfl := Option.some.inj h
    simp only [Bool.and_eq_true, beq_iff_eq] at hmark
    exact ⟨[], by decide, by rw [hmark.1, hmark.2]; rfl⟩
  | case4 => cases h
  | case5 c d s hmark _ ih =>
    obtain ⟨comment, hcomment, hs⟩ := ih h
    refine ⟨c :: comment, fun hinfix => ?_, by rw [hs]; rfl⟩
    rcases List.infix_cons_iff.1 hinfix with hprefix | hinfix
    · -- the mark would begin with the character before the rest of the comment
      obtain ⟨u, hu⟩ := hprefix
      obtain ⟨rfl, rfl⟩ := List.cons.inj hu
      obtain rfl := List.head_eq_of_cons_eq hs
      exact hmark rfl
    · exact hcomment hinfix

/-- One piece of a gap: a blank, a line comment without its end, or a block comment. -/
theorem nextTrivia_cases {comment : Option Text} (h : nextTrivia lineEnds s = some (comment, r)) :
    (∃ c, isBlank c = true ∧ s = c :: r) ∨
      (∃ text, '\n' ∉ text ∧ s = '/' :: '/' :: (text ++ r) ∧
        ∀ c ∈ r.head?, c = '\n' ∨ c = '\x00') ∨
      ∃ text, ¬['*', '/'] <:+: text ∧ s = '/' :: '*' :: (text ++ '*' :: '/' :: r) := by
  unfold nextTrivia at h
  split at h
  · next t =>
    obtain ⟨-, rfl⟩ := Prod.mk.inj (Option.some.inj h)
    obtain ⟨text, htext, ht, hend⟩ := afterLine_split t
    exact .inr (.inl ⟨text, htext, congrArg ('/' :: '/' :: ·) ht, hend⟩)
  · next t =>
    split at h
    · cases h
    · next hblock =>
      obtain ⟨-, rfl⟩ := Prod.mk.inj (Option.some.inj h)
      obtain ⟨text, htext, ht⟩ := afterBlock_split hblock
      exact .inr (.inr ⟨text, htext, congrArg ('/' :: '*' :: ·) ht⟩)
  · next c t _ _ =>
    split at h
    · next hc =>
      obtain ⟨-, rfl⟩ := Prod.mk.inj (Option.some.inj h)
      exact .inl ⟨c, (Bool.and_eq_true_iff.1 hc).1, rfl⟩
    · cases h
  · cases h

/-- What stands before the next lexeme, unless that is the end of a line or of the text. -/
theorem gap_of_trivia {c : Char} (h : (trivia lineEnds s).2 = c :: r) (hbreak : c ≠ '\n')
    (hnul : c ≠ '\x00') : ∃ gap, IsGap gap ∧ s = gap ++ c :: r := by
  fun_induction trivia lineEnds s with
  | case1 s _ => exact ⟨[], .nil, h⟩
  | case2 s comment t hnext _ next ih =>
    obtain ⟨gap, hgap, rfl⟩ := ih h
    obtain ⟨d, hd, rfl⟩ | ⟨text, htext, rfl, hend⟩ | ⟨text, htext, rfl⟩ := nextTrivia_cases hnext
    · exact ⟨d :: gap, .blank hd hgap, rfl⟩
    · -- the line break behind the comment is the first blank of what follows
      cases hgap with
      | nil => exact ((hend c rfl).elim hbreak hnul).elim
      | @blank d gap hd hgap =>
        rcases hend d rfl with rfl | rfl
        · exact ⟨_, .lineComment htext hgap, by simp⟩
        · exact absurd hd (by decide)
      | lineComment => exact absurd (hend '/' rfl) (by decide)
      | blockComment => exact absurd (hend '/' rfl) (by decide)
    · exact ⟨_, .blockComment htext hgap, by simp⟩

theorem gap_of_identifier {w : Text} (h : identifier.run (trivia lineEnds s).2 = some (w, r)) :
    ∃ gap, IsGap gap ∧ s = gap ++ w ++ r := by
  cases hs : (trivia lineEnds s).2 with
  | nil =>
    rw [hs] at h
    cases h
  | cons c t =>
    rw [hs] at h
    change (if _ then some (c :: t.takeWhile _, t.dropWhile _) else none) = some (w, r) at h
    split at h
    · next hc =>
      obtain ⟨rfl, rfl⟩ := Prod.mk.inj (Option.some.inj h)
      have hstart : ∀ d ∈ ['\n', '\x00'], IdentifierCharacter.isStart d = false := by decide
      have hne : ∀ d ∈ ['\n', '\x00'], c ≠ d := by
        rintro d hd rfl
        rw [hstart c hd] at hc
        cases hc
      obtain ⟨gap, hgap, rfl⟩ := gap_of_trivia hs (hne '\n' (by decide)) (hne '\x00' (by decide))
      exact ⟨gap, hgap, by simp⟩
    · cases h

theorem run_name {reserved : List Text} {w : Text}
    (h : (name lineEnds reserved).run s = some (w, r)) :
    identifier.run (trivia lineEnds s).2 = some (w, r) := by
  obtain ⟨own, t, hword, h⟩ := exists_of_run_bind h
  obtain ⟨_, u, hrequire, h⟩ := exists_of_run_bind h
  obtain ⟨comments, v, hcomments, hidentifier⟩ := exists_of_run_bind hword
  obtain ⟨rfl, rfl⟩ := Prod.mk.inj (Option.some.inj h)
  obtain ⟨piece, rfl, rfl⟩ := Takes.require _ _ _ _ hrequire
  obtain ⟨-, rfl⟩ := Prod.mk.inj (Option.some.inj hcomments)
  exact hidentifier

end Gaps

section Arrays

variable {g : Nested}

/-- The text of an array or a slice, with its element at the end. `length` stands between the
brackets, `gap` behind them. -/
structure IsArrayText (piece length gap element : Text) : Prop where
  isGap : IsGap gap
  spelled : piece = '[' :: length ++ ']' :: gap ++ element

/-- Where an array of a name can be sent, it stands as one in its piece of the text. -/
def ArraysSpelled : TypeNode → Prop
  | .list (.name n) s => ∃ length gap, IsArrayText s length gap n
  | .parenthesized _ inner _ => ArraysSpelled inner
  | _ => True

/-- The type that a piece of the text ends in. -/
structure EndsIn (piece : Text) (t : TypeNode) : Prop where
  name : ∀ n, t = .name n → ∃ gap, IsGap gap ∧ piece = gap ++ n
  arrays : ArraysSpelled t

theorem arraysSpelled_of_unopened {f : Text → TypeNode} (h : Unopened f) (piece : Text) :
    ArraysSpelled (f piece) := by
  have hf := h piece
  cases ht : f piece with
  | name | list | parenthesized => simp [ht] at hf
  | generic | prefixed | other => trivial

theorem ne_name_of_unopened {f : Text → TypeNode} (h : Unopened f) (piece n : Text) :
    f piece ≠ .name n := by
  intro hn
  have hf := h piece
  rw [hn] at hf
  exact hf

variable {lineEnds : Bool} {s r piece : Text} {f : Text → TypeNode}

/-- A type is completed with just the piece that it was read from. -/
theorem arraysSpelled_of_bodyRun (htype : ∀ lineEnds, Takes (g.type lineEnds) EndsIn)
    (h : BodyRun g lineEnds s r f) (hs : s = piece ++ r) : ArraysSpelled (f piece) := by
  cases h with
  | unopened h => exact arraysSpelled_of_unopened h piece
  | name => trivial
  | parenthesized _ _ hinner =>
    obtain ⟨_, -, ht⟩ := htype false _ _ _ hinner
    exact ht.arrays
  | @list length t element ht helement =>
    obtain ⟨u, rfl, hends⟩ := htype lineEnds _ _ _ helement
    cases element with
    | name n =>
      obtain ⟨gap, hgap, rfl⟩ := hends.name n rfl
      refine ⟨length, gap, hgap, (List.append_left_inj r).1 ?_⟩
      rw [← hs, ht]
      simp
    | _ => trivial

/-- A name is all that is read where it is the type. -/
theorem name_of_bodyRun {n : Text} (h : BodyRun g lineEnds s r f) (hn : f piece = .name n) :
    (name false typeWords).run s = some (n, r) := by
  cases h with
  | unopened h => exact absurd hn (ne_name_of_unopened h piece n)
  | name hrun => exact TypeNode.name.inj hn ▸ hrun
  | parenthesized | list => cases hn

theorem run_type {t : TypeNode} (h : (GoTypes.type g lineEnds).run s = some (t, r)) :
    ∃ f piece, (trivia false s).2 = piece ++ r ∧ BodyRun g lineEnds (trivia false s).2 r f ∧
      f piece = t := by
  obtain ⟨x, u, hx, h⟩ := exists_of_run_bind h
  obtain ⟨comments, v, hcomments, hx⟩ := exists_of_run_bind hx
  obtain ⟨rfl, rfl⟩ := Prod.mk.inj (Option.some.inj h)
  obtain ⟨-, rfl⟩ := Prod.mk.inj (Option.some.inj hcomments)
  obtain ⟨hpiece, hbody⟩ := of_run_captured hx
  exact ⟨x.2, x.1, hpiece, bodyRun_typeBody hbody, rfl⟩

theorem takes_type (htype : ∀ lineEnds, Takes (g.type lineEnds) EndsIn) (lineEnds : Bool) :
    Takes (GoTypes.type g lineEnds) EndsIn := by
  intro s t r hr
  obtain ⟨piece, hs⟩ := (GoTypes.type g lineEnds).suffix hr
  obtain ⟨f, own, hown, hbody, rfl⟩ := run_type hr
  refine ⟨piece, hs.symm, fun n hn => ?_, arraysSpelled_of_bodyRun htype hbody hown⟩
  have hname := run_name (name_of_bodyRun hbody hn)
  -- the name stands right behind what is skipped in front of the type
  rw [skips_of_none (nextTrivia_trivia false _)] at hname
  obtain ⟨gap, hgap, hgapped⟩ := gap_of_identifier hname
  exact ⟨gap, hgap, (List.append_left_inj r).1 (hs.trans hgapped)⟩

theorem arraysSpelled_upTo (source : Text) (n : Nat) (lineEnds : Bool) :
    Yields source ((Nested.upTo n).type lineEnds) ArraysSpelled := by
  have htakes : Takes ((Nested.upTo n).type lineEnds) EndsIn := by
    induction n generalizing lineEnds with
    | zero => exact fun s a r hr => by cases hr
    | succ n ih => exact takes_type ih lineEnds
  intro s t r _ hr
  obtain ⟨piece, -, ht⟩ := htakes s t r hr
  exact ht.arrays

end Arrays

section Refusals
open Signature

variable {source : Text} {naming : ReplyNaming} {s : Signature} {e : UnsupportedType}

/-- What a type is refused with: the text of a parameter that is no scalar, or of a result that
is neither a scalar nor an array. -/
inductive Refuses (s : Signature) : Text → Prop
  | parameter {p : Parameter} (hp : p ∈ s.parameters) (h : p.type.isScalar = false) :
      Refuses s p.type.sourceText
  | result {t : Text} (h : .unsupported t ∈ s.results) : Refuses s t

theorem refuses_of_firstType {t : ValueType} (h : FirstRefusal.FirstType s t) :
    Refuses s t.sourceText := by
  cases h with
  | parameter hp =>
    obtain ⟨hmem, hscalar⟩ := hp.mem_and
    exact .parameter hmem hscalar
  | result _ hr =>
    obtain ⟨hmem, hunsupported⟩ := hr.mem_and
    cases t with
    | unsupported t => exact .result hmem
    | scalar | arrayOf => cases hunsupported

theorem render_error {service : Text} {signatures : List Signature}
    (h : render service signatures naming = .error e) :
    ∃ s ∈ signatures, s.isExported = true ∧ e.function = s.name ∧ Refuses s e.type := by
  obtain ⟨hs, htype⟩ := FirstRefusal.render_error_iff.1 h
  obtain ⟨hmem, hexported, -⟩ := hs.mem_and
  exact ⟨_, hmem, hexported, rfl, refuses_of_firstType htype⟩

end Refusals

section Reports

variable {source : Text}

/-- The function declares the parameter with the type. -/
def DeclaredWith (f : FunctionNode) (p : Parameter) (type : TypeNode) : Prop :=
  ∃ front names back, f.parameters = front ++ .declaration names type :: back ∧
    p ∈ (ParameterNode.declaration names type).parameters
      (ParameterNode.parametersOf 0 front).length

/-- The text of a type is a piece of the source in which an array of the element is written. -/
structure ArrayInSource (source : Text) (type : TypeNode) (element length gap : Text) : Prop where
  text : type.unwrapped = .list (.name element) ('[' :: length ++ ']' :: gap ++ element)
  isGap : IsGap gap
  quoted : '[' :: length ++ ']' :: gap ++ element <:+: source

theorem arrayInSource_of_spelled {t : TypeNode} {element : Text} (hquoted : TypeQuoted source t)
    (hspelled : ArraysSpelled t) (h : t.valueType = .arrayOf element) :
    ∃ length gap, ArrayInSource source t element length gap := by
  fun_induction TypeNode.valueType t with
  | case2 n s =>
    obtain rfl := ValueType.arrayOf.inj h
    obtain ⟨length, gap, hgap, rfl⟩ := hspelled
    exact ⟨length, gap, rfl, hgap, hquoted.2⟩
  | case4 inner s ih =>
    obtain ⟨length, gap, hin⟩ := ih hquoted.2.1 hspelled h
    exact ⟨length, gap, hin.text, hin.isGap, hin.quoted⟩
  | _ => cases h

/-- Where a parameter of a list comes from. -/
theorem node_of_mem_parametersOf {nodes : List ParameterNode} {before : Nat} {p : Parameter}
    (hp : p ∈ ParameterNode.parametersOf before nodes) :
    ∃ front node back, nodes = front ++ node :: back ∧
      p ∈ node.parameters (before + (ParameterNode.parametersOf before front).length) := by
  induction nodes generalizing before with
  | nil => cases hp
  | cons node nodes ih =>
    rcases List.mem_append.1 hp with hp | hp
    · exact ⟨[], node, nodes, rfl, hp⟩
    · obtain ⟨front, own, back, rfl, hown⟩ := ih hp
      refine ⟨node :: front, own, back, rfl, ?_⟩
      rw [ParameterNode.parametersOf, List.length_append, ← Nat.add_assoc]
      exact hown

/-- No variadic parameter has the type of an array. -/
theorem declaredWith_of_array {f : FunctionNode} {p : Parameter} {element : Text}
    (hp : p ∈ f.signature.parameters) (helement : p.type = .arrayOf element) :
    ∃ type, DeclaredWith f p type ∧ type.valueType = .arrayOf element := by
  obtain ⟨front, node, back, hnodes, hmem⟩ := node_of_mem_parametersOf hp
  rw [Nat.zero_add] at hmem
  cases node with
  | comment s => cases hmem
  | declaration names type =>
    refine ⟨type, ⟨front, names, back, hnodes, hmem⟩, helement ▸ ?_⟩
    cases names with
    | nil => exact List.mem_singleton.1 hmem ▸ rfl
    | cons n names =>
      obtain ⟨own, -, rfl⟩ := List.mem_map.1 hmem
      rfl
  | variadic name s =>
    cases name with
    | none =>
      obtain rfl := List.mem_singleton.1 hmem
      cases helement
    | some n =>
      obtain rfl := List.mem_singleton.1 hmem
      cases helement

theorem DeclaredWith.node_mem {f : FunctionNode} {p : Parameter} {type : TypeNode}
    (h : DeclaredWith f p type) : ∃ names, .declaration names type ∈ f.parameters := by
  obtain ⟨front, names, back, hnodes, -⟩ := h
  exact ⟨names, hnodes ▸ List.mem_append_right front List.mem_cons_self⟩

theorem array_in_source {f : FunctionNode} (hf : f ∈ functionsOf source) {p : Parameter}
    {element : Text} (hp : p ∈ f.signature.parameters) (helement : p.type = .arrayOf element) :
    ∃ type length gap, DeclaredWith f p type ∧ ArrayInSource source type element length gap := by
  have hread (n : Nat) (lineEnds : Bool) : Yields source ((Nested.upTo n).type lineEnds)
      fun t => TypeQuoted source t ∧ ArraysSpelled t := fun s t r hs hr =>
    ⟨typeQuoted_upTo source n lineEnds s t r hs hr,
      arraysSpelled_upTo source n lineEnds s t r hs hr⟩
  obtain ⟨type, hdeclared, hvalue⟩ := declaredWith_of_array hp helement
  obtain ⟨names, hnode⟩ := hdeclared.node_mem
  have htype := (functions_quoted (fun _ hw => ⟨hw, trivial⟩) hread f hf).parameters _ hnode
  obtain ⟨length, gap, hin⟩ := arrayInSource_of_spelled htype.2.1 htype.2.2 hvalue
  exact ⟨type, length, gap, hdeclared, hin⟩

/-- A report names an exported function, and what it calls the type stands in the source, but
for an array that a parameter is declared with: there the report leaves out what stands in the
source between the brackets, and the blanks and comments behind them. -/
theorem refusals_quote_source {signatures : List Signature} {service : Text}
    {naming : ReplyNaming} {e : UnsupportedType} (h : signaturesOf source = .ok signatures)
    (hrender : render service signatures naming = .error e) :
    ∃ f ∈ functionsOf source, f.signature ∈ signatures ∧ f.signature.isExported = true ∧
      e.function = f.signature.name ∧
      (e.type <:+: source ∨
        ∃ p ∈ f.signature.parameters, ∃ type element length gap, DeclaredWith f p type ∧
          p.type = .arrayOf element ∧ e.type = "[]".toList ++ element ∧ length ++ gap ≠ [] ∧
          ArrayInSource source type element length gap) := by
  obtain ⟨s, hs, hexported, hname, hrefuses⟩ := render_error hrender
  obtain ⟨f, hf, rfl⟩ := List.mem_map.1 (signatures_eq_map h ▸ hs)
  refine ⟨f, hf, hs, hexported, hname, ?_⟩
  have hquoted := signature_quoted f hf
  generalize e.type = t at hrefuses
  cases hrefuses with
  | result hr => exact .inl (hquoted.result _ hr)
  | @parameter p hp hscalar =>
    have hvalue := (hquoted.parameter_of_mem hp).2
    cases htype : p.type with
    | scalar n => simp [htype, ValueType.isScalar] at hscalar
    | unsupported t =>
      rw [htype] at hvalue
      exact .inl hvalue
    | arrayOf element =>
      obtain ⟨type, length, gap, hdeclared, hin⟩ := array_in_source hf hp htype
      by_cases hgap : length ++ gap = []
      · obtain ⟨rfl, rfl⟩ := List.append_eq_nil_iff.1 hgap
        exact .inl hin.quoted
      · exact .inr ⟨p, hp, type, element, length, gap, hdeclared, htype, rfl, hgap, hin⟩

/-- A function that takes an array. -/
def arraySource : Text := "package p\nfunc F(a [4]byte) \x7b\x7d\n".toList

def arraySignature : Signature :=
  ⟨"F".toList, [⟨"a".toList, .arrayOf "byte".toList⟩], []⟩

def arrayRefusal : UnsupportedType := ⟨"F".toList, "[]byte".toList⟩

theorem render_arraySource :
    signaturesOf arraySource = .ok [arraySignature] ∧
      render "S".toList [arraySignature] .shared = .error arrayRefusal := by
  decide +kernel

theorem array_refusal_not_quoted :
    signaturesOf arraySource = .ok [arraySignature] ∧
      render "S".toList [arraySignature] .shared = .error arrayRefusal ∧
      ¬arrayRefusal.type <:+: arraySource :=
  ⟨render_arraySource.1, render_arraySource.2, by decide +kernel⟩

/-- What the report leaves out can be found all the same. -/
theorem refusals_quote_source_array :
    signaturesOf arraySource = .ok [arraySignature] ∧
      render "S".toList [arraySignature] .shared = .error arrayRefusal ∧
      ∃ f ∈ functionsOf arraySource, ∃ p ∈ f.signature.parameters, ∃ type length gap,
        DeclaredWith f p type ∧ length ++ gap ≠ [] ∧
          ArrayInSource arraySource type "byte".toList length gap := by
  have hnot : ¬arrayRefusal.type <:+: arraySource := by decide +kernel
  refine ⟨render_arraySource.1, render_arraySource.2, ?_⟩
  obtain ⟨f, hf, -, -, -, hquoted |
      ⟨p, hp, type, element, length, gap, hdeclared, -, htype, hne, hin⟩⟩ :=
    refusals_quote_source render_arraySource.1 render_arraySource.2
  · exact absurd hquoted hnot
  · obtain rfl : "byte".toList = element := (List.append_right_inj "[]".toList).1 htype
    exact ⟨f, hf, p, hp, type, length, gap, hdeclared, hne, hin⟩

end Reports

end RpcSchema.QuotedRefusals
