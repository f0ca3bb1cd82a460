import RpcSchema.Proofs.ParameterGrouping

/-! # Functions are read

A function is read as a node for its name, its parameters and its results, whatever its gaps
hold. The node of a printed function has the declared signature unless a type in one of its
lists misleads the type before it. -/
namespace RpcSchema.FunctionReading
open GoLexeme GoSourceFile ReaderRun LexemeRun LiteralRun OperandRun PlainNames
open PrintedSource hiding packageClause
open CommentedSource GapReading TypeReading EntryReading ParameterReading ParameterGrouping

variable {g : Nested} {r s u : Text} {cs cs' : List Text} {c : Char} {n : Nat}

section Bodies

open GoStatements in
/-- No statement begins here. -/
theorem refuses_statement {place : StatementPlace} (hs : Skips false s cs u) (hu : NoOperand u)
    (hmarks : ∀ c ∈ u.head?, c ≠ ';' ∧ c ≠ '\x7b') :
    Refuses ((Nested.upTo n).statement place) s := by
  cases n with
  | zero => exact .fail
  | succ n =>
    have hlabel : Refuses label s := (refuses_name_noWord hs hu.noWord).bind
    have hsimple : Refuses (simpleStatement (Nested.upTo n)) s :=
      (refuses_expression hs hu).bind.bind.bind
    refine (reads_nextChar hs).bind_refuses ?_
    split
    · next hc => exact absurd rfl (hmarks _ hc).1
    · next hc => exact absurd rfl (hmarks _ hc).2
    · refine (refuses_word hs hu.noWord).peek.bind_refuses ?_
      have hclause : ¬(place.clauses && clauseWords.contains (none.getD [])) = true := by
        have hcontains : clauseWords.contains [] = false := by decide
        rw [Option.getD_none, hcontains, Bool.and_false]
        exact Bool.false_ne_true
      rw [if_neg hclause, if_neg (by decide)]
      exact hlabel.sees.bind_refuses hsimple.bind

theorem refuses_statement_brace {place : StatementPlace} (hs : Skips false s cs ('\x7d' :: r)) :
    Refuses ((Nested.upTo n).statement place) s :=
  refuses_statement hs ⟨by decide, by simp, by decide, by decide⟩ (forall_head (by simp))

theorem reads_emptyBlock (hs : Skips false s cs ('\x7b' :: u))
    (hu : Skips false u cs' ('\x7d' :: r)) :
    Reads (GoStatements.block (Nested.upTo n)) s () r :=
  (reads_sign hs).bind
    (Reads.bind ((refuses_statement_brace hu).optional.bind .pure) (reads_sign hu))

/-- The body is a block where a brace stands. -/
theorem reads_body_of_block (hs : Skips true s cs ('\x7b' :: u)) (h : Reads g.block s () r) :
    Reads (body g) s () r :=
  (reads_nextChar hs).bind h

end Bodies

section Parts

variable {lineEnds : Bool} {t v w : Text} {x : Name} {kind : ItemKind} {nodes : List ParameterNode}
  {part : ResultNode}

theorem reads_results_none (hs : Skips lineEnds s cs ('\x7b' :: u)) :
    Reads (GoTypes.results g lineEnds) s .none s :=
  (reads_nextChar hs).bind .pure

theorem reads_results_list (hs : Skips lineEnds s cs ('(' :: u))
    (h : Reads g.parameters s nodes r) : Reads (GoTypes.results g lineEnds) s (.list nodes) r :=
  (reads_nextChar hs).bind (h.bind .pure)

theorem isIdentifier_func : IsIdentifier "func".toList := by decide

/-- A function is read part by part; there are no type parameters before a parenthesis. -/
theorem reads_function_parts (hword : Stops s) (hname : Skips false s cs (x.text ++ t))
    (hstops : Stops t) (hopen : Skips false t cs' ('(' :: u))
    (hparameters : Reads g.parameters t nodes v)
    (hresults : Reads (GoTypes.results g true) v part w) (hbody : Reads (body g) w () r) :
    Reads (functionDeclaration g) ("func".toList ++ s) (.function ⟨x.text, nodes, part⟩) r := by
  have htypeParameters : Refuses (GoStatements.typeParameters g []) t :=
    Refuses.bind (refuses_symbol hopen (by simp))
  refine (reads_keyword (skips_word isIdentifier_func) isIdentifier_func hword).bind ?_
  refine (reads_word hname x.isIdentifier hstops).bind ?_
  refine htypeParameters.optional.bind ?_
  exact hparameters.bind (hresults.bind (hbody.bind .pure))

/-- Another word begins no package clause and no import. -/
theorem refuses_clauses (hs : Skips false s cs (w ++ v)) (hw : IsIdentifier w) (hv : Stops v)
    (hpackage : w ≠ "package".toList) (himport : w ≠ "import".toList) :
    Refuses GoSourceFile.packageClause s ∧ Refuses importDeclaration s :=
  ⟨(refuses_keyword hs hw hv hpackage).bind, (refuses_keyword hs hw hv himport).bind⟩

theorem reads_declaration_of_function (hword : Stops s)
    (h : Reads (functionDeclaration g) ("func".toList ++ s) kind r) :
    Reads (declaration g) ("func".toList ++ s) kind r := by
  obtain ⟨hpackage, himport⟩ := refuses_clauses (skips_word isIdentifier_func)
    isIdentifier_func hword (by simp) (by simp)
  exact hpackage.orElse (himport.orElse h.orElse)

end Parts

section Functions

/-- What the result part is read as. -/
def resultAs : CommentedResults → ResultNode
  | .none _ => .none
  | .listed _ list _ _ => .list (nodesAs list)
  | .bare _ type _ _ => .single (readAs type)

def functionAs (f : CommentedFunction) : FunctionNode :=
  ⟨f.name.text, nodesAs f.parameters, resultAs f.results⟩

theorem reads_parameters_upTo (l : CommentedList) (hn : l.text.length ≤ n) :
    Reads (Nested.upTo (n + 1)).parameters (l.text ++ r) (nodesAs l) r :=
  reads_parameters l hn

/-- A parameter list may stand behind a gap. -/
theorem reads_parameters_gap {nodes : List ParameterNode} (gap : Gap)
    (h : Reads (Nested.upTo (n + 1)).parameters s nodes r) :
    Reads (Nested.upTo (n + 1)).parameters (gap.text ++ s) nodes r :=
  (run_bind_congr (run_lexeme_gap gap _ s)).trans h

theorem reads_results {lineEnds : Bool} (part : CommentedResults)
    (hn : part.text.length ≤ n) :
    Reads (GoTypes.results (Nested.upTo (n + 1)) lineEnds) (part.text ++ '\x7b' :: r)
      (resultAs part) (part.after.text ++ '\x7b' :: r) := by
  cases part with
  | none gap =>
    have hskips : Skips lineEnds (gap.text ++ '\x7b' :: r) gap.comments ('\x7b' :: r) :=
      Solid.skips_gap (solid_cons rfl (by simp)) gap
    exact reads_results_none hskips
  | listed before l notEmpty after =>
    have htext : (CommentedResults.listed before l notEmpty after).text ++ '\x7b' :: r =
        before.text ++ (l.text ++ (after.text ++ '\x7b' :: r)) := by
      simp [CommentedResults.text]
    have hlength : l.text.length ≤ n := by
      simp only [CommentedResults.text, List.length_append] at hn
      omega
    have hskips : Skips lineEnds (before.text ++ (l.text ++ (after.text ++ '\x7b' :: r)))
        before.comments (l.text ++ (after.text ++ '\x7b' :: r)) :=
      Solid.skips_gap (solid_cons rfl (by simp)) before
    rw [htext]
    exact reads_results_list hskips
      (reads_parameters_gap before (reads_parameters_upTo l hlength))
  | bare before type unparenthesized after =>
    have htext : (CommentedResults.bare before type unparenthesized after).text ++ '\x7b' :: r =
        before.text ++ (type.text ++ (after.text ++ '\x7b' :: r)) := by
      simp [CommentedResults.text]
    have hlength : type.text.length ≤ n + 1 := by
      simp only [CommentedResults.text, List.length_append] at hn
      omega
    have hskips : Skips lineEnds (before.text ++ (type.text ++ (after.text ++ '\x7b' :: r)))
        before.comments (type.text ++ (after.text ++ '\x7b' :: r)) :=
      Solid.skips_gap (solid_text type _) before
    have htype : Reads ((Nested.upTo (n + 1)).type lineEnds)
        (before.text ++ (type.text ++ (after.text ++ '\x7b' :: r))) (readAs type)
        (after.text ++ '\x7b' :: r) :=
      reads_type_gap before (reads_type type hlength (ends_brace after))
    obtain ⟨c, v, hv, hc⟩ := exists_front_bare type unparenthesized
    have hfront : (type.text ++ (after.text ++ '\x7b' :: r)).head? = some c := by rw [hv]; rfl
    rw [htext]
    refine (reads_nextChar hskips).bind ?_
    rw [hfront]
    have hbegins : (['*', '[', '~', '<'].contains c || IdentifierCharacter.isStart c) = true := by
      rw [Bool.or_eq_true]
      refine hc.symm.imp (fun h => ?_) id
      have hall : ∀ c ∈ ['*', '['], ['*', '[', '~', '<'].contains c = true := by simp
      exact hall c h
    split
    · next hparen =>
      obtain rfl := Option.some.inj hparen
      exact absurd hbegins (by decide)
    · next d hd =>
      obtain rfl := Option.some.inj hd
      rw [if_pos hbegins]
      exact htype.bind .pure
    · next hnone => cases hnone

variable {f : CommentedFunction}

theorem stops_signatureText : Stops (f.signatureText r) := stops_separator f.separator _

theorem reads_functionDeclaration (f : CommentedFunction)
    (hparameters : f.parameters.text.length ≤ n) (hresults : f.results.text.length ≤ n)
    (hbody : Reads (body (Nested.upTo (n + 1))) (f.results.after.text ++ '\x7b' :: u) () r) :
    Reads (functionDeclaration (Nested.upTo (n + 1))) ("func".toList ++ f.signatureText u)
      (.function (functionAs f)) r := by
  let t := f.parameters.text ++ (f.results.text ++ '\x7b' :: u)
  have hname : Skips false (f.signatureText u) f.separator.gap.comments
      (f.name.text ++ (f.front.text ++ t)) :=
    Solid.skips_gap (solid_of_isIdentifier f.name.isIdentifier) f.separator.gap
  have hopen : Skips false (f.front.text ++ t) f.front.comments t :=
    Solid.skips_gap (solid_cons rfl (by simp)) f.front
  have hstops : Stops (f.front.text ++ t) := stops_gap f.front (stops_cons (by decide))
  exact reads_function_parts stops_signatureText hname hstops hopen
    (reads_parameters_gap f.front (reads_parameters_upTo f.parameters hparameters))
    (reads_results f.results hresults) hbody

end Functions

section Items

variable {kind : ItemKind} {v : Text}

/-- A line break ends a declaration, and blanks and comments may stand before it. -/
theorem reads_terminator (h : Skips true s cs ('\n' :: r)) : Reads terminator s () r :=
  (reads_sign h).orElse

/-- A declaration with the comments around it and the end of its line. -/
theorem reads_item (hs : Skips false s cs u)
    (h : Reads (declaration g) u kind v) (hend : Skips true v cs' ('\n' :: r)) :
    Reads (item g) s (cs.map .comment ++ .code kind u :: cs'.map .comment) r := by
  have hended : Reads (endedDeclaration g) u (kind, cs') r :=
    h.bind ((reads_comments hend).bind ((reads_terminator skips_line_end).orElse.bind .pure))
  refine (reads_comments hs).bind (Reads.bind (p := Reader.remaining) (a := u) (r := u) rfl ?_)
  exact hended.orElse.bind .pure

theorem reads_declaration_func (f : CommentedFunction)
    (hparameters : f.parameters.text.length ≤ n) (hresults : f.results.text.length ≤ n)
    (hbody : Reads (body (Nested.upTo (n + 1))) (f.results.after.text ++ '\x7b' :: u) () r) :
    Reads (declaration (Nested.upTo (n + 1))) ("func".toList ++ f.signatureText u)
      (.function (functionAs f)) r :=
  reads_declaration_of_function stops_signatureText
    (reads_functionDeclaration f hparameters hresults hbody)

/-- There is no item in a text of comments and blanks. -/
theorem refuses_item (h : Skips false s cs []) : Refuses (item (Nested.upTo n)) s := by
  have hskips : Skips false [] [] [] := solid_nil.skips
  have hkeyword {k : Text} {p : Unit → Reader ItemKind} : Refuses (keyword false k >>= p) [] :=
    Refuses.bind (refuses_keyword_noWord hskips noWord_nil)
  have hdeclaration : Refuses (endedDeclaration (Nested.upTo n)) [] := by
    apply Refuses.bind
    iterate 3 apply Refuses.orElse_refuses hkeyword
    exact hkeyword
  have hstatement : Refuses (endedStatement (Nested.upTo n)) [] := by
    refine (refuses_word hskips noWord_nil).peek.bind_refuses ?_
    refine (Reads.require (by simp)).bind_refuses ?_
    exact (refuses_statement hskips trivial (by simp)).bind
  refine (reads_comments h).bind_refuses ?_
  refine Reads.bind_refuses (p := Reader.remaining) (a := []) (r := []) rfl ?_
  exact (hdeclaration.orElse_refuses hstatement).bind

end Items

section Printed

/-- What the result part is read as where there is nothing in its gaps. -/
def resultOf : ResultPart → ResultNode
  | .listed list => if list.groupTexts.isEmpty then .none else .list (nodesOf list)
  | .bare type _ => .single (nodeOf type)

def functionOf (f : FunctionDeclaration) : FunctionNode :=
  ⟨f.name.text, nodesOf f.parameters, resultOf f.results⟩

theorem resultAs_ofResults (part : ResultPart) : resultAs (ofResults part) = resultOf part := by
  cases part with
  | listed list =>
    rw [ofResults, resultOf]
    split
    · rfl
    · exact congrArg _ (nodesAs_ofList list)
  | bare type unparenthesized => exact congrArg _ (readAs_ofType type)

theorem functionAs_ofFunction (f : FunctionDeclaration) :
    functionAs (ofFunction f) = functionOf f :=
  congr (congrArg _ (nodesAs_ofList f.parameters)) (resultAs_ofResults f.results)

theorem reads_parameters_printed (list : ParameterList) (hn : list.text.length ≤ n) :
    Reads (Nested.upTo (n + 1)).parameters (list.text ++ r) (nodesOf list) r := by
  rw [← text_ofList] at hn ⊢
  rw [← nodesAs_ofList]
  exact reads_parameters_upTo (ofList list) hn

theorem reads_results_printed {lineEnds : Bool} (part : ResultPart) (hn : part.text.length < n) :
    Reads (GoTypes.results (Nested.upTo (n + 1)) lineEnds) (' ' :: (part.text ++ '\x7b' :: r))
      (resultOf part) (' ' :: '\x7b' :: r) := by
  have hlength : (ofResults part).text.length ≤ n := by
    rw [text_ofResults]
    exact hn
  have hread : Reads (GoTypes.results (Nested.upTo (n + 1)) lineEnds)
      ((ofResults part).text ++ '\x7b' :: r) (resultAs (ofResults part)) _ :=
    reads_results (ofResults part) hlength
  rwa [text_ofResults, resultAs_ofResults, after_ofResults] at hread

theorem reads_declaration_printed (f : FunctionDeclaration)
    (hparameters : f.parameters.text.length ≤ n) (hresults : f.results.text.length < n)
    (hbody : Reads (body (Nested.upTo (n + 1))) (' ' :: '\x7b' :: u) () r) :
    Reads (declaration (Nested.upTo (n + 1))) ("func".toList ++ (ofFunction f).signatureText u)
      (.function (functionOf f)) r := by
  have hlist : (ofList f.parameters).text.length ≤ n := by rwa [text_ofList]
  have hpart : (ofResults f.results).text.length ≤ n := by
    rw [text_ofResults]
    exact hresults
  have hblock : Reads (body (Nested.upTo (n + 1))) ((ofResults f.results).after.text ++ '\x7b' :: u)
      () r := by
    rwa [after_ofResults]
  rw [← functionAs_ofFunction]
  exact reads_declaration_func (ofFunction f) hlist hpart hblock

end Printed

section Signatures

variable {f : FunctionDeclaration}

theorem results_resultOf_iff (part : ResultPart) :
    (resultOf part).results = part.valueTypes ↔ part.IsClear := by
  cases part with
  | listed list =>
    cases hempty : list.groupTexts.isEmpty with
    | true =>
      have hvalues : list.valueTypes = [] := by
        cases list with
        | unnamed types => rw [List.map_eq_nil_iff.1 (List.isEmpty_iff.1 hempty)]; rfl
        | named groups => rw [List.map_eq_nil_iff.1 (List.isEmpty_iff.1 hempty)]; rfl
      have hclear : list.IsClear := by
        cases list with
        | unnamed types => rw [List.map_eq_nil_iff.1 (List.isEmpty_iff.1 hempty)]; exact .nil
        | named groups => trivial
      rw [resultOf, if_pos hempty]
      exact iff_of_true hvalues.symm hclear
    | false =>
      rw [resultOf, hempty]
      exact results_nodesOf_iff
  | bare type unparenthesized =>
    exact iff_of_true (congrArg ([·]) (valueType_nodeOf type)) trivial

theorem signature_functionOf_iff : (functionOf f).signature = f.signature ↔ f.IsClear := by
  rw [FunctionNode.signature, FunctionDeclaration.signature, Signature.mk.injEq]
  exact ⟨fun ⟨_, hp, hr⟩ => ⟨parameters_nodesOf_iff.1 hp, (results_resultOf_iff _).1 hr⟩,
    fun ⟨hp, hr⟩ => ⟨rfl, parameters_nodesOf_iff.2 hp, (results_resultOf_iff _).2 hr⟩⟩

end Signatures

end RpcSchema.FunctionReading
