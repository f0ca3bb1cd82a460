import RpcSchema.Proofs.CommentedGrouping
import RpcSchema.Proofs.FileReading

/-! # Comments within functions

A file is read with its functions, their parameters and their results, whatever comments stand
between the tokens of its functions. Only a comment before a type in parentheses is taken for
the type. -/
namespace RpcSchema.CommentedReading
open GoLexeme GoSourceFile GoParameters ReaderRun LexemeRun GapReading CommentedSource
open TypeReading EntryReading ParameterReading FunctionReading DeclarationReading LayoutChecking
open SurroundedReading CommentedGrouping
open PrintedSource hiding packageClause

variable {S : ValueType → ValueType → Prop} {b : Bool} {n : Nat} {s r u : Text}

section Types

/-- Whatever can be sent is the same, and what cannot be sent still cannot. -/
def Keeps : ValueType → ValueType → Prop
  | .unsupported _, t => t.isUnsupported = true
  | t, t' => t' = t

/-- Whatever can be sent is the same or cannot be sent any more. -/
def Weakens (t t' : ValueType) : Prop := t'.isUnsupported = true ∨ t' = t

/-- A relation that does not look into types that cannot be sent. -/
structure Lenient (S : ValueType → ValueType → Prop) : Prop where
  refl : ∀ t, S t t
  unsupported : ∀ source source', S (.unsupported source) (.unsupported source')

theorem lenient_keeps : Lenient Keeps where
  refl t := by cases t <;> rfl
  unsupported _ _ := rfl

theorem lenient_weakens : Lenient Weakens where
  refl _ := .inr rfl
  unsupported _ _ := .inl rfl

theorem lenient_true : Lenient fun _ _ => True := ⟨fun _ => trivial, fun _ _ => trivial⟩

/-- The type without its gaps and the type with them are related. -/
def Agrees (S : ValueType → ValueType → Prop) (t : CommentedType) : Prop :=
  Sent S (nodeOf t.plain) (readAs t)

/-- The comment behind a parenthesis is taken for the type. -/
theorem valueType_of_hidden {t : CommentedType} {c : Text} (h : t.hidden = some c) :
    (readAs t).valueType = .unsupported c := by
  induction t with
  | parens before inner after ih =>
    change (TypeNode.parenthesized before.comments.head? (readAs inner) _).valueType = _
    rw [CommentedType.hidden] at h
    cases hfirst : before.comments.head? with
    | none =>
      rw [hfirst, Option.none_or] at h
      exact ih h
    | some d =>
      rw [hfirst, Option.some_or] at h
      exact congrArg _ (Option.some.inj h)
  | _ => cases h

theorem sent_list (hS : Lenient S) (element : CommentedType) (source source' : Text) :
    Sent S (.list (nodeOf element.plain) source) (.list (readAs element) source') := by
  cases element with
  | name x => exact hS.refl _
  | _ => exact hS.unsupported _ _

theorem agrees_of_hidden_eq_none (hS : Lenient S) {t : CommentedType} (h : t.hidden = none) :
    Agrees S t := by
  induction t with
  | name x => exact hS.refl _
  | slice inside behind element => exact sent_list hS element _ _
  | array before length after behind element => exact sent_list hS element _ _
  | parens before inner after ih =>
    rw [CommentedType.hidden, Option.or_eq_none_iff] at h
    have hvalue : (readAs (.parens before inner after)).valueType = (readAs inner).valueType := by
      rw [readAs, h.1]
      rfl
    rw [Agrees, Sent, hvalue]
    exact ih h.2
  | _ => exact hS.unsupported _ _

theorem agrees_keeps_iff {t : CommentedType} : Agrees Keeps t ↔ ¬t.IsHidden := by
  unfold CommentedType.IsHidden
  cases h : t.hidden with
  | none => exact iff_of_true (agrees_of_hidden_eq_none lenient_keeps h) (by simp)
  | some c =>
    rw [Agrees, Sent, valueType_of_hidden h, valueType_nodeOf]
    cases t.plain.valueType <;> simp [Keeps, ValueType.isUnsupported]

theorem agrees_weakens (t : CommentedType) : Agrees Weakens t := by
  cases h : t.hidden with
  | none => exact agrees_of_hidden_eq_none lenient_weakens h
  | some c =>
    refine .inl ?_
    rw [valueType_of_hidden h]
    rfl

end Types

section Lists

theorem entryRel_entryAs_iff (hS : Lenient S) (t : CommentedType) :
    EntryRel (Sent S) (entryOf b t.plain) (entryAs b t) ↔ Agrees S t := by
  cases t with
  | name x => exact iff_of_true (.bare x.text) (hS.refl _)
  | map front before key after behind value =>
    change EntryRel (Sent S) (entryOf b (.map key.plain value.plain)) _ ↔ _
    rw [entryOf, entryAs]
    split
    · exact iff_of_true (.named _ (sent_list hS value _ _)) (hS.unsupported _ _)
    · exact entryRel_typed_iff
  | _ => exact entryRel_typed_iff

theorem entryRel_piece_iff (hS : Lenient S) (p : CommentedPiece) :
    EntryRel (Sent S) (entryOfPiece b p.plain) (entryAsPiece b p) ↔ Agrees S p.type := by
  cases p with
  | alone type => exact entryRel_entryAs_iff hS type
  | named x separator type => exact entryRel_named_iff

theorem isBare_entryAsPiece (p : CommentedPiece) :
    (entryAsPiece b p).isBare = (entryOfPiece b p.plain).isBare :=
  ((entryRel_piece_iff lenient_true p).2 trivial).isBare_eq

theorem uncommented_entriesAsItem (i : CommentedItem) :
    uncommented (entriesAsItem b i) = [entryAsPiece b i.piece] := by
  have hpiece : uncommented [entryAsPiece b i.piece] = [entryAsPiece b i.piece] :=
    ((entryRel_piece_iff lenient_true i.piece).2 trivial).uncommented_eq
  rw [entriesAsItem, ← List.singleton_append, uncommented_append, uncommented_append,
    uncommented_comments, uncommented_comments, hpiece]
  rfl

theorem forall₂_entries_iff (hS : Lenient S) (items : List CommentedItem) :
    List.Forall₂ (EntryRel (Sent S)) (entriesOf b (items.map (·.piece.plain)))
        (uncommented (entriesAs b items).flatten) ↔
      ∀ i ∈ items, Agrees S i.piece.type := by
  induction items generalizing b with
  | nil => exact iff_of_true .nil fun i hi => absurd hi List.not_mem_nil
  | cons i items ih =>
    have hnext := ih (b := (entryAsPiece b i.piece).isBare)
    rw [isBare_entryAsPiece] at hnext
    rw [entriesAs, List.flatten_cons, uncommented_append, uncommented_entriesAsItem,
      isBare_entryAsPiece]
    refine (List.forall₂_cons ..).trans (Iff.trans ?_ List.forall_mem_cons.symm)
    exact and_congr (entryRel_piece_iff hS i.piece) hnext

theorem uncommented_listEntries (l : CommentedList) :
    uncommented (listEntries l) = uncommented (entriesAs false l.items).flatten := by
  rw [listEntries]
  split
  · next h =>
    rw [List.isEmpty_iff.1 h]
    exact uncommented_comments _
  · rfl

variable (l : CommentedList)

theorem forall₂_listEntries_iff (hS : Lenient S) :
    List.Forall₂ (EntryRel (Sent S)) (entriesOf false (pieces l.list))
        (uncommented (listEntries l)) ↔
      ∀ i ∈ l.items, Agrees S i.piece.type := by
  rw [uncommented_listEntries, ← l.pieces_eq]
  exact forall₂_entries_iff hS l.items

theorem forall₂_nodes_iff (hS : Lenient S) :
    List.Forall₂ (NodeRel (Sent S)) (nodesOf l.list) (uncommentedNodes (nodesAs l)) ↔
      ∀ i ∈ l.items, Agrees S i.piece.type := by
  have hshape := (forall₂_listEntries_iff l lenient_true).2 fun _ _ => trivial
  rw [nodesAs, group_uncommented]
  exact (forall₂_group_iff (fun w => hS.refl _) hshape
    fun e he => absurd he List.not_mem_nil).trans (forall₂_listEntries_iff l hS)

theorem forall₂_parameters_iff (hS : Lenient S) :
    List.Forall₂ (ParameterRel S) (ParameterNode.parametersOf 0 (nodesOf l.list))
        (ParameterNode.parametersOf 0 (nodesAs l)) ↔
      ∀ i ∈ l.items, Agrees S i.piece.type := by
  have hshape := (forall₂_nodes_iff l lenient_true).2 fun _ _ => trivial
  rw [← parametersOf_uncommented 0 (nodesAs l)]
  exact (forall₂_parametersOf_iff hshape 0).trans (forall₂_nodes_iff l hS)

theorem forall₂_valueTypes_iff (hS : Lenient S) :
    List.Forall₂ S ((nodesOf l.list).flatMap ParameterNode.results)
        ((nodesAs l).flatMap ParameterNode.results) ↔
      ∀ i ∈ l.items, Agrees S i.piece.type := by
  have hshape := (forall₂_nodes_iff l lenient_true).2 fun _ _ => trivial
  rw [← results_uncommented (nodesAs l)]
  exact (forall₂_results_iff hshape).trans (forall₂_nodes_iff l hS)

end Lists

section Functions

/-- Signatures with the same names and related types. -/
structure SignatureRel (S : ValueType → ValueType → Prop) (s s' : Signature) : Prop where
  name : s.name = s'.name
  parameters : List.Forall₂ (ParameterRel S) s.parameters s'.parameters
  results : List.Forall₂ S s.results s'.results

/-- An empty list is no result, just as none is. -/
theorem results_resultOf_listed (list : ParameterList) :
    (resultOf (.listed list)).results = (nodesOf list).flatMap ParameterNode.results := by
  rw [resultOf]
  split
  · next h =>
    cases list with
    | unnamed types =>
      rw [List.map_eq_nil_iff.1 (List.isEmpty_iff.1 h)]
      rfl
    | named groups =>
      rw [List.map_eq_nil_iff.1 (List.isEmpty_iff.1 h)]
      rfl
  · rfl

theorem forall₂_resultPart_iff (hS : Lenient S) (part : CommentedResults) :
    List.Forall₂ S (resultOf part.plain).results (resultAs part).results ↔
      ∀ t ∈ part.types, Agrees S t := by
  cases part with
  | none gap => exact iff_of_true .nil fun t ht => absurd ht List.not_mem_nil
  | listed before l notEmpty after =>
    refine Iff.trans ?_ List.forall_mem_map.symm
    change List.Forall₂ S (resultOf (.listed l.list)).results _ ↔ _
    rw [results_resultOf_listed]
    exact forall₂_valueTypes_iff l hS
  | bare before type unparenthesized after =>
    refine Iff.trans ?_ List.forall_mem_singleton.symm
    exact (List.forall₂_cons ..).trans (and_iff_left .nil)

theorem signatureRel_iff (hS : Lenient S) (f : CommentedFunction) :
    SignatureRel S (functionOf f.plain).signature (functionAs f).signature ↔
      ∀ t ∈ f.types, Agrees S t := by
  have hparameters := (forall₂_parameters_iff f.parameters hS).trans
    (List.forall_mem_map (f := fun i : CommentedItem => i.piece.type)).symm
  have hresults := forall₂_resultPart_iff hS f.results
  rw [CommentedFunction.types, List.forall_mem_append]
  constructor
  · exact fun h => ⟨hparameters.1 h.parameters, hresults.1 h.results⟩
  · exact fun h => ⟨rfl, hparameters.2 h.1, hresults.2 h.2⟩

end Functions

section Files

/-- What stands behind the first word of a function in a file. -/
def behindWord (f : CommentedFunction) (r : Text) : Text :=
  f.signatureText (f.body.text ++ '\x7d' :: (f.behind.text ++ '\n' :: r))

theorem text_append (f : CommentedFunction) (r : Text) :
    f.text ++ r = f.before.text ++ ("func".toList ++ behindWord f r) := by
  simp [CommentedFunction.text, CommentedFunction.signatureText, behindWord]

/-- A function with the comments before it and those at the end of its line. -/
def itemsOfFunction (f : CommentedFunction) (r : Text) : List Item :=
  f.before.comments.map .comment ++
    .code (.function (functionAs f)) ("func".toList ++ behindWord f r) ::
      f.behind.comments.map .comment

theorem reads_function (f : CommentedFunction) (hn : f.text.length ≤ n) :
    Reads (item (Nested.upTo (n + 1))) (f.text ++ r) (itemsOfFunction f r) r := by
  simp only [CommentedFunction.text, CommentedFunction.signatureText, List.length_append] at hn
  let v := f.behind.text ++ '\n' :: r
  have hopen {lineEnds : Bool} : Skips lineEnds
      (f.results.after.text ++ '\x7b' :: (f.body.text ++ '\x7d' :: v))
      f.results.after.comments ('\x7b' :: (f.body.text ++ '\x7d' :: v)) :=
    Solid.skips_gap (solid_cons rfl (by simp)) f.results.after
  have hclose : Skips false (f.body.text ++ '\x7d' :: v) f.body.comments ('\x7d' :: v) :=
    Solid.skips_gap (solid_cons rfl (by simp)) f.body
  have hbody := reads_body_of_block (g := Nested.upTo (n + 1)) hopen
    (reads_emptyBlock (n := n) hopen hclose)
  have hend : Skips true v f.behind.comments ('\n' :: r) := by
    have hskips := skips_gap f.behind (skips_line_end (s := r))
    rwa [List.append_nil] at hskips
  have hbefore : Skips false (f.before.text ++ ("func".toList ++ behindWord f r))
      f.before.comments ("func".toList ++ behindWord f r) :=
    Solid.skips_gap (solid_of_isIdentifier isIdentifier_func) f.before
  rw [text_append]
  exact reads_item hbefore
    (reads_declaration_func f (by omega) (by omega) hbody) hend

/-- The items of the functions, one list for each. -/
def itemsOfFunctions : List CommentedFunction → List (List Item)
  | [] => []
  | f :: fs =>
    itemsOfFunction f (fs.flatMap CommentedFunction.text) :: itemsOfFunctions fs

theorem chain_functions (fs : List CommentedFunction) (hn : ∀ f ∈ fs, f.text.length ≤ n) :
    Chain (single (item (Nested.upTo (n + 1)))) () (fs.flatMap CommentedFunction.text)
      (itemsOfFunctions fs) [] := by
  induction fs with
  | nil => exact .stop_many (refuses_item solid_nil.skips)
  | cons f fs ih =>
    obtain ⟨hf, hn⟩ := List.forall_mem_cons.1 hn
    have hword : 0 < "func".toList.length := by decide
    rw [List.flatMap_cons]
    refine .step_many (reads_function f hf) ?_ (ih hn)
    simp only [CommentedFunction.text, List.length_append]
    omega

variable (fs : List CommentedFunction)

/-- The package clause and what stands behind it. -/
def fileItems : List Item :=
  .code .package (commentedText fs) :: (itemsOfFunctions fs).flatten

theorem length_text_le {f : CommentedFunction} (h : f ∈ fs) :
    f.text.length ≤ (commentedText fs).length := by
  obtain ⟨before, after, rfl⟩ := List.append_of_mem h
  simp only [commentedText, List.flatMap_append, List.flatMap_cons, List.length_append]
  omega

theorem reads_file (hn : (commentedText fs).length ≤ n) :
    Reads (items (Nested.upTo (n + 1))) (commentedText fs) (fileItems fs) [] := by
  have hfunctions : ∀ f ∈ fs, f.text.length ≤ n := fun f hf =>
    Nat.le_trans (length_text_le fs hf) hn
  have hsolid : Solid (commentedText fs) := solid_of_isStart (by decide)
  have hclause : Reads (item (Nested.upTo (n + 1))) (commentedText fs)
      [.code .package (commentedText fs)] (fs.flatMap CommentedFunction.text) :=
    reads_packageClause (x := FileReading.package) hsolid.skips skips_line_end
      (stops_cons (by decide))
  have hlength : (fs.flatMap CommentedFunction.text).length < (commentedText fs).length := by
    have hpositive : 0 < PrintedSource.packageClause.length := by decide
    rw [commentedText, List.length_append]
    omega
  have hmany := (Chain.step_many hclause hlength (chain_functions fs hfunctions)).many
  have hlast : Skips false [] [] [] := solid_nil.skips
  refine hmany.bind ((reads_comments hlast).bind ?_)
  rw [List.map_nil, List.append_nil]
  exact .pure

theorem read_commentedText : GoSourceFile.read (commentedText fs) = some (fileItems fs) :=
  read_of_reads (Nat.succ_pos _) rfl fun _ hn => reads_file fs (Nat.le_add_right_of_le hn)

theorem kindsOf_itemsOfFunctions : kindsOf (itemsOfFunctions fs).flatten =
    fs.map fun f => .function (functionAs f) := by
  induction fs with
  | nil => rfl
  | cons f fs ih =>
    unfold kindsOf at ih ⊢
    simp [itemsOfFunctions, itemsOfFunction, codeOf, ih]

theorem kindsOf_fileItems : kindsOf (fileItems fs) =
    .package :: fs.map fun f => .function (functionAs f) :=
  congrArg _ (kindsOf_itemsOfFunctions fs)

theorem signaturesOf_commentedText : signaturesOf (commentedText fs) =
    .ok (fs.map fun f => (functionAs f).signature) := by
  have hall : ∀ k ∈ fs.map fun f => ItemKind.function (functionAs f), IsDeclaration k :=
    List.forall_mem_map.2 fun _ _ => trivial
  rw [signaturesOf_of_kindsOf (read_commentedText fs) (kindsOf_fileItems fs) hall,
    List.filterMap_map]
  exact congrArg _ (congrFun List.filterMap_eq_map fs)

/-- A file with comments in its functions has the same functions, with the same parameter names,
as the file without them; what cannot be sent still cannot. All that can be sent is the same if
and only if no comment stands before such a type in its parentheses. -/
theorem comments_ignored_iff : ∃ signatures commented,
    signaturesOf (fileText (fs.map CommentedFunction.plain)) = .ok signatures ∧
      signaturesOf (commentedText fs) = .ok commented ∧
      List.Forall₂ (SignatureRel Weakens) signatures commented ∧
      (List.Forall₂ (SignatureRel Keeps) signatures commented ↔
        ∀ f ∈ fs, ∀ t ∈ f.types, ¬t.IsHidden) := by
  have hall {S : ValueType → ValueType → Prop} (hS : Lenient S) :
      List.Forall₂ (SignatureRel S)
          ((fs.map CommentedFunction.plain).map fun f => (functionOf f).signature)
          (fs.map fun f => (functionAs f).signature) ↔
        ∀ f ∈ fs, ∀ t ∈ f.types, Agrees S t := by
    rw [List.map_map, List.forall₂_map_left_iff, List.forall₂_map_right_iff, List.forall₂_same]
    exact forall₂_congr fun f _ => signatureRel_iff hS f
  refine ⟨_, _, FileReading.signaturesOf_fileText_eq _, signaturesOf_commentedText fs, ?_, ?_⟩
  · exact (hall lenient_weakens).2 fun _ _ t _ => agrees_weakens t
  · exact (hall lenient_keeps).trans
      (forall₂_congr fun _ _ => forall₂_congr fun _ _ => agrees_keeps_iff)

/-- A comment before the type of a parameter, in its parentheses. -/
def hidingFunction : CommentedFunction where
  before := []
  separator := .blank
  name := FileReading.misleadingDeclaration.name
  front := []
  parameters :=
    { list := .named [⟨[⟨['x'], by decide, by decide⟩], by simp, by simp,
        .parens (.name ⟨"int".toList, by decide, by decide⟩)⟩]
      items := [⟨[], .named ⟨['x'], by decide, by decide⟩ .blank
        (.parens [.comment ⟨" c ".toList, by decide, by decide⟩, .blank]
          (.name ⟨"int".toList, by decide, by decide⟩) []), []⟩]
      pieces_eq := rfl
      empty := [] }
  results := .none [.blank]
  body := []
  behind := []

/-- The comment is taken for the type. -/
theorem signaturesOf_hiding :
    commentedText [hidingFunction] = "package p\nfunc F(x (/* c */ int)) \x7b\x7d\n".toList ∧
      signaturesOf (fileText [hidingFunction.plain]) =
        .ok [⟨['F'], [⟨['x'], .scalar "int".toList⟩], []⟩] ∧
      signaturesOf (commentedText [hidingFunction]) =
        .ok [⟨['F'], [⟨['x'], .unsupported "/* c */".toList⟩], []⟩] ∧
      signaturesOf (commentedText [hidingFunction]) ≠
        signaturesOf (fileText [hidingFunction.plain]) := by
  decide +kernel

end Files

end RpcSchema.CommentedReading
