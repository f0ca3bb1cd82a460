import RpcSchema.Proofs.FileReading

/-! # Runs of names

A run of names before one type, of any length, as the parameters or as the results of a
function. Nine names at most share the type. The names before them are read as types of their
own, and as parameters they are named after their positions. -/
namespace RpcSchema.NameRuns
open GoLexeme GoParameters GoSourceFile ReaderRun LexemeRun LayoutChecking PlainNames
open CommentedSource GapReading TypeReading ParameterReading ParameterGrouping
open FunctionReading DeclarationReading SurroundedReading FlattenedLists
open PrintedSource hiding packageClause

/-- Names before a type that is a name, too. -/
structure NameRun where
  names : List Name
  notEmpty : names ≠ []
  type : Name

variable (run : NameRun) {s r : Text} {n : Nat}

section Texts

namespace NameRun

def text : Text := commaSeparated (run.names.map Name.text) ++ ' ' :: run.type.text

/-- The run in its parentheses. -/
def listText : Text := '(' :: (run.text ++ [')'])

/-- What the function has in place of the name at a position. -/
def parameterAt (i : Nat) (x : Name) : Parameter :=
  if i + 9 < run.names.length then ⟨inventedName (i + 1), .scalar x.text⟩
  else ⟨x.text, .scalar run.type.text⟩

def parameters : List Parameter := run.names.mapIdx run.parameterAt

/-- How many of the names are read as types. -/
def typeCount : Nat := run.names.length - groupLimit

end NameRun

/-- What stands behind the lists of a function. -/
def emptyBody : Text := [' ', '\x7b', '\x7d', '\n']

def functionText (f : Name) (lists : Text) : Text :=
  "func".toList ++ ' ' :: (f.text ++ (lists ++ emptyBody))

/-- A file with one function. -/
def loneText (f : Name) (lists : Text) : Text :=
  PrintedSource.packageClause ++ functionText f lists

end Texts

section Lists

/-- The names that are types, and behind them the names that share the type. -/
def runNodes : List ParameterNode :=
  ((run.names.take run.typeCount).map fun x => .declaration [] (.name x.text)) ++
    [.declaration ((run.names.drop run.typeCount).map Name.text) (.name run.type.text)]

theorem group_nameRun :
    group [] (entriesOf false (piecesOf (.name run.type) run.names)) = runNodes run := by
  have hrun := group_run (b := false) (.name run.type) run.notEmpty []
    (fun w hw => absurd hw List.not_mem_nil) []
  rw [List.append_nil, List.nil_append, List.length_nil, Nat.zero_add] at hrun
  refine hrun.trans ?_
  unfold ungrouped runNodes NameRun.typeCount
  rw [← List.map_take, ← List.map_drop, List.map_map, List.map_map]
  rfl

theorem reads_nameRun (hn : run.text.length ≤ n) :
    Reads (parameters (Nested.upTo n)) (run.listText ++ r) (runNodes run) r := by
  have htext : run.text = commaSeparated ((piecesOf (.name run.type) run.names).map Piece.text) :=
    (commaSeparated_piecesOf (.name run.type) run.notEmpty).symm
  have hlist : run.listText ++ r = '(' :: (run.text ++ ')' :: r) := by simp [NameRun.listText]
  rw [htext] at hn
  rw [hlist, htext, ← group_nameRun]
  exact reads_pieces (piecesOf_ne_nil run.notEmpty) hn

/-- The member of a run at a position. -/
def memberAt (i : Nat) (x : Name) : Member :=
  if i < run.typeCount then ⟨none, .scalar x.text, false⟩
  else ⟨some x.text, .scalar run.type.text, false⟩

theorem parameterAt_eq (i : Nat) (x : Name) :
    run.parameterAt i x = (memberAt run i x).parameter (i + 1) := by
  have hcount : i < run.typeCount ↔ i + 9 < run.names.length := Nat.lt_sub_iff_add_lt
  unfold NameRun.parameterAt memberAt
  split_ifs with htype hname hname
  · rfl
  · exact absurd (hcount.2 htype) hname
  · exact absurd (hcount.1 hname) htype
  · rfl

theorem members_shared {names : List Text} (h : names ≠ []) (type : TypeNode) :
    members (.declaration names type) = names.map fun x => ⟨some x, type.valueType, false⟩ := by
  cases names with
  | nil => exact absurd rfl h
  | cons x names => rfl

/-- Two ways of mapping, parted at a position. -/
theorem map_take_append_map_drop {α β : Type} (f g : α → β) (n : Nat) (l : List α) :
    (l.take n).map f ++ (l.drop n).map g = l.mapIdx fun i x => if i < n then f x else g x := by
  induction n generalizing l with
  | zero => exact List.ext_getElem? fun i => by simp
  | succ n ih =>
    cases l with
    | nil => rfl
    | cons x l =>
      rw [List.take_succ_cons, List.drop_succ_cons, List.map_cons, List.cons_append, ih,
        List.mapIdx_cons, if_pos (Nat.succ_pos n)]
      simp only [Nat.add_lt_add_iff_right]

theorem flatten_runNodes : flatten (runNodes run) = run.names.mapIdx (memberAt run) := by
  -- fewer names than there are become types, so the type behind them has at least one name
  have hshared : (run.names.drop run.typeCount).map Name.text ≠ [] := by
    intro h
    have hpositive := List.length_pos_iff.2 run.notEmpty
    have hle := List.drop_eq_nil_iff.1 (List.map_eq_nil_iff.1 h)
    unfold NameRun.typeCount groupLimit at hle
    omega
  unfold flatten runNodes
  rw [List.flatMap_append, List.flatMap_singleton, members_shared hshared, List.flatMap_map,
    List.map_map]
  refine Eq.trans (congrArg (· ++ _) List.map_eq_flatMap.symm) ?_
  exact map_take_append_map_drop _ _ run.typeCount run.names

theorem parametersOf_runNodes : ParameterNode.parametersOf 0 (runNodes run) = run.parameters := by
  rw [parametersOf_eq, flatten_runNodes, List.mapIdx_mapIdx]
  refine congrArg (fun f => run.names.mapIdx f) ?_
  funext i x
  rw [parameterAt_eq, Function.comp_apply, Nat.zero_add]

theorem results_runNodes :
    (runNodes run).flatMap ParameterNode.results = run.parameters.map Parameter.type := by
  have hdeclares : ∀ node ∈ runNodes run, Declares node := by
    intro node hnode
    rcases List.mem_append.1 hnode with hnode | hnode
    · obtain ⟨x, -, rfl⟩ := List.mem_map.1 hnode
      exact ⟨_, _, rfl⟩
    · exact ⟨_, _, List.mem_singleton.1 hnode⟩
  rw [← parametersOf_runNodes, types_parametersOf hdeclares]

end Lists

section Files

variable {lists t : Text} {f : Name} {node : FunctionNode}

def loneItems (f : Name) (lists : Text) (node : FunctionNode) : List Item :=
  [.code .package (loneText f lists), .code (.function node) (functionText f lists)]

theorem reads_loneText
    (h : Reads (declaration (Nested.upTo n)) (functionText f lists) (.function node) ['\n']) :
    Reads (items (Nested.upTo n)) (loneText f lists) (loneItems f lists node) [] := by
  have hclause : Reads (item (Nested.upTo n)) (loneText f lists)
      [.code .package (loneText f lists)] (functionText f lists) :=
    reads_packageClause (x := FileReading.package) (Solid.skips (solid_of_isStart (by decide)))
      skips_line_end (stops_cons (by decide))
  have hfunction : Reads (item (Nested.upTo n)) (functionText f lists)
      [.code (.function node) (functionText f lists)] [] :=
    reads_item (skips_word isIdentifier_func) h skips_line_end
  have hlength : (functionText f lists).length < (loneText f lists).length := by
    have hpositive : 0 < PrintedSource.packageClause.length := by decide
    simp only [loneText, List.length_append]
    omega
  have hlast : Skips false [] [] [] := solid_nil.skips
  have hmany := (Chain.step_many hclause hlength
    (.step_many hfunction (by simp [functionText]) (.stop_many (refuses_item hlast)))).many
  exact hmany.bind ((reads_comments hlast).bind .pure)

theorem signaturesOf_loneText (node : FunctionNode)
    (h : ∀ n, (loneText f lists).length ≤ n →
      Reads (declaration (Nested.upTo (n + 1))) (functionText f lists) (.function node) ['\n']) :
    signaturesOf (loneText f lists) = .ok [node.signature] := by
  have hread : GoSourceFile.read (loneText f lists) = some (loneItems f lists node) :=
    read_of_reads (Nat.succ_pos _) rfl fun n hn =>
      reads_loneText (h (n + 4) (Nat.le_add_right_of_le hn))
  have hall : ∀ k ∈ [ItemKind.function node], IsDeclaration k := fun k hk =>
    List.mem_singleton.1 hk ▸ trivial
  exact signaturesOf_of_kindsOf hread rfl hall

theorem skips_emptyBody {lineEnds : Bool} :
    Skips lineEnds emptyBody [] ['\x7b', '\x7d', '\n'] :=
  (skips_cons rfl (by simp)).blank

theorem reads_functionText {nodes : List ParameterNode} {part : ResultNode}
    (hopen : lists.head? = some '(')
    (hparameters : Reads (Nested.upTo (n + 1)).parameters (lists ++ emptyBody) nodes t)
    (hresults : Reads (GoTypes.results (Nested.upTo (n + 1)) true) t part emptyBody) :
    Reads (declaration (Nested.upTo (n + 1))) (functionText f lists)
      (.function ⟨f.text, nodes, part⟩) ['\n'] := by
  obtain ⟨u, rfl⟩ : ∃ u, lists = '(' :: u := ⟨_, List.eq_cons_of_mem_head? hopen⟩
  have hclose : Skips false ['\x7d', '\n'] [] ['\x7d', '\n'] := skips_cons rfl (by simp)
  have hbody : Reads (body (Nested.upTo (n + 1))) emptyBody () ['\n'] :=
    reads_body_of_block skips_emptyBody (reads_emptyBlock skips_emptyBody hclose)
  have hparen : Skips false ('(' :: u ++ emptyBody) [] ('(' :: (u ++ emptyBody)) :=
    skips_cons rfl (by simp)
  exact reads_declaration_of_function (stops_cons (by decide))
    (reads_function_parts (stops_cons (by decide)) skips_name.blank (stops_cons (by decide)) hparen
      hparameters hresults hbody)

theorem length_text_le (f : Name) (before : Text) :
    run.text.length ≤ (loneText f (before ++ run.listText)).length := by
  simp only [loneText, functionText, NameRun.listText, List.length_append, List.length_cons]
  omega

theorem signaturesOf_parameterRun (f : Name) :
    signaturesOf (loneText f run.listText) = .ok [⟨f.text, run.parameters, []⟩] := by
  rw [← parametersOf_runNodes]
  refine signaturesOf_loneText ⟨f.text, runNodes run, .none⟩ fun n hn => ?_
  have hlength : run.text.length ≤ n := Nat.le_trans (length_text_le run f []) hn
  exact reads_functionText rfl (reads_nameRun run hlength) (reads_results_none skips_emptyBody)

theorem signaturesOf_resultRun (f : Name) :
    signaturesOf (loneText f (['(', ')', ' '] ++ run.listText)) =
      .ok [⟨f.text, [], run.parameters.map Parameter.type⟩] := by
  rw [← results_runNodes]
  refine signaturesOf_loneText ⟨f.text, [], .list (runNodes run)⟩ fun n hn => ?_
  have hlength : run.text.length ≤ n := Nat.le_trans (length_text_le run f _) hn
  have hlist : Reads (Nested.upTo (n + 1)).parameters (run.listText ++ emptyBody) (runNodes run)
      emptyBody := reads_nameRun run hlength
  have hopen : Skips true (' ' :: (run.listText ++ emptyBody)) []
      ('(' :: (run.text ++ [')'] ++ emptyBody)) := (skips_cons rfl (by simp)).blank
  exact reads_functionText rfl (reads_empty [])
    (reads_results_list hopen (reads_parameters_gap [.blank] hlist))

/-- A run of names is one list of parameters or of results, whatever its length. -/
theorem runs_extracted (f : Name) :
    run.parameters.length = run.names.length ∧
      signaturesOf (loneText f run.listText) = .ok [⟨f.text, run.parameters, []⟩] ∧
      signaturesOf (loneText f (['(', ')', ' '] ++ run.listText)) =
        .ok [⟨f.text, [], run.parameters.map Parameter.type⟩] :=
  ⟨List.length_mapIdx, signaturesOf_parameterRun run f, signaturesOf_resultRun run f⟩

/-- The first of ten names is a type. -/
example : signaturesOf "package p\nfunc F(a, b, c, d, e, f, g, h, i, j T) \x7b\x7d\n".toList =
    .ok [⟨['F'], ⟨"arg1".toList, .scalar ['a']⟩ ::
      ['b', 'c', 'd', 'e', 'f', 'g', 'h', 'i', 'j'].map fun c => ⟨[c], .scalar ['T']⟩, []⟩] := by
  decide +kernel

end Files

end RpcSchema.NameRuns
