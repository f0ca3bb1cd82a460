import RpcSchema.Proofs.FlattenedLists
import RpcSchema.Proofs.ParameterGroups
import RpcSchema.Proofs.ParameterReading

/-! # Groups of printed parameter lists

The entries of a printed list are grouped as the list was meant, unless a map type in it is
read as an array type behind a name. -/
namespace RpcSchema.ParameterGrouping
open GoLexeme GoParameters PrintedSource TypeReading EntryReading ParameterReading ParameterGroups
open FlattenedLists (types_eq_results)

variable {b : Bool} {e : GoParameters.Entry} {es waiting : List GoParameters.Entry} {t : TypeExpr}
  {list : ParameterList}

section Nodes

def Declares (node : ParameterNode) : Prop := ∃ names type, node = .declaration names type

/-- Unless it is read as an array type, a type is read as behind no name. -/
theorem entryOf_eq (h : (b && t.looksLikeArray) = false) : entryOf b t = entryOf false t := by
  cases t with
  | map key value =>
    have hb : (b && key.isValue) = false := h
    rw [entryOf, hb]
    rfl
  | _ => rfl

theorem ungrouped_entryOf (h : (b && t.looksLikeArray) = false) :
    ungrouped [entryOf b t] = [.declaration [] (nodeOf t)] := by
  rw [entryOf_eq h]
  cases t <;> rfl

theorem entryOf_of_looksLikeArray (h : (b && t.looksLikeArray) = true) :
    ∃ element source, entryOf b t = .named "map".toList (.list element ('[' :: source)) := by
  cases t with
  | map key value =>
    have hb : (b && key.isValue) = true := h
    rw [entryOf, if_pos hb]
    exact ⟨_, _, rfl⟩
  | _ => simp [TypeExpr.looksLikeArray] at h

theorem declares_entryOf (b : Bool) (t : TypeExpr) :
    ∀ node ∈ ungrouped [entryOf b t], Declares node := by
  intro node hm
  cases h : b && t.looksLikeArray with
  | false =>
    rw [ungrouped_entryOf h] at hm
    exact ⟨_, _, List.mem_singleton.1 hm⟩
  | true =>
    obtain ⟨element, source, he⟩ := entryOf_of_looksLikeArray h
    rw [he] at hm
    exact ⟨_, _, List.mem_singleton.1 hm⟩

theorem exists_of_mem_entriesOf {ps : List Piece} (h : e ∈ entriesOf b ps) :
    ∃ p b', e = entryOfPiece b' p := by
  induction ps generalizing b with
  | nil => cases h
  | cons p ps ih =>
    rcases List.mem_cons.1 h with rfl | h
    · exact ⟨p, b, rfl⟩
    · exact ih h

theorem declares_nodesOf (list : ParameterList) : ∀ node ∈ nodesOf list, Declares node := by
  refine forall_group (Q := fun e => ∀ node ∈ ungrouped [e], Declares node) (fun e he => he)
    (fun names w type _ _ => ⟨_, _, rfl⟩) (fun e he => absurd he List.not_mem_nil) fun e he => ?_
  obtain ⟨p, b, rfl⟩ := exists_of_mem_entriesOf he
  cases p with
  | alone t => exact declares_entryOf b t
  | named x t => exact fun node hm => ⟨_, _, List.mem_singleton.1 hm⟩

/-- The types of the parameters are those of the results. -/
theorem types_parametersOf {nodes : List ParameterNode} (h : ∀ node ∈ nodes, Declares node)
    (before : Nat) : (ParameterNode.parametersOf before nodes).map Parameter.type =
      nodes.flatMap ParameterNode.results := by
  refine types_eq_results (fun node hm => ?_) before
  obtain ⟨names, type, rfl⟩ := h node hm
  rfl

end Nodes

section Unnamed

theorem isBare_entryOf (b : Bool) (t : TypeExpr) : (entryOf b t).isBare = t.isName := by
  cases t with
  | map key value =>
    rw [entryOf]
    cases b && key.isValue <;> rfl
  | _ => rfl

/-- Names alone and types alone are not grouped. -/
theorem group_of_ungrouped (ws : List Text)
    (h : ∀ e ∈ es, (∃ w, e = .bare w) ∨ ∃ type, e = .typed type) :
    group (ws.map .bare) es = ungrouped (ws.map .bare ++ es) := by
  induction es generalizing ws with
  | nil => rw [List.append_nil]; rfl
  | cons e es ih =>
    have htail : ∀ e ∈ es, (∃ w, e = .bare w) ∨ ∃ type, e = .typed type :=
      fun e he => h e (.tail _ he)
    rcases h e List.mem_cons_self with ⟨w, rfl⟩ | ⟨type, rfl⟩
    · have hnext := ih (ws ++ [w]) htail
      rw [List.map_append, List.append_assoc] at hnext
      exact hnext
    · have hnext := ih [] htail
      rw [List.map_nil, List.nil_append] at hnext
      rw [group, hnext, ← ungrouped_append, List.append_assoc]
      · rfl
      all_goals simp

theorem bare_or_typed (h : (b && t.looksLikeArray) = false) :
    (∃ w, entryOf b t = .bare w) ∨ ∃ type, entryOf b t = .typed type := by
  rw [entryOf_eq h]
  cases t with
  | name x => exact .inl ⟨x.text, rfl⟩
  | _ => exact .inr ⟨_, rfl⟩

/-- In a clear list no type is read as an array type. -/
theorem entriesOf_clear {types : List TypeExpr}
    (hb : b = true → ∀ t ∈ types.head?, t.looksLikeArray = false)
    (h : types.IsChain fun t u => t.misleads u = false) :
    (∀ e ∈ entriesOf b (types.map .alone), (∃ w, e = .bare w) ∨ ∃ type, e = .typed type) ∧
      ungrouped (entriesOf b (types.map .alone)) =
        types.map fun t => .declaration [] (nodeOf t) := by
  induction types generalizing b with
  | nil => exact ⟨fun e he => absurd he List.not_mem_nil, rfl⟩
  | cons t types ih =>
    obtain ⟨hhead, htail⟩ := List.isChain_cons.1 h
    have hplain : (b && t.looksLikeArray) = false := by
      rw [Bool.and_eq_false_imp]
      exact fun h => hb h t rfl
    have hnext : t.isName = true → ∀ u ∈ types.head?, u.looksLikeArray = false := by
      intro hname u hu
      have hmisleads := hhead u hu
      rw [TypeExpr.misleads, hname, Bool.true_and] at hmisleads
      exact hmisleads
    rw [← isBare_entryOf b t] at hnext
    obtain ⟨hentries, hungrouped⟩ := ih hnext htail
    constructor
    · intro e he
      rcases List.mem_cons.1 he with rfl | he
      · exact bare_or_typed hplain
      · exact hentries e he
    · have hcons : ungrouped (entriesOf b ((t :: types).map .alone)) =
          ungrouped [entryOf b t] ++
            ungrouped (entriesOf (entryOf b t).isBare (types.map .alone)) := rfl
      rw [hcons, hungrouped, ungrouped_entryOf hplain]
      rfl

end Unnamed

section Named

theorem bareWords_map (ws : List Text) : bareWords (ws.map .bare) = ws := by
  induction ws with
  | nil => rfl
  | cons w ws ih =>
    change w :: bareWords (ws.map .bare) = _
    rw [ih]

theorem splitBare_map {n : Nat} {ws : List Text} (h : n ≤ ws.length) :
    splitBare n (ws.map .bare) = ((ws.take n).map .bare, (ws.drop n).map .bare) := by
  induction n generalizing ws with
  | zero => cases ws <;> rfl
  | succ n ih =>
    cases ws with
    | nil => cases h
    | cons w ws =>
      have hnext := ih (Nat.le_of_succ_le_succ h)
      simp only [List.map_cons, splitBare, hnext]
      rfl

/-- The last nine names of a run share the type behind it, and the earlier ones are types. -/
theorem group_run (type : TypeExpr) {names : List Name} (h : names ≠ []) (ws : List Text)
    (hws : ∀ w ∈ ws, w ∉ typeWords) (ps : List Piece) :
    group (ws.map .bare) (entriesOf b (piecesOf type names ++ ps)) =
      ungrouped (((ws ++ names.map Name.text).take
        (ws.length + names.length - groupLimit)).map .bare) ++
      .declaration ((ws ++ names.map Name.text).drop (ws.length + names.length - groupLimit))
        (nodeOf type) :: group [] (entriesOf false ps) := by
  induction names generalizing b ws with
  | nil => exact absurd rfl h
  | cons x names ih =>
    have hfree : ∀ w ∈ ws ++ [x.text], w ∉ typeWords := by
      intro w hw
      rcases List.mem_append.1 hw with hw | hw
      · exact hws w hw
      · exact List.mem_singleton.1 hw ▸ notMem_typeWords x
    cases names with
    | nil =>
      have hsettled : (ws ++ [x.text]).takeWhile (!typeWords.contains ·) = ws ++ [x.text] :=
        List.takeWhile_eq_self_iff.2 fun w hw => by simpa using hfree w hw
      have hcount : min ((ws ++ [x.text]).length + 1) (ws ++ [x.text]).length - groupLimit =
          ws.length + 1 - groupLimit := by
        simp only [List.length_append, List.length_cons, List.length_nil]
        omega
      have hle : ws.length + 1 - groupLimit ≤ ws.length := by
        unfold groupLimit
        omega
      change group (ws.map .bare) (.named x.text (nodeOf type) :: entriesOf false ps) = _
      simp only [group, bareWords_map, hsettled, hcount, splitBare_map hle]
      simp [List.take_append_of_le_length hle, List.drop_append_of_le_length hle]
    | cons y names =>
      have hnext := ih (b := true) (List.cons_ne_nil y names) (ws ++ [x.text]) hfree
      have hlength : (ws ++ [x.text]).length + (y :: names).length =
          ws.length + (x :: y :: names).length := by
        simp only [List.length_append, List.length_cons, List.length_nil]
        omega
      rw [List.map_append, List.append_assoc, hlength] at hnext
      exact hnext

/-- Up to nine names are grouped with the type behind the last of them. -/
theorem group_names (type : TypeExpr) {names : List Name} (h : names ≠ [])
    (hlength : names.length ≤ 9) (ps : List Piece) :
    group [] (entriesOf b (piecesOf type names ++ ps)) =
      .declaration (names.map Name.text) (nodeOf type) :: group [] (entriesOf false ps) := by
  have hrun := group_run (b := b) type h [] (fun w hw => absurd hw List.not_mem_nil) ps
  have hall : ([] : List Text).length + names.length - groupLimit = 0 := by
    rw [List.length_nil, Nat.zero_add]
    exact Nat.sub_eq_zero_of_le hlength
  rw [hall] at hrun
  exact hrun

theorem nodes_named (groups : List NameGroup) :
    group [] (entriesOf b (pieces (.named groups))) =
      groups.map fun g => .declaration (g.names.map Name.text) (nodeOf g.type) := by
  induction groups generalizing b with
  | nil => rfl
  | cons g groups ih =>
    have hcons : pieces (.named (g :: groups)) =
        piecesOf g.type g.names ++ pieces (.named groups) := List.flatMap_cons
    rw [hcons, List.map_cons, ← ih]
    exact group_names g.type g.notEmpty g.atMostNine (pieces (.named groups))

end Named

section Declarations

/-- What the list was meant to be. -/
def declarationsOf : ParameterList → List ParameterNode
  | .unnamed types => types.map fun t => .declaration [] (nodeOf t)
  | .named groups => groups.map fun g => .declaration (g.names.map Name.text) (nodeOf g.type)

theorem nodesOf_of_isClear (h : list.IsClear) : nodesOf list = declarationsOf list := by
  cases list with
  | unnamed types =>
    obtain ⟨hentries, hungrouped⟩ := entriesOf_clear (b := false) (fun hb => by cases hb) h
    exact (group_of_ungrouped [] hentries).trans hungrouped
  | named groups => exact nodes_named groups

theorem results_declarationsOf (list : ParameterList) :
    (declarationsOf list).flatMap ParameterNode.results = list.valueTypes := by
  cases list with
  | unnamed types =>
    rw [declarationsOf, List.flatMap_map, ParameterList.valueTypes, List.map_eq_flatMap]
    apply List.flatMap_congr
    intro t _
    exact congrArg ([·]) (valueType_nodeOf t)
  | named groups =>
    rw [declarationsOf, List.flatMap_map, ParameterList.valueTypes]
    apply List.flatMap_congr
    intro g _
    have hnames : 1 ≤ g.names.length := List.length_pos_iff.2 g.notEmpty
    rw [ParameterNode.results, List.length_map, Nat.max_eq_left hnames, valueType_nodeOf]

theorem parametersOf_unnamed (types : List TypeExpr) (before : Nat) :
    ParameterNode.parametersOf before (types.map fun t => .declaration [] (nodeOf t)) =
      types.mapIdx fun i t => ⟨inventedName (before + i + 1), t.valueType⟩ := by
  induction types generalizing before with
  | nil => rfl
  | cons t types ih =>
    have hrest := ih (before + 1)
    have hindex (i : Nat) : before + 1 + i + 1 = before + (i + 1) + 1 := by omega
    simp only [hindex] at hrest
    rw [List.mapIdx_cons, ← hrest, ← valueType_nodeOf]
    rfl

theorem parametersOf_named (groups : List NameGroup) (before : Nat) :
    ParameterNode.parametersOf before
        (groups.map fun g => .declaration (g.names.map Name.text) (nodeOf g.type)) =
      groups.flatMap fun g => g.names.map fun n => ⟨n.text, g.type.valueType⟩ := by
  induction groups generalizing before with
  | nil => rfl
  | cons g groups ih =>
    have hown : (ParameterNode.declaration (g.names.map Name.text) (nodeOf g.type)).parameters
        before = g.names.map fun n => ⟨n.text, g.type.valueType⟩ := by
      rw [ParameterNode.parameters, List.map_map, valueType_nodeOf]
      · rfl
      · exact fun h => g.notEmpty (List.map_eq_nil_iff.1 h)
    rw [List.map_cons, ParameterNode.parametersOf, hown, ih, List.flatMap_cons]

theorem parameters_declarationsOf (list : ParameterList) :
    ParameterNode.parametersOf 0 (declarationsOf list) = list.parameters := by
  cases list with
  | unnamed types =>
    have hall := parametersOf_unnamed types 0
    simp only [Nat.zero_add] at hall
    exact hall
  | named groups => exact parametersOf_named groups 0

end Declarations

section Counting

/-- The source of an unsupported type begins as that of a map type does. -/
def isMapType : ValueType → Bool
  | .unsupported ('m' :: _) => true
  | _ => false

theorem not_isMapType_list (element : TypeNode) (source : Text) :
    isMapType (TypeNode.list element ('[' :: source)).valueType = false := by
  cases element <;> rfl

theorem isMapType_of_looksLikeArray (h : t.looksLikeArray = true) :
    isMapType t.valueType = true := by
  cases t with
  | map key value => rfl
  | _ => cases h

def mapCount (nodes : List ParameterNode) : Nat :=
  (nodes.flatMap ParameterNode.results).countP isMapType

/-- The entry is read as such a type. -/
def isMapEntry : GoParameters.Entry → Bool
  | .typed type => isMapType type.valueType
  | _ => false

/-- The entry declares something. If it has a name, its type is no such type. -/
def Plain : GoParameters.Entry → Prop
  | .bare _ => True
  | .typed _ => True
  | .named _ type => isMapType type.valueType = false
  | _ => False

theorem mapCount_append (nodes nodes' : List ParameterNode) :
    mapCount (nodes ++ nodes') = mapCount nodes + mapCount nodes' := by
  unfold mapCount
  rw [List.flatMap_append, List.countP_append]

theorem mapCount_declaration {names : List Text} {type : TypeNode}
    (h : isMapType type.valueType = false) : mapCount [.declaration names type] = 0 := by
  unfold mapCount
  rw [List.flatMap_singleton, ParameterNode.results, List.countP_replicate, h]
  rfl

theorem mapCount_typed (type : TypeNode) :
    mapCount (ungrouped [.typed type]) = (isMapType type.valueType).toNat := by
  change List.countP isMapType [type.valueType] = _
  rw [List.countP_singleton]
  cases isMapType type.valueType <;> rfl

theorem mapCount_bare (h : ∀ e ∈ es, ∃ w, e = .bare w) : mapCount (ungrouped es) = 0 := by
  induction es with
  | nil => rfl
  | cons e es ih =>
    obtain ⟨w, rfl⟩ := h e List.mem_cons_self
    have hrest := ih fun e he => h e (.tail _ he)
    rw [← List.singleton_append, ungrouped_append, mapCount_append, hrest]
    exact mapCount_declaration rfl

theorem exists_bare {ws : List Text} (h : e ∈ ws.map .bare) : ∃ w, e = .bare w := by
  obtain ⟨w, -, rfl⟩ := List.mem_map.1 h
  exact ⟨w, rfl⟩

/-- Grouping makes no map type of anything else. -/
theorem mapCount_group (ws : List Text) (h : ∀ e ∈ es, Plain e) :
    mapCount (group (ws.map .bare) es) = es.countP isMapEntry := by
  -- names that wait count for nothing, whether they become types or share one
  induction es generalizing ws with
  | nil => exact mapCount_bare fun e he => exists_bare he
  | cons e es ih =>
    have htail : ∀ e ∈ es, Plain e := fun e he => h e (.tail _ he)
    have he := h e List.mem_cons_self
    have hnext := ih [] htail
    rw [List.map_nil] at hnext
    cases e with
    | comment source => exact absurd he id
    | variadic name source => exact absurd he id
    | bare w =>
      have hnext := ih (ws ++ [w]) htail
      rw [List.map_append] at hnext
      exact hnext
    | named w type =>
      obtain ⟨types, names, htypes, -, hgroup⟩ := group_named (ws.map .bare) w type es
      rw [hgroup, mapCount_append, mapCount_bare fun e he => exists_bare (htypes he),
        ← List.singleton_append, mapCount_append, mapCount_declaration he, hnext]
      simp [isMapEntry]
    | typed type =>
      rw [group, mapCount_append, ungrouped_append, mapCount_append, hnext, mapCount_typed,
        mapCount_bare fun e he => exists_bare he, List.countP_cons, isMapEntry]
      · cases isMapType type.valueType <;> simp [Nat.add_comm]
      all_goals simp

theorem isMapEntry_entryOf (b : Bool) (t : TypeExpr) :
    (isMapEntry (entryOf b t) = isMapType t.valueType ∧ (b && t.looksLikeArray) = false) ∨
      isMapEntry (entryOf b t) = false ∧ isMapType t.valueType = true := by
  cases h : b && t.looksLikeArray with
  | true =>
    obtain ⟨element, source, he⟩ := entryOf_of_looksLikeArray h
    rw [Bool.and_eq_true] at h
    exact .inr ⟨by rw [he]; rfl, isMapType_of_looksLikeArray h.2⟩
  | false =>
    refine .inl ⟨?_, rfl⟩
    rw [entryOf_eq h, ← valueType_nodeOf]
    cases t <;> rfl

theorem plain_entryOf (b : Bool) (t : TypeExpr) : Plain (entryOf b t) := by
  cases h : b && t.looksLikeArray with
  | true =>
    obtain ⟨element, source, he⟩ := entryOf_of_looksLikeArray h
    rw [he]
    exact not_isMapType_list element source
  | false =>
    rcases bare_or_typed h with ⟨w, he⟩ | ⟨type, he⟩
    · rw [he]
      trivial
    · rw [he]
      trivial

theorem plain_entriesOf (types : List TypeExpr) :
    ∀ e ∈ entriesOf b (types.map .alone), Plain e := by
  induction types generalizing b with
  | nil => exact fun e he => absurd he List.not_mem_nil
  | cons t types ih =>
    intro e he
    rcases List.mem_cons.1 he with rfl | he
    · exact plain_entryOf b t
    · exact ih e he

theorem countP_entriesOf_le (types : List TypeExpr) :
    (entriesOf b (types.map .alone)).countP isMapEntry ≤
      (types.map TypeExpr.valueType).countP isMapType := by
  induction types generalizing b with
  | nil => exact Nat.le_refl _
  | cons t types ih =>
    have hrest := ih (b := (entryOf b t).isBare)
    change (entryOf b t :: entriesOf (entryOf b t).isBare (types.map .alone)).countP isMapEntry ≤ _
    rw [List.map_cons, List.countP_cons, List.countP_cons]
    rcases isMapEntry_entryOf b t with ⟨he, -⟩ | ⟨he, ht⟩
    · rw [he]
      omega
    · rw [he, ht, if_neg Bool.false_ne_true]
      omega

/-- If no map type is lost, none was read as an array type. -/
theorem isChain_of_countP {types : List TypeExpr}
    (h : (types.map TypeExpr.valueType).countP isMapType ≤
      (entriesOf b (types.map .alone)).countP isMapEntry) :
    (b = true → ∀ t ∈ types.head?, t.looksLikeArray = false) ∧
      types.IsChain fun t u => t.misleads u = false := by
  induction types generalizing b with
  | nil => exact ⟨fun _ t ht => absurd ht (by simp), .nil⟩
  | cons t types ih =>
    have hle := countP_entriesOf_le (b := (entryOf b t).isBare) types
    change _ ≤ (entryOf b t :: entriesOf (entryOf b t).isBare (types.map .alone)).countP isMapEntry
      at h
    rw [List.map_cons, List.countP_cons, List.countP_cons] at h
    -- a type read as an array type would be one map type less, and no later entry makes up for it
    rcases isMapEntry_entryOf b t with ⟨he, hb⟩ | ⟨he, ht⟩
    · rw [he] at h
      obtain ⟨hnext, hchain⟩ := ih (b := (entryOf b t).isBare) (by omega)
      rw [isBare_entryOf] at hnext
      constructor
      · intro htrue u hu
        obtain rfl := Option.some.inj hu
        rw [htrue, Bool.true_and] at hb
        exact hb
      · refine List.isChain_cons.2 ⟨fun u hu => ?_, hchain⟩
        rw [TypeExpr.misleads, Bool.and_eq_false_imp]
        exact fun hname => hnext hname u hu
    · rw [he, ht, if_neg Bool.false_ne_true, if_pos rfl] at h
      omega

end Counting

section Results

/-- The types in a list are the declared ones only if the list is clear. -/
theorem isClear_of_results
    (h : (nodesOf list).flatMap ParameterNode.results = list.valueTypes) : list.IsClear := by
  cases list with
  | unnamed types =>
    have hcount := mapCount_group [] (plain_entriesOf (b := false) types)
    have hmaps : mapCount (nodesOf (.unnamed types)) =
        (types.map TypeExpr.valueType).countP isMapType := congrArg _ h
    exact (isChain_of_countP (b := false) (Nat.le_of_eq (hmaps.symm.trans hcount))).2
  | named groups => trivial

theorem results_nodesOf_iff :
    (nodesOf list).flatMap ParameterNode.results = list.valueTypes ↔ list.IsClear := by
  constructor
  · exact isClear_of_results
  · intro h
    rw [nodesOf_of_isClear h, results_declarationsOf]

theorem types_parameters (list : ParameterList) :
    list.parameters.map Parameter.type = list.valueTypes := by
  have hdeclares : ∀ node ∈ declarationsOf list, Declares node := by
    intro node hm
    cases list with
    | unnamed types =>
      obtain ⟨t, -, rfl⟩ := List.mem_map.1 hm
      exact ⟨_, _, rfl⟩
    | named groups =>
      obtain ⟨g, -, rfl⟩ := List.mem_map.1 hm
      exact ⟨_, _, rfl⟩
  rw [← parameters_declarationsOf, types_parametersOf hdeclares, results_declarationsOf]

theorem parameters_nodesOf_iff :
    ParameterNode.parametersOf 0 (nodesOf list) = list.parameters ↔ list.IsClear := by
  constructor
  · intro h
    apply isClear_of_results
    rw [← types_parametersOf (declares_nodesOf list) 0, h, types_parameters]
  · intro h
    rw [nodesOf_of_isClear h, parameters_declarationsOf]

end Results

end RpcSchema.ParameterGrouping
