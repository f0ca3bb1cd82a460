import RpcSchema.GoParameters

/-! # What grouping keeps

Every node of a parameter list comes from an entry of its own, or from names and the type
that they share. -/
namespace RpcSchema.ParameterGroups
open GoParameters

variable {waiting es : List GoParameters.Entry} {P : ParameterNode → Prop}
  {Q : GoParameters.Entry → Prop}

theorem ungrouped_append (es es' : List GoParameters.Entry) :
    ungrouped (es ++ es') = ungrouped es ++ ungrouped es' :=
  List.map_append

theorem forall_ungrouped (h : ∀ e, Q e → ∀ node ∈ ungrouped [e], P node)
    (hes : ∀ e ∈ es, Q e) : ∀ node ∈ ungrouped es, P node := by
  intro node hm
  obtain ⟨e, he, rfl⟩ := List.mem_map.1 hm
  exact h e (hes e he) _ (List.mem_singleton_self _)

theorem bare_of_mem_bareWords {w : Text} (h : w ∈ bareWords es) : .bare w ∈ es := by
  obtain ⟨e, he, hew⟩ := List.mem_filterMap.1 h
  cases e with
  | bare v =>
    obtain rfl := Option.some.inj hew
    exact he
  | comment | named | typed | variadic => cases hew

/-- Splitting takes nothing away and adds nothing. -/
theorem splitBare_append (n : Nat) (es : List GoParameters.Entry) :
    (splitBare n es).1 ++ (splitBare n es).2 = es := by
  fun_induction splitBare n es with
  | case1 => rfl
  | case2 => rfl
  | case3 n w es before after h ih => simpa [h] using ih
  | case4 n e es _ before after h ih => simpa [h] using ih

/-- A type takes along some of the names that wait; the earlier ones are types. -/
theorem group_named (waiting : List GoParameters.Entry) (w : Text) (type : TypeNode)
    (es : List GoParameters.Entry) :
    ∃ types names, types ⊆ waiting ∧ (∀ n ∈ names, .bare n ∈ waiting) ∧
      group waiting (.named w type :: es) =
        ungrouped types ++ .declaration (names ++ [w]) type :: group [] es := by
  rw [group]
  generalize hsplit : splitBare _ waiting = parts
  obtain ⟨types, names⟩ := parts
  have hall := hsplit ▸ splitBare_append _ waiting
  refine ⟨types, bareWords names, ?_, fun n hn => ?_, rfl⟩
  · exact fun e he => hall ▸ List.mem_append_left names he
  · exact hall ▸ List.mem_append_right types (bare_of_mem_bareWords hn)

theorem forall_append {e : GoParameters.Entry} (hw : ∀ e ∈ waiting, Q e) (he : Q e) :
    ∀ e' ∈ waiting ++ [e], Q e' := by
  intro e' hm
  rcases List.mem_append.1 hm with hm | hm
  · exact hw e' hm
  · exact List.mem_singleton.1 hm ▸ he

/-- What holds of the nodes of single entries and of all groups holds of every node. -/
theorem forall_group (h : ∀ e, Q e → ∀ node ∈ ungrouped [e], P node)
    (hnamed : ∀ names w type, (∀ n ∈ names, Q (.bare n)) → Q (.named w type) →
      P (.declaration (names ++ [w]) type))
    (hw : ∀ e ∈ waiting, Q e) (hes : ∀ e ∈ es, Q e) : ∀ node ∈ group waiting es, P node := by
  have hnil : ∀ e ∈ ([] : List GoParameters.Entry), Q e := fun e he => absurd he List.not_mem_nil
  induction es generalizing waiting with
  | nil => exact forall_ungrouped h hw
  | cons e es ih =>
    have he := hes e List.mem_cons_self
    have htail : ∀ e ∈ es, Q e := fun e he => hes e (.tail _ he)
    have hother : ∀ node ∈ ungrouped (waiting ++ [e]) ++ group [] es, P node := by
      intro node hm
      rcases List.mem_append.1 hm with hm | hm
      · exact forall_ungrouped h (forall_append hw he) node hm
      · exact ih hnil htail node hm
    cases e with
    | bare w => exact ih (forall_append hw he) htail
    | comment source =>
      rw [group]
      split
      · intro node hm
        rcases List.mem_cons.1 hm with rfl | hm
        · exact h _ he _ (List.mem_singleton_self _)
        · exact ih hnil htail node hm
      · exact ih (forall_append hw he) htail
    | named w type =>
      obtain ⟨types, names, htypes, hnames, hgroup⟩ := group_named waiting w type es
      intro node hm
      rw [hgroup] at hm
      rcases List.mem_append.1 hm with hm | hm
      · exact forall_ungrouped h (fun e he => hw e (htypes he)) node hm
      · rcases List.mem_cons.1 hm with rfl | hm
        · exact hnamed names w type (fun n hn => hw _ (hnames n hn)) he
        · exact ih hnil htail node hm
    | typed type => exact hother
    | variadic name source => exact hother

/-- Grouping makes no reserved word a type of its own. -/
theorem wellFormed_group (h : ∀ e ∈ es, wellFormed (ungrouped [e]) = true) :
    wellFormed (group [] es) = true := by
  have hnode (node : ParameterNode) (hm : node ∈ group [] es) : wellFormed [node] = true :=
    forall_group (P := fun node => wellFormed [node] = true)
      (Q := fun e => wellFormed (ungrouped [e]) = true)
      (fun e he node hm => List.mem_singleton.1 hm ▸ he)
      (fun names w type _ _ => by cases names <;> rfl)
      (fun e he => absurd he List.not_mem_nil) h node hm
  refine List.all_eq_true.2 fun node hm => ?_
  have hall := List.all_eq_true.1 (hnode node hm)
  exact hall node (List.mem_singleton_self node)

end RpcSchema.ParameterGroups
