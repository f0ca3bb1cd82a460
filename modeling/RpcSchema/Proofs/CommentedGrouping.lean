import RpcSchema.GoSignatures
import RpcSchema.Proofs.ParameterGroups
import Mathlib.Data.List.Forall2

/-! # Grouping passes over comments and types

Comments between the entries of a list make no difference to its groups, and types are moved
without being looked into: the groups of two lists that have the same words are related just
as their entries are. -/
namespace RpcSchema.CommentedGrouping
open GoLexeme GoParameters ParameterGroups

variable {waiting es es' : List GoParameters.Entry} {nodes nodes' : List ParameterNode}
  {w : Text}

section Comments

def uncommented (es : List GoParameters.Entry) : List GoParameters.Entry :=
  es.filter fun
    | .comment _ => false
    | _ => true

def uncommentedNodes (nodes : List ParameterNode) : List ParameterNode :=
  nodes.filter fun
    | .comment _ => false
    | _ => true

theorem uncommented_append (es es' : List GoParameters.Entry) :
    uncommented (es ++ es') = uncommented es ++ uncommented es' :=
  List.filter_append ..

theorem uncommented_comments (cs : List Text) : uncommented (cs.map .comment) = [] := by
  induction cs with
  | nil => rfl
  | cons c cs ih => exact ih

theorem uncommentedNodes_append (nodes nodes' : List ParameterNode) :
    uncommentedNodes (nodes ++ nodes') = uncommentedNodes nodes ++ uncommentedNodes nodes' :=
  List.filter_append ..

theorem ungrouped_uncommented (es : List GoParameters.Entry) :
    ungrouped (uncommented es) = uncommentedNodes (ungrouped es) := by
  induction es with
  | nil => rfl
  | cons e es ih =>
    cases e with
    | comment c => exact ih
    | _ => exact congrArg (List.cons _) ih

theorem bareWords_uncommented (es : List GoParameters.Entry) :
    bareWords (uncommented es) = bareWords es := by
  induction es with
  | nil => rfl
  | cons e es ih =>
    cases e with
    | bare w => exact congrArg (List.cons w) ih
    | _ => exact ih

theorem splitBare_uncommented (n : Nat) (es : List GoParameters.Entry) :
    splitBare n (uncommented es) =
      (uncommented (splitBare n es).1, uncommented (splitBare n es).2) := by
  induction es generalizing n with
  | nil => cases n <;> rfl
  | cons e es ih =>
    cases n with
    | zero =>
      rw [splitBare, splitBare]
      rfl
    | succ n =>
      cases e with
      | comment c => exact ih (n + 1)
      | bare w =>
        have hsplit := ih n
        change splitBare (n + 1) (.bare w :: uncommented es) = _
        rw [splitBare, hsplit]
        rfl
      | _ =>
        have hsplit := ih (n + 1)
        change splitBare (n + 1) (_ :: uncommented es) = _
        rw [splitBare, hsplit]
        · rfl
        · simp

/-- How many of the names that wait are types depends on the words alone. -/
theorem exists_group_named (words : List Text) (w : Text) :
    ∃ k, ∀ waiting type es, bareWords waiting = words →
      group waiting (.named w type :: es) = ungrouped (splitBare k waiting).1 ++
        .declaration (bareWords (splitBare k waiting).2 ++ [w]) type :: group [] es := by
  refine ⟨min (((words ++ [w]).takeWhile (!typeWords.contains ·)).length + 1)
    (words ++ [w]).length - groupLimit, fun waiting type es h => ?_⟩
  subst h
  rw [group]

/-- The groups of a list are those of the list without its comments. -/
theorem group_uncommented (waiting es : List GoParameters.Entry) :
    uncommentedNodes (group waiting es) = group (uncommented waiting) (uncommented es) := by
  induction es generalizing waiting with
  | nil => exact (ungrouped_uncommented waiting).symm
  | cons e es ih =>
    have hother (e : GoParameters.Entry) :
        uncommentedNodes (ungrouped (waiting ++ [e]) ++ group [] es) =
          ungrouped (uncommented waiting ++ uncommented [e]) ++ group [] (uncommented es) := by
      rw [uncommentedNodes_append, ih, ← ungrouped_uncommented, uncommented_append]
      rfl
    cases e with
    | bare w =>
      have hnext := ih (waiting ++ [.bare w])
      rwa [uncommented_append] at hnext
    | comment c =>
      have hnext := ih (waiting ++ [.comment c])
      rw [uncommented_append] at hnext
      change uncommentedNodes (group waiting (.comment c :: es)) =
        group (uncommented waiting) (uncommented es)
      rw [group]
      split
      · next hempty =>
        rw [List.isEmpty_iff.1 hempty]
        exact ih []
      · exact hnext.trans (congrArg (group · _) (List.append_nil _))
    | named w type =>
      obtain ⟨k, hgroup⟩ := exists_group_named (bareWords waiting) w
      change _ = group (uncommented waiting) (.named w type :: uncommented es)
      rw [hgroup waiting type es rfl, hgroup _ type _ (bareWords_uncommented waiting),
        splitBare_uncommented, ungrouped_uncommented, bareWords_uncommented,
        uncommentedNodes_append]
      exact congrArg (fun nodes => _ ++ ParameterNode.declaration _ type :: nodes) (ih [])
    | typed type => exact hother (.typed type)
    | variadic name source => exact hother (.variadic name source)

theorem parametersOf_uncommented (before : Nat) (nodes : List ParameterNode) :
    ParameterNode.parametersOf before (uncommentedNodes nodes) =
      ParameterNode.parametersOf before nodes := by
  induction nodes generalizing before with
  | nil => rfl
  | cons node nodes ih =>
    cases node with
    | comment c => exact ih before
    | _ => exact congrArg (_ ++ ·) (ih _)

theorem results_uncommented (nodes : List ParameterNode) :
    (uncommentedNodes nodes).flatMap ParameterNode.results =
      nodes.flatMap ParameterNode.results := by
  induction nodes with
  | nil => rfl
  | cons node nodes ih =>
    cases node with
    | comment c => exact ih
    | _ => exact congrArg (_ ++ ·) ih

end Comments

section Relations

/-- Entries with the same words and related types. -/
inductive EntryRel (R : TypeNode → TypeNode → Prop) :
    GoParameters.Entry → GoParameters.Entry → Prop where
  | bare (w : Text) : EntryRel R (.bare w) (.bare w)
  | named (w : Text) {t t' : TypeNode} (h : R t t') : EntryRel R (.named w t) (.named w t')
  | typed {t t' : TypeNode} (h : R t t') : EntryRel R (.typed t) (.typed t')

/-- Nodes with the same names and related types. -/
inductive NodeRel (R : TypeNode → TypeNode → Prop) : ParameterNode → ParameterNode → Prop where
  | declaration (names : List Text) {t t' : TypeNode} (h : R t t') :
    NodeRel R (.declaration names t) (.declaration names t')

variable {R : TypeNode → TypeNode → Prop} {S : ValueType → ValueType → Prop} {t t' : TypeNode}

theorem EntryRel.isBare_eq {e e' : GoParameters.Entry} (h : EntryRel R e e') :
    e'.isBare = e.isBare := by
  cases h <;> rfl

/-- No comment is related to anything. -/
theorem EntryRel.uncommented_eq {e e' : GoParameters.Entry} (h : EntryRel R e e') :
    uncommented [e'] = [e'] := by
  cases h <;> rfl

theorem entryRel_named_iff : EntryRel R (.named w t) (.named w t') ↔ R t t' :=
  ⟨fun h => by cases h; assumption, .named w⟩

theorem entryRel_typed_iff : EntryRel R (.typed t) (.typed t') ↔ R t t' :=
  ⟨fun h => by cases h; assumption, .typed⟩

theorem nodeRel_iff {names : List Text} :
    NodeRel R (.declaration names t) (.declaration names t') ↔ R t t' :=
  ⟨fun h => by cases h; assumption, .declaration names⟩

theorem forall₂_append_iff {α : Type} {Q : α → α → Prop} {k k' l l' : List α}
    (h : k.length = k'.length) :
    List.Forall₂ Q (k ++ l) (k' ++ l') ↔ List.Forall₂ Q k k' ∧ List.Forall₂ Q l l' := by
  induction k generalizing k' with
  | nil =>
    obtain rfl := List.length_eq_zero_iff.1 h.symm
    simp
  | cons x k ih =>
    cases k' with
    | nil => cases h
    | cons y k' =>
      have hrest := ih (Nat.succ.inj h)
      simp only [List.cons_append, List.forall₂_cons, hrest, and_assoc]

theorem forall₂_map_iff {α β : Type} {Q : β → β → Prop} {P : Prop} {f g : α → β} {l : List α}
    (hl : l ≠ []) (h : ∀ x, Q (f x) (g x) ↔ P) : List.Forall₂ Q (l.map f) (l.map g) ↔ P := by
  rw [List.forall₂_map_left_iff, List.forall₂_map_right_iff, List.forall₂_same]
  obtain ⟨x, hx⟩ := List.exists_mem_of_ne_nil l hl
  exact ⟨fun hall => (h x).1 (hall x hx), fun hp x _ => (h x).2 hp⟩

theorem forall₂_replicate_iff {α : Type} {Q : α → α → Prop} {a b : α} {n : Nat} (hn : 0 < n) :
    List.Forall₂ Q (List.replicate n a) (List.replicate n b) ↔ Q a b := by
  have hmap (c : α) : List.replicate n c = (List.range n).map fun _ => c := by simp
  have hl : List.range n ≠ [] := by simpa using Nat.pos_iff_ne_zero.1 hn
  rw [hmap, hmap]
  exact forall₂_map_iff hl fun _ => Iff.rfl

/-- Words alone are names of types. -/
theorem forall₂_ungrouped_bare (hR : ∀ w, R (.name w) (.name w))
    (h : ∀ e ∈ es, ∃ w, e = .bare w) :
    List.Forall₂ (NodeRel R) (ungrouped es) (ungrouped es) := by
  refine List.forall₂_same.2 fun node hm => ?_
  obtain ⟨e, he, rfl⟩ := List.mem_map.1 hm
  obtain ⟨w, rfl⟩ := h e he
  exact .declaration [] (hR w)

/-- The groups are related just as the entries are. -/
theorem forall₂_group_iff (hR : ∀ w, R (.name w) (.name w))
    (h : List.Forall₂ (EntryRel fun _ _ => True) es es')
    (hwaiting : ∀ e ∈ waiting, ∃ w, e = .bare w) :
    List.Forall₂ (NodeRel R) (group waiting es) (group waiting es') ↔
      List.Forall₂ (EntryRel R) es es' := by
  have hnil : ∀ e ∈ ([] : List GoParameters.Entry), ∃ w, e = .bare w :=
    fun e he => absurd he List.not_mem_nil
  induction h generalizing waiting with
  | nil => exact iff_of_true (forall₂_ungrouped_bare hR hwaiting) .nil
  | @cons e e' es es' he _ ih =>
    have hnext := ih hnil
    cases he with
    | bare w =>
      have hnext := ih (forall_append (Q := fun e => ∃ w, e = .bare w) hwaiting ⟨w, rfl⟩)
      rw [List.forall₂_cons, group, group]
      exact hnext.trans (and_iff_right (.bare w)).symm
    | named w _ =>
      obtain ⟨k, hgroup⟩ := exists_group_named (bareWords waiting) w
      have htypes : ∀ e ∈ (splitBare k waiting).1, ∃ w, e = .bare w := fun e he =>
        hwaiting e (splitBare_append k waiting ▸ List.mem_append_left _ he)
      rw [hgroup _ _ _ rfl, hgroup _ _ _ rfl, forall₂_append_iff rfl, List.forall₂_cons,
        List.forall₂_cons, nodeRel_iff, entryRel_named_iff]
      exact (and_iff_right (forall₂_ungrouped_bare hR htypes)).trans (and_congr_right' hnext)
    | @typed t t' _ =>
      have hgroup (t : TypeNode) (es : List GoParameters.Entry) :
          group waiting (.typed t :: es) =
            ungrouped waiting ++ .declaration [] t :: group [] es := by
        rw [group, ungrouped_append, List.append_assoc]
        · rfl
        all_goals simp
      rw [hgroup, hgroup, forall₂_append_iff rfl, List.forall₂_cons, List.forall₂_cons,
        nodeRel_iff, entryRel_typed_iff]
      exact (and_iff_right (forall₂_ungrouped_bare hR hwaiting)).trans (and_congr_right' hnext)

/-- Parameters with the same name and related types. -/
def ParameterRel (S : ValueType → ValueType → Prop) (p p' : Parameter) : Prop :=
  p.name = p'.name ∧ S p.type p'.type

/-- The types of nodes, as far as they can be sent, are related. -/
def Sent (S : ValueType → ValueType → Prop) (t t' : TypeNode) : Prop := S t.valueType t'.valueType

theorem forall₂_parametersOf_iff (h : List.Forall₂ (NodeRel fun _ _ => True) nodes nodes')
    (before : Nat) :
    List.Forall₂ (ParameterRel S) (ParameterNode.parametersOf before nodes)
        (ParameterNode.parametersOf before nodes') ↔
      List.Forall₂ (NodeRel (Sent S)) nodes nodes' := by
  induction h generalizing before with
  | nil => exact iff_of_true .nil .nil
  | @cons node node' nodes nodes' hnode _ ih =>
    cases hnode with
    | @declaration names t t' _ =>
      have hlength : ((ParameterNode.declaration names t).parameters before).length =
          ((ParameterNode.declaration names t').parameters before).length := by
        cases names <;> simp [ParameterNode.parameters]
      have hown : List.Forall₂ (ParameterRel S)
          ((ParameterNode.declaration names t).parameters before)
          ((ParameterNode.declaration names t').parameters before) ↔ Sent S t t' := by
        have hall (x : Text) : ParameterRel S ⟨x, t.valueType⟩ ⟨x, t'.valueType⟩ ↔ Sent S t t' :=
          and_iff_right rfl
        cases names with
        | nil =>
          refine (List.forall₂_cons ..).trans ((and_iff_left .nil).trans ?_)
          exact hall (inventedName (before + 1))
        | cons x names => exact forall₂_map_iff (List.cons_ne_nil x names) hall
      rw [ParameterNode.parametersOf, ParameterNode.parametersOf, forall₂_append_iff hlength,
        hown, hlength, ih, List.forall₂_cons, nodeRel_iff]

theorem forall₂_results_iff (h : List.Forall₂ (NodeRel fun _ _ => True) nodes nodes') :
    List.Forall₂ S (nodes.flatMap ParameterNode.results) (nodes'.flatMap ParameterNode.results) ↔
      List.Forall₂ (NodeRel (Sent S)) nodes nodes' := by
  induction h with
  | nil => exact iff_of_true .nil .nil
  | @cons node node' nodes nodes' hnode _ ih =>
    cases hnode with
    | @declaration names t t' _ =>
      have hlength : (ParameterNode.declaration names t).results.length =
          (ParameterNode.declaration names t').results.length := by
        simp [ParameterNode.results]
      have hown : List.Forall₂ S (ParameterNode.declaration names t).results
          (ParameterNode.declaration names t').results ↔ Sent S t t' :=
        forall₂_replicate_iff (Nat.le_max_right names.length 1)
      rw [List.flatMap_cons, List.flatMap_cons, forall₂_append_iff hlength, hown, ih,
        List.forall₂_cons, nodeRel_iff]

end Relations

end RpcSchema.CommentedGrouping
