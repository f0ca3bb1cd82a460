import RpcSchema.Proofs.DocumentLines
import RpcSchema.Proofs.FirstRefusal

/-! # What the naming of results changes

Signatures have a document with either naming or are refused with both, for the same reason.
The two documents differ in the fields of replies with several results: with positions asked
for, each of these has its number behind its name. All other lines are the same. -/
namespace RpcSchema.NamingChoice
open Signature MessageFields DocumentReferences DocumentReading DocumentLines

/-- The field with its number behind its name. -/
def positioned (f : Field) : Field := { f with name := f.name ++ Text.ofNat f.number }

/-- A line of two documents that differ in the naming of results only. -/
inductive Line where
  | common (t : Text)
  /-- The line of one of several results, which shares its name with the others. -/
  | result (f : Field)

namespace Line

def text : ReplyNaming → Line → Text
  | _, common t => t
  | .shared, result f => fieldLine f
  | .positional, result f => fieldLine (positioned f)

def field? : Line → Option Field
  | common _ => none
  | result f => some f

@[simp] theorem text_common (naming : ReplyNaming) (t : Text) : text naming (common t) = t := by
  cases naming <;> rfl

@[simp] theorem text_comp_common (naming : ReplyNaming) : text naming ∘ common = id := by
  funext t
  exact text_common naming t

@[simp] theorem field?_common (t : Text) : (common t).field? = none := rfl

@[simp] theorem field?_result (f : Field) : (result f).field? = some f := rfl

theorem name_eq_of_fieldLine_eq {repeated : Bool} {type a b : Text} {number : Nat}
    (h : fieldLine ⟨repeated, type, a, number⟩ = fieldLine ⟨repeated, type, b, number⟩) :
    a = b := by
  have hname := List.append_cancel_right (List.append_cancel_right (List.append_cancel_right h))
  exact List.tail_eq_of_cons_eq (List.append_cancel_left hname)

/-- The line of a result is not the same when its number is added. -/
theorem text_eq_iff (l : Line) : text .shared l = text .positional l ↔ l.field? = none := by
  cases l with
  | common t => exact iff_of_true rfl rfl
  | result f =>
    refine iff_of_false (fun h => ?_) (by simp)
    have hname : f.name = f.name ++ Text.ofNat f.number := name_eq_of_fieldLine_eq h
    exact Numerals.ofNat_ne_nil f.number (List.self_eq_append_right.1 hname)

end Line

section Replies

variable {α : Type} {s : Signature} {naming : ReplyNaming}

/-- An exported signature with several results. -/
def hasSeveral (s : Signature) : Bool := s.isExported && decide (1 < s.results.length)

/-- The fields of the reply, all of one name. -/
def sharedFields (s : Signature) : List Field :=
  match s.replyMessage .shared with
  | .ok (some m) => m.fields
  | _ => []

/-- The reply with its results told apart, if there are several. -/
def positionedReply (s : Signature) (m : Message) : Message :=
  if 1 < s.results.length then { m with fields := m.fields.map positioned } else m

theorem numbered_congr_map {f g : Nat → α → Except UnsupportedType Field} {k : Field → Field}
    (h : ∀ n a, g n a = (f n a).map k) (n : Nat) (as : List α) :
    numbered g n as = (numbered f n as).map (List.map k) := by
  induction as generalizing n with
  | nil => rfl
  | cons a as ih =>
    rw [numbered, numbered, h, ih]
    cases f n a with
    | error e => rfl
    | ok field => cases numbered f (n + 1) as <;> rfl

theorem replyField_positional (h : 1 < s.results.length) (n : Nat) (r : ValueType) :
    s.replyField .positional n r = (s.replyField .shared n r).map positioned := by
  cases r <;> simp [replyField, replyFieldName, h, positioned, Except.map]

theorem replyField_of_single (h : ¬1 < s.results.length) :
    s.replyField .positional = s.replyField .shared := by
  funext n r
  cases r <;> simp [replyField, replyFieldName, h]

theorem replyMessage_positional (s : Signature) :
    s.replyMessage .positional =
      (s.replyMessage .shared).map (Option.map (positionedReply s)) := by
  unfold replyMessage positionedReply
  by_cases h : 1 < s.results.length
  · rw [numbered_congr_map (replyField_positional h)]
    cases s.isExported && !s.results.isEmpty with
    | false => rfl
    | true => cases numbered (s.replyField .shared) 1 s.results <;> simp [Except.map, h]
  · rw [replyField_of_single h]
    cases s.isExported && !s.results.isEmpty with
    | false => rfl
    | true => cases numbered (s.replyField .shared) 1 s.results <;> simp [Except.map, h]

/-- The line of a field of the reply. -/
def resultLine (s : Signature) (f : Field) : Line :=
  if hasSeveral s then .result f else .common (fieldLine f)

/-- The lines of the reply. -/
def blockLines (s : Signature) (m : Message) : List Line :=
  [.common [], .common (titleLine m)] ++ m.fields.map (resultLine s) ++ [.common ['\x7d']]

def requestLines (s : Signature) : List Line :=
  match s.requestMessage with
  | .ok (some m) => (messageLines m).map .common
  | _ => []

def replyLines (s : Signature) : List Line :=
  match s.replyMessage .shared with
  | .ok (some m) => blockLines s m
  | _ => []

theorem text_blockLines {m m' : Message} (hname : m'.name = m.name)
    (hfields : m'.fields.map fieldLine = m.fields.map (Line.text naming ∘ resultLine s)) :
    (blockLines s m).map (Line.text naming) = messageLines m' := by
  have htitle : titleLine m' = titleLine m := congrArg (fun t => _ ++ t ++ _) hname
  simp [blockLines, messageLines, htitle, hfields]

theorem text_resultLine_shared : Line.text .shared ∘ resultLine s = fieldLine := by
  funext f
  simp only [Function.comp, resultLine]
  split <;> rfl

theorem text_resultLine_positional :
    Line.text .positional ∘ resultLine s =
      if hasSeveral s then fieldLine ∘ positioned else fieldLine := by
  funext f
  simp only [Function.comp, resultLine]
  split <;> rfl

/-- With positions asked for, the reply has the same lines but for those of several results. -/
theorem text_blockLines_positional {m : Message} (h : s.isExported = true) :
    (blockLines s m).map (Line.text .positional) = messageLines (positionedReply s m) := by
  unfold positionedReply
  have hseveral : hasSeveral s = decide (1 < s.results.length) := by simp [hasSeveral, h]
  by_cases hlength : 1 < s.results.length
  · rw [if_pos hlength]
    refine text_blockLines rfl ?_
    simp [text_resultLine_positional, hseveral, hlength]
  · rw [if_neg hlength]
    refine text_blockLines rfl ?_
    simp [text_resultLine_positional, hseveral, hlength]

theorem text_replyLines {reply : Option Message} (h : s.replyMessage naming = .ok reply) :
    (replyLines s).map (Line.text naming) = reply.toList.flatMap messageLines := by
  cases naming with
  | shared =>
    cases reply with
    | none => simp [replyLines, h]
    | some m =>
      have hlines : replyLines s = blockLines s m := by simp [replyLines, h]
      have htext : (blockLines s m).map (Line.text .shared) = messageLines m :=
        text_blockLines rfl (by rw [text_resultLine_shared])
      simp [hlines, htext]
  | positional =>
    rw [replyMessage_positional] at h
    cases hshared : s.replyMessage .shared with
    | error e => simp [hshared, Except.map] at h
    | ok shared =>
      simp only [hshared, Except.map, Except.ok.injEq] at h
      subst h
      cases shared with
      | none => simp [replyLines, hshared]
      | some m =>
        have hlines : replyLines s = blockLines s m := by simp [replyLines, hshared]
        have hexported : s.isExported = true := by
          rcases replyMessage_ok hshared with ⟨-, hnone⟩ | ⟨hc, -⟩
          · cases hnone
          · exact (Bool.and_eq_true_iff.1 hc).1
        simp [hlines, text_blockLines_positional hexported]

theorem text_requestLines {request : Option Message} (h : s.requestMessage = .ok request) :
    (requestLines s).map (Line.text naming) = request.toList.flatMap messageLines := by
  cases request <;> simp [requestLines, h]

theorem filterMap_common (lines : List Text) :
    (lines.map Line.common).filterMap Line.field? = [] := by
  simp

theorem fields_requestLines (s : Signature) : (requestLines s).filterMap Line.field? = [] := by
  unfold requestLines
  split
  · exact filterMap_common _
  · rfl

theorem fields_replyLines (s : Signature) :
    (replyLines s).filterMap Line.field? = if hasSeveral s then sharedFields s else [] := by
  unfold replyLines sharedFields
  split
  · next m _ =>
    have hfields : (m.fields.map (resultLine s)).filterMap Line.field? =
        if hasSeveral s then m.fields else [] := by
      cases hs : hasSeveral s <;>
        simp [resultLine, hs, List.filterMap_map, Function.comp_def]
    rw [blockLines, List.filterMap_append, List.filterMap_append, hfields]
    exact List.append_nil _
  · simp

end Replies

section Documents

variable {service : Text} {naming : ReplyNaming} {signatures : List Signature}

/-- The lines of the documents for some signatures. -/
def documentLines (service : Text) (signatures : List Signature) : List Line :=
  (openingLines service ++ signatures.map methodLine ++ [['\x7d']]).map .common ++
    signatures.flatMap fun s => requestLines s ++ replyLines s

theorem text_messagesOf {messages : List Message}
    (h : messagesOf naming signatures = .ok messages) :
    (signatures.flatMap fun s => requestLines s ++ replyLines s).map (Line.text naming) =
      messages.flatMap messageLines := by
  induction signatures generalizing messages with
  | nil => cases h; rfl
  | cons s signatures ih =>
    obtain ⟨own, others, ho, hm, rfl⟩ := messagesOf_cons_ok h
    obtain ⟨request, reply, hq, hr, rfl⟩ := messages_ok ho
    rw [List.flatMap_cons, List.map_append, List.map_append, text_requestLines hq,
      text_replyLines hr, ih hm, List.flatMap_append, List.flatMap_append]

theorem splitAt_document {document : Text} (hs : ∀ s ∈ signatures, IsLevel s)
    (h : render service signatures naming = .ok document) :
    Text.splitAt '\n' document = (documentLines service signatures).map (Line.text naming) := by
  obtain ⟨messages, hm, rfl⟩ := render_ok h
  rw [assemble_eq, splitAt_opening, splitAt_body hs hm, documentLines, List.map_append,
    text_messagesOf hm]
  simp

/-- Only the fields of several results are named in different ways. -/
theorem fields_documentLines (service : Text) (signatures : List Signature) :
    (documentLines service signatures).filterMap Line.field? =
      (signatures.filter hasSeveral).flatMap sharedFields := by
  rw [documentLines, List.filterMap_append, filterMap_common, List.nil_append]
  induction signatures with
  | nil => rfl
  | cons s signatures ih =>
    rw [List.flatMap_cons, List.filterMap_append, List.filterMap_append, fields_requestLines,
      fields_replyLines, ih, List.filter_cons]
    cases hasSeveral s <;> simp

theorem exists_reply_of_mem {messages : List Message} {s : Signature}
    (h : messagesOf naming signatures = .ok messages) (hs : s ∈ signatures) :
    ∃ reply, s.replyMessage naming = .ok reply := by
  induction signatures generalizing messages with
  | nil => cases hs
  | cons u signatures ih =>
    obtain ⟨own, others, ho, hm, rfl⟩ := messagesOf_cons_ok h
    rcases List.mem_cons.1 hs with rfl | hs
    · obtain ⟨request, reply, hq, hr, rfl⟩ := messages_ok ho
      exact ⟨reply, hr⟩
    · exact ih hm hs

theorem sharedFields_ne_nil {reply : Option Message} {s : Signature} (hs : hasSeveral s = true)
    (h : s.replyMessage .shared = .ok reply) : sharedFields s ≠ [] := by
  obtain ⟨hexported, hlength⟩ := Bool.and_eq_true_iff.1 hs
  have hlength : 1 < s.results.length := of_decide_eq_true hlength
  rcases replyMessage_ok h with ⟨hc, -⟩ | ⟨-, fields, hfields, rfl⟩
  · have hnil : s.results = [] := by simpa [hexported] using hc
    simp [hnil] at hlength
  · have hcount : fields.map (fun _ => ()) = s.results.map fun _ => () :=
      numbered_map (fun _ _ _ _ => rfl) hfields
    have hsame : fields.length = s.results.length := by
      simpa using congrArg List.length hcount
    have hshared : sharedFields s = fields := by simp [sharedFields, h]
    rw [hshared, ← List.length_pos_iff]
    omega

theorem fields_eq_nil_iff {document : Text}
    (h : render service signatures .shared = .ok document) :
    (signatures.filter hasSeveral).flatMap sharedFields = [] ↔
      ∀ s ∈ signatures, s.isExported = true → s.results.length ≤ 1 := by
  obtain ⟨messages, hm, -⟩ := render_ok h
  rw [List.flatMap_eq_nil_iff]
  constructor
  · intro hnil s hs hexported
    by_contra hlength
    have hseveral : hasSeveral s = true :=
      Bool.and_eq_true_iff.2 ⟨hexported, decide_eq_true (Nat.not_le.1 hlength)⟩
    obtain ⟨reply, hr⟩ := exists_reply_of_mem hm hs
    exact sharedFields_ne_nil hseveral hr (hnil s (List.mem_filter.2 ⟨hs, hseveral⟩))
  · intro hfew s hs
    obtain ⟨hs, hseveral⟩ := List.mem_filter.1 hs
    obtain ⟨hexported, hlength⟩ := Bool.and_eq_true_iff.1 hseveral
    exact absurd (hfew s hs hexported) (Nat.not_le.2 (of_decide_eq_true hlength))

/-- Documents are the same just if their lines are. -/
theorem document_eq_iff {shared positional : Text} (hs : ∀ s ∈ signatures, IsLevel s)
    (h : render service signatures .shared = .ok shared)
    (h' : render service signatures .positional = .ok positional) :
    shared = positional ↔ ∀ s ∈ signatures, s.isExported = true → s.results.length ≤ 1 := by
  have hlines : shared = positional ↔ Text.splitAt '\n' shared = Text.splitAt '\n' positional := by
    refine ⟨congrArg _, fun hsame => ?_⟩
    rw [← join_splitAt shared, hsame, join_splitAt]
  rw [hlines, splitAt_document hs h, splitAt_document hs h', List.map_inj_left,
    ← fields_eq_nil_iff h, ← fields_documentLines service, List.filterMap_eq_nil_iff]
  simp only [Line.text_eq_iff]

/-- How results are named changes the lines of fields of several results, and nothing else:
with positions asked for, the number of such a field stands behind its name. Signatures that
are refused with one naming are refused with the other for the same reason. Nothing that is
extracted from a source has the end of a line in a name. -/
theorem naming_changes_results :
    (∀ source signatures, signaturesOf source = .ok signatures → ∀ s ∈ signatures, IsLevel s) ∧
    ∀ (service : Text) (signatures : List Signature), (∀ s ∈ signatures, IsLevel s) →
      (∃ e, ∀ naming, render service signatures naming = .error e) ∨
      ∃ (shared positional : Text) (lines : List Line),
        render service signatures .shared = .ok shared ∧
        render service signatures .positional = .ok positional ∧
        (shared = positional ↔ ∀ s ∈ signatures, s.isExported = true → s.results.length ≤ 1) ∧
        Text.splitAt '\n' shared = lines.map (Line.text .shared) ∧
        Text.splitAt '\n' positional = lines.map (Line.text .positional) ∧
        lines.filterMap Line.field? = (signatures.filter hasSeveral).flatMap sharedFields := by
  refine ⟨fun source signatures h s hs => ?_, fun service signatures hs => ?_⟩
  · exact isLevel_of_hasPlainNames (QuotedSource.hasPlainNames_of_signaturesOf h s hs)
  · cases h : render service signatures .shared with
    | error e =>
      refine .inl ⟨e, fun naming => ?_⟩
      exact FirstRefusal.render_error_iff.2 (FirstRefusal.render_error_iff.1 h)
    | ok shared =>
      cases h' : render service signatures .positional with
      | error e =>
        have herror := FirstRefusal.render_error_iff.1 h'
        simp [FirstRefusal.render_error_iff.2 herror] at h
      | ok positional =>
        exact .inr ⟨shared, positional, documentLines service signatures, rfl, rfl,
          document_eq_iff hs h h', splitAt_document hs h, splitAt_document hs h',
          fields_documentLines service signatures⟩

/-- Two results, a single one, and two that are not exported. -/
def scoreSignatures : List Signature :=
  [⟨"GetScores".toList, [], [.arrayOf "float32".toList, .scalar "error".toList]⟩,
    ⟨"Add".toList, [], [.scalar "int".toList]⟩,
    ⟨"divide".toList, [], [.scalar "int".toList, .scalar "int".toList]⟩]

theorem naming_changes_results_scores :
    signaturesOf QuotedSource.mixedSource = .ok [QuotedSource.mixedSignature] ∧
      IsLevel QuotedSource.mixedSignature ∧ (∀ s ∈ scoreSignatures, IsLevel s) ∧
      ∃ (shared positional : Text) (lines : List Line),
        render "S".toList scoreSignatures .shared = .ok shared ∧
        render "S".toList scoreSignatures .positional = .ok positional ∧ shared ≠ positional ∧
        Text.splitAt '\n' shared = lines.map (Line.text .shared) ∧
        Text.splitAt '\n' positional = lines.map (Line.text .positional) ∧
        lines.filterMap Line.field? = [⟨true, "float".toList, "scores".toList, 1⟩,
          ⟨false, "error".toList, "scores".toList, 2⟩] := by
  have hplain : ∀ s ∈ scoreSignatures, PlainNames.HasPlainNames s := by decide
  have hlevel : ∀ s ∈ scoreSignatures, IsLevel s :=
    fun s hs => isLevel_of_hasPlainNames (hplain s hs)
  have hsource := QuotedSource.signaturesOf_mixedSource
  have hmixed := naming_changes_results.1 _ _ hsource _ List.mem_cons_self
  obtain ⟨d, hd⟩ : ∃ d, render "S".toList scoreSignatures .shared = .ok d := ⟨_, rfl⟩
  rcases naming_changes_results.2 "S".toList scoreSignatures hlevel with
    ⟨e, he⟩ | ⟨shared, positional, lines, h, h', heq, hshared, hpositional, hfields⟩
  · cases (he .shared).symm.trans hd
  · have hfew : ¬∀ s ∈ scoreSignatures, s.isExported = true → s.results.length ≤ 1 := by decide
    exact ⟨hsource, hmixed, hlevel, shared, positional, lines, h, h', mt heq.1 hfew, hshared,
      hpositional, hfields.trans (by decide)⟩

end Documents

end RpcSchema.NamingChoice
