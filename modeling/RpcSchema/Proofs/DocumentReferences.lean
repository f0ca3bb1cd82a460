import RpcSchema.Proofs.MessageFields
import Mathlib.Data.List.Nodup
import Mathlib.Data.List.Flatten

/-! # References from the methods of a document to its messages

A method line names its request and its reply whenever there are any; the messages are
written for exported signatures only. So the references of exported signatures are met,
each by one message, and all others dangle. -/
namespace RpcSchema.DocumentReferences
open Signature MessageFields

/-- The types on the method line of a signature, the request before the reply, without
the placeholder for nothing. -/
def references (s : Signature) : List Text :=
  [s.requestType, s.replyType].filter (· ≠ emptyMessage)

theorem requestName_ne_emptyMessage (s : Signature) : s.requestName ≠ emptyMessage := by
  intro h
  have hs : "Request".toList <:+ emptyMessage := h ▸ List.suffix_append s.name _
  exact absurd hs (by decide)

theorem replyName_ne_emptyMessage (s : Signature) : s.replyName ≠ emptyMessage := by
  intro h
  have hs : "Reply".toList <:+ emptyMessage := h ▸ List.suffix_append s.name _
  exact absurd hs (by decide)

/-- The two kinds of names end in different letters. -/
theorem requestName_ne_replyName (s t : Signature) : s.requestName ≠ t.replyName := by
  intro h
  have hl := congrArg List.getLast? h
  simp [requestName, replyName] at hl

theorem name_eq_of_requestName_eq {s t : Signature} (h : s.requestName = t.requestName) :
    s.name = t.name :=
  List.append_cancel_right h

theorem name_eq_of_replyName_eq {s t : Signature} (h : s.replyName = t.replyName) :
    s.name = t.name :=
  List.append_cancel_right h

theorem isExported_eq_of_name_eq {s t : Signature} (h : s.name = t.name) :
    s.isExported = t.isExported :=
  congrArg isExportedName h

theorem requestType_eq_emptyMessage_iff (s : Signature) :
    s.requestType = emptyMessage ↔ s.parameters.isEmpty = true := by
  unfold requestType
  split
  · next h => exact iff_of_true rfl h
  · next h => exact iff_of_false (requestName_ne_emptyMessage s) h

theorem replyType_eq_emptyMessage_iff (s : Signature) :
    s.replyType = emptyMessage ↔ s.results.isEmpty = true := by
  unfold replyType
  split
  · next h => exact iff_of_true rfl h
  · next h => exact iff_of_false (replyName_ne_emptyMessage s) h

theorem references_eq (s : Signature) :
    references s = (if s.parameters.isEmpty then [] else [s.requestName]) ++
      (if s.results.isEmpty then [] else [s.replyName]) := by
  have hq := requestName_ne_emptyMessage s
  have hr := replyName_ne_emptyMessage s
  unfold references requestType replyType
  by_cases hp : s.parameters.isEmpty <;> by_cases ht : s.results.isEmpty <;>
    simp [hp, ht, hq, hr]

theorem mem_references {s : Signature} {t : Text} (h : t ∈ references s) :
    t = s.requestName ∨ t = s.replyName := by
  rw [references_eq, List.mem_append] at h
  rcases h with h | h
  · split at h
    · cases h
    · exact .inl (List.mem_singleton.1 h)
  · split at h
    · cases h
    · exact .inr (List.mem_singleton.1 h)

theorem references_eq_nil_iff (s : Signature) :
    references s = [] ↔ s.parameters = [] ∧ s.results = [] := by
  rw [references_eq, List.append_eq_nil_iff]
  constructor
  · rintro ⟨hp, hr⟩
    exact ⟨by simpa using hp, by simpa using hr⟩
  · rintro ⟨hp, hr⟩
    simp [hp, hr]

theorem references_nodup (s : Signature) : (references s).Nodup := by
  have hne := requestName_ne_replyName s s
  rw [references_eq]
  by_cases hp : s.parameters.isEmpty <;> by_cases ht : s.results.isEmpty <;> simp [hp, ht, hne]

/-- A type that two signatures refer to gives both the same name. -/
theorem name_eq_of_mem_references {s u : Signature} {t : Text} (hs : t ∈ references s)
    (hu : t ∈ references u) : s.name = u.name := by
  rcases mem_references hs with rfl | rfl <;> rcases mem_references hu with h | h
  · exact name_eq_of_requestName_eq h
  · exact absurd h (requestName_ne_replyName s u)
  · exact absurd h.symm (requestName_ne_replyName u s)
  · exact name_eq_of_replyName_eq h

theorem requestMessage_name {s : Signature} {m : Option Message} (h : s.requestMessage = .ok m) :
    m.toList.map Message.name =
      if s.isExported && !s.parameters.isEmpty then [s.requestName] else [] := by
  rcases requestMessage_ok h with ⟨hc, rfl⟩ | ⟨hc, fields, -, rfl⟩
  · rw [hc]
    rfl
  · rw [hc]
    rfl

theorem replyMessage_name {s : Signature} {naming : ReplyNaming} {m : Option Message}
    (h : s.replyMessage naming = .ok m) :
    m.toList.map Message.name =
      if s.isExported && !s.results.isEmpty then [s.replyName] else [] := by
  rcases replyMessage_ok h with ⟨hc, rfl⟩ | ⟨hc, fields, -, rfl⟩
  · rw [hc]
    rfl
  · rw [hc]
    rfl

/-- The messages of a signature are those its method line refers to, if it is exported. -/
theorem messages_names {s : Signature} {naming : ReplyNaming} {own : List Message}
    (h : s.messages naming = .ok own) :
    own.map Message.name = if s.isExported then references s else [] := by
  obtain ⟨request, reply, hq, hr, rfl⟩ := messages_ok h
  rw [List.map_append, requestMessage_name hq, replyMessage_name hr, references_eq]
  cases s.isExported <;> cases s.parameters.isEmpty <;> cases s.results.isEmpty <;> rfl

theorem messagesOf_names {naming : ReplyNaming} {signatures : List Signature}
    {messages : List Message} (h : messagesOf naming signatures = .ok messages) :
    messages.map Message.name = (signatures.filter isExported).flatMap references := by
  induction signatures generalizing messages with
  | nil => cases h; rfl
  | cons s signatures ih =>
    obtain ⟨own, others, ho, hm, rfl⟩ := messagesOf_cons_ok h
    rw [List.map_append, messages_names ho, ih hm, List.filter_cons]
    cases s.isExported <;> simp

/-- A reference of one of the signatures is met by a message exactly if that signature
is exported, since no other signature can refer to the same type. -/
theorem mem_messages_iff {signatures : List Signature} {s : Signature} {t : Text}
    (hs : s ∈ signatures) (ht : t ∈ references s) :
    t ∈ (signatures.filter isExported).flatMap references ↔ s.isExported := by
  rw [List.mem_flatMap]
  constructor
  · rintro ⟨u, hu, htu⟩
    rw [isExported_eq_of_name_eq (name_eq_of_mem_references ht htu)]
    exact (List.mem_filter.1 hu).2
  · intro he
    exact ⟨s, List.mem_filter.2 ⟨hs, he⟩, ht⟩

private theorem flatMap_filter_not (signatures : List Signature) :
    (signatures.filter (!·.isExported)).flatMap references =
      signatures.flatMap fun s => if s.isExported then [] else references s := by
  induction signatures with
  | nil => rfl
  | cons s signatures ih =>
    rw [List.filter_cons, List.flatMap_cons]
    cases s.isExported <;> simp [ih]

/-- The references that no message meets. -/
theorem dangling_eq (signatures : List Signature) :
    (signatures.flatMap references).filter
        (· ∉ (signatures.filter isExported).flatMap references) =
      (signatures.filter (!·.isExported)).flatMap references := by
  rw [flatMap_filter_not, List.filter_flatMap]
  refine List.flatMap_congr fun s hs => ?_
  cases he : s.isExported with
  | true =>
    rw [if_pos rfl, List.filter_eq_nil_iff]
    intro t ht
    simp only [not_not, decide_not, Bool.not_eq_eq_eq_not, Bool.not_true, decide_eq_false_iff_not]
    exact (mem_messages_iff hs ht).2 he
  | false =>
    rw [if_neg (by decide), List.filter_eq_self]
    intro t ht
    have hn := mt (mem_messages_iff hs ht).1 (by simp [he])
    exact decide_eq_true hn

/-- Different names refer to different types. -/
theorem flatMap_references_nodup {signatures : List Signature}
    (h : (signatures.map Signature.name).Nodup) : (signatures.flatMap references).Nodup := by
  rw [List.nodup_flatMap]
  refine ⟨fun s _ => references_nodup s, ?_⟩
  refine (List.pairwise_map.1 h).imp fun hne => ?_
  intro t hs hu
  exact hne (name_eq_of_mem_references hs hu)

/-- The beginning of a document, up to its methods. -/
def opening (service : Text) : Text :=
  preamble ++ "service ".toList ++ service ++ " \x7b\n".toList

theorem assemble_eq (service : Text) (signatures : List Signature)
    (messages : List Message) :
    assemble service (signatures.map method) (messages.map Message.text) =
      opening service ++
        (signatures.flatMap method ++ '\x7d' :: messages.flatMap Message.text) := by
  change opening service ++ _ ++ ['\x7d'] ++ _ = _
  simp only [List.append_assoc, List.singleton_append, List.flatMap_def]

/-- The line of a method that receives one type and returns another. -/
def callLine (name received returned : Text) : Text :=
  "\t rpc ".toList ++ name ++ ['('] ++ received ++ ") returns (".toList ++ returned ++
    ") \x7b\x7d\n".toList

theorem method_eq_callLine (s : Signature) :
    s.method = callLine s.name s.requestType s.replyType := by
  unfold method callLine
  simp only [List.append_assoc, List.cons_append, List.nil_append]

/-- The messages of a document and the references of its methods, each of which names what it
receives and what it returns. The messages stand in the order of the exported signatures, the
request before the reply; the references of the other signatures are all that dangles; and
where the names of the exported signatures differ, so do the names of the messages. -/
theorem references_resolved {service document : Text} {naming : ReplyNaming}
    {signatures : List Signature} (h : render service signatures naming = .ok document) :
    ∃ messages, messagesOf naming signatures = .ok messages ∧
      document = opening service ++
        ((signatures.flatMap fun s => callLine s.name s.requestType s.replyType) ++
          '\x7d' :: messages.flatMap Message.text) ∧
      (∀ m ∈ messages, header m <+: m.text) ∧
      messages.map Message.name = (signatures.filter isExported).flatMap references ∧
      (∀ s ∈ signatures, ∀ t ∈ references s,
        t ∈ messages.map Message.name ↔ s.isExported) ∧
      (signatures.flatMap references).filter (· ∉ messages.map Message.name) =
        (signatures.filter (!·.isExported)).flatMap references ∧
      (∀ s ∈ signatures, references s = [] ↔ s.parameters = [] ∧ s.results = []) ∧
      (((signatures.filter isExported).map Signature.name).Nodup →
        (messages.map Message.name).Nodup) := by
  obtain ⟨messages, hm, rfl⟩ := render_ok h
  have hn := messagesOf_names hm
  have hlines : signatures.flatMap method =
      signatures.flatMap fun s => callLine s.name s.requestType s.replyType :=
    List.flatMap_congr fun s _ => method_eq_callLine s
  refine ⟨messages, hm, ?_, ?_, hn, ?_, ?_,
    fun s _ => references_eq_nil_iff s, ?_⟩
  · rw [assemble_eq, hlines]
  · intro m _
    rw [text_eq_header, List.append_assoc]
    exact List.prefix_append _ _
  · intro s hs t ht
    rw [hn]
    exact mem_messages_iff hs ht
  · rw [hn]
    exact dangling_eq signatures
  · intro hd
    rw [hn]
    exact flatMap_references_nodup hd

/-- One function that is exported and one that is not. -/
def mixedSignatures : List Signature :=
  [⟨"GetUser".toList, [⟨"id".toList, .scalar "uint".toList⟩], [.scalar "string".toList]⟩,
    ⟨"helper".toList, [], [.arrayOf "int".toList]⟩]

theorem references_resolved_mixed :
    ∃ document messages,
      render "Users".toList mixedSignatures .shared = .ok document ∧
      messagesOf .shared mixedSignatures = .ok messages ∧
      messages.map Message.name = ["GetUserRequest".toList, "GetUserReply".toList] ∧
      (mixedSignatures.flatMap references).filter (· ∉ messages.map Message.name) =
        ["helperReply".toList] ∧
      (messages.map Message.name).Nodup := by
  obtain ⟨document, h⟩ : ∃ d, render "Users".toList mixedSignatures .shared = .ok d := ⟨_, rfl⟩
  obtain ⟨messages, hm, -, -, hn, -, hd, -, hu⟩ := references_resolved h
  exact ⟨document, messages, h, hm, hn.trans (by decide), hd.trans (by decide), hu (by decide)⟩

end RpcSchema.DocumentReferences
