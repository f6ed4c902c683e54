import DeviceTwin.Proofs.Topic.Recognition

/-!
# Answering again

What is read from an answer is put into a topic again. A correlation id ends only where its part of
the query does, so one that is read may have all characters but ampersands. One that is sent is
checked, and must not have some others either. So a scheme recognises answers that it refuses to
build, but what it builds says the same again.

Results:
* `exists_topic_iff`: what can be read from an answer.
* `checkId_cases`: which of the correlation ids that are read may be sent.
* `answer_again`: what has been recognised is built and recognised again, or refused for its
  correlation id.
* `unsendable_id_recognised`: a correlation id that is read but not sent.
-/
namespace DeviceTwin.TopicScheme

/-! ## What a query can say -/

theorem Part.amp_not_mem_readValue (p : Part) : '&' ∉ p.value := by
  unfold value
  cases h : p.value? with
  | none => exact List.not_mem_nil
  | some v => exact p.amp_not_mem_value v h

namespace Query

variable {q : Query} {query : List Char}

/-- A correlation id that is read is not empty, and it ends in front of an ampersand. -/
theorem FromText.id_wellFormed (h : q.FromText query) {id : String}
    (hid : q.correlationId = some id) : id.toList ≠ [] ∧ '&' ∉ id.toList := by
  obtain ⟨parts, -, hparts⟩ := h
  obtain ⟨v, hlast, rfl⟩ := Option.map_eq_some_iff.1 (hparts.id.symm.trans hid)
  have hmem := List.mem_of_getLast? hlast
  rw [String.toList_ofList]
  refine ⟨fun he => hparts.ids (he ▸ hmem), ?_⟩
  obtain ⟨p, -, rfl⟩ := List.mem_map.1 hmem
  exact p.amp_not_mem_readValue

/-- A version that is read has 64 bits. -/
theorem FromText.version_inRange (h : q.FromText query) :
    ∀ v ∈ q.version, -((maxVersion + 1 : Nat) : Int) ≤ v ∧ v ≤ (maxVersion : Int) := by
  obtain ⟨parts, -, hparts⟩ := h
  intro v hv
  have hrel := hparts.version
  rw [Option.mem_def.1 hv] at hrel
  generalize (valuesOf versionKey parts).getLast? = last at hrel
  cases hrel with
  | some hversion => exact ⟨hversion.1, hversion.2.1⟩

end Query

/-! ## What an answer can say -/

/-- What can be read from an answer with the given status and correlation id. -/
structure IsAnswer (r : Response) (n : Nat) (id : String) : Prop where
  status : r.status = some n
  status_le : n ≤ maxStatus
  kind : r.kind = if n = Status.ok then .documentGet else .reportedAck
  correlationId : r.correlationId = some id
  id_ne_nil : id.toList ≠ []
  amp_not_mem_id : '&' ∉ id.toList
  version : ∀ v ∈ r.version, -((maxVersion + 1 : Nat) : Int) ≤ v ∧ v ≤ (maxVersion : Int)

section Answer

variable {s : TopicScheme} {r : Response} {n : Nat}

theorem exists_isAnswer {topic : String} (h : s.classify topic = .ok (some r))
    (hstatus : r.status = some n) : ∃ id, IsAnswer r n id := by
  obtain ⟨f, tail, htopic, htail⟩ := exists_family h
  obtain ⟨q, hq, hgives⟩ := (classify_ok_iff htail s htopic).1 h
  cases hgives with
  | change => cases hstatus
  | answer inRange _ hasId =>
    cases hstatus
    obtain ⟨id, hid⟩ := Option.ne_none_iff_exists'.1 hasId
    obtain ⟨hne, hamp⟩ := hq.id_wellFormed hid
    exact ⟨id, rfl, inRange, rfl, hid, hne, hamp, hq.version_inRange⟩

/-- The text of an answer says what is put into it, whether or not it may be sent. -/
theorem IsAnswer.recognised {id : String} (h : IsAnswer r n id) :
    s.classify (s.base ++ operation id (.response n r.version)) = .ok (some r) := by
  obtain ⟨kind, correlationId, status, version⟩ := r
  obtain ⟨hstatus, hle, hkind, hid, hne, hamp, hversion⟩ := h
  dsimp only at *
  subst hstatus hkind hid
  exact TopicScheme.classify_operation s hne hamp hle hversion

/-- What can be read from an answer: any status, the kind that goes with it, a correlation id with
all characters but ampersands, and any version or none. -/
theorem exists_topic_iff (hstatus : r.status = some n) :
    (∃ topic, s.classify topic = .ok (some r)) ↔ ∃ id, IsAnswer r n id := by
  constructor
  · rintro ⟨topic, h⟩
    exact exists_isAnswer h hstatus
  · rintro ⟨id, h⟩
    exact ⟨_, h.recognised⟩

end Answer

/-! ## Sending -/

/-- Of the correlation ids that are read those are refused that have another reserved character. -/
theorem checkId_cases {id : String} (hne : id.toList ≠ []) (hamp : '&' ∉ id.toList) :
    (∃ c ∈ ['/', '#', '+', '?', '='], c ∈ id.toList) ∧ checkId id = .error (.reservedCharacter id) ∨
    (∀ c ∈ ['/', '#', '+', '?', '='], c ∉ id.toList) ∧ checkId id = .ok () := by
  rw [checkId, if_neg hne]
  by_cases hany : id.toList.any isReserved = true
  · rw [if_pos hany]
    obtain ⟨c, hc, hreserved⟩ := List.any_eq_true.1 hany
    refine .inl ⟨⟨c, ?_, hc⟩, rfl⟩
    rcases List.mem_cons.1 (of_decide_eq_true hreserved) with rfl | h
    · exact absurd hc hamp
    · exact h
  · rw [if_neg hany]
    refine .inr ⟨fun c hc hmem => hany (List.any_eq_true.2 ⟨c, hmem, ?_⟩), rfl⟩
    exact decide_eq_true (List.mem_cons_of_mem _ hc)

/-- What can be read from an answer, and what comes of it when it is put into a topic again. If the
correlation id has one of five reserved characters, the topic is refused for it. These are all but
the ampersand, which no correlation id that is read has. Else there is a topic, and the same is
recognised in it again. -/
theorem answer_again (s : TopicScheme) (r : Response) (n : Nat) (hstatus : r.status = some n) :
    ((∃ topic, s.classify topic = .ok (some r)) ↔ ∃ id, IsAnswer r n id) ∧
    ∀ topic, s.classify topic = .ok (some r) → ∃ id, r.correlationId = some id ∧
      ((∃ c ∈ ['/', '#', '+', '?', '='], c ∈ id.toList) ∧
          s.topic (.response n r.version) id = .error (.invalidTopic (.reservedCharacter id)) ∨
        (∀ c ∈ ['/', '#', '+', '?', '='], c ∉ id.toList) ∧
          ∃ topic', s.topic (.response n r.version) id = .ok topic' ∧
            s.classify topic' = .ok (some r)) := by
  refine ⟨exists_topic_iff hstatus, fun topic hclassify => ?_⟩
  obtain ⟨id, h⟩ := exists_isAnswer hclassify hstatus
  refine ⟨id, h.correlationId, ?_⟩
  obtain ⟨hreserved, hcheck⟩ | ⟨hfree, hcheck⟩ := checkId_cases h.id_ne_nil h.amp_not_mem_id
  · exact .inl ⟨hreserved, by rw [TopicScheme.topic, hcheck]⟩
  · exact .inr ⟨hfree, _, topic_of_checkId s hcheck _, h.recognised⟩

/-- An answer with zeros, a sign and parts that say nothing. -/
theorem answer_again_sample : ∃ topic,
    (⟨standardRoot⟩ : TopicScheme).topic (.response 429 (some (-5))) "a b" = .ok topic ∧
      (⟨standardRoot⟩ : TopicScheme).classify topic
        = .ok (some ⟨.reportedAck, some "a b", some 429, some (-5)⟩) := by
  have hclassify : (⟨standardRoot⟩ : TopicScheme).classify
      "$iothub/twin/res/+0429/?$rid=x&$version=-005&y&&$rid=a b"
        = .ok (some ⟨.reportedAck, some "a b", some 429, some (-5)⟩) := by decide +kernel
  obtain ⟨id, hid, h⟩ := (answer_again ⟨standardRoot⟩ _ 429 rfl).2 _ hclassify
  obtain rfl : "a b" = id := Option.some.inj hid
  obtain ⟨hreserved, -⟩ | ⟨-, htopic⟩ := h
  · simp at hreserved
  · exact htopic

/-- An equals sign in a correlation id is read, but it is not sent. -/
theorem unsendable_id_recognised :
    (⟨standardRoot⟩ : TopicScheme).classify "$iothub/twin/res/204/?$rid=a=b"
        = .ok (some ⟨.reportedAck, some "a=b", some 204, none⟩) ∧
    (⟨standardRoot⟩ : TopicScheme).topic (.response 204 none) "a=b"
        = .error (.invalidTopic (.reservedCharacter "a=b")) ∧
    ¬ ∀ (s : TopicScheme) (topic : String) (r : Response) (n : Nat) (id : String),
      s.classify topic = .ok (some r) → r.status = some n → r.correlationId = some id →
      checkId id = .ok () ∧ ∃ topic', s.topic (.response n r.version) id = .ok topic' ∧
        s.classify topic' = .ok (some r) := by
  have hclassify : (⟨standardRoot⟩ : TopicScheme).classify "$iothub/twin/res/204/?$rid=a=b"
      = .ok (some ⟨.reportedAck, some "a=b", some 204, none⟩) := by decide +kernel
  have hcheck : checkId "a=b" = .error (.reservedCharacter "a=b") := by decide +kernel
  refine ⟨hclassify, by rw [TopicScheme.topic, hcheck], fun hclaim => ?_⟩
  obtain ⟨hok, -⟩ := hclaim _ _ _ _ _ hclassify rfl rfl
  rw [hcheck] at hok
  cases hok

end DeviceTwin.TopicScheme
