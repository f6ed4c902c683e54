import DeviceTwin.Proofs.Topic.Numbered
import DeviceTwin.Proofs.Topic.Query

/-!
# Recognising topics of one's own

A topic that a scheme builds is classified by the same scheme. The root is taken off as it stands,
whatever it holds, so that only the operation behind it decides. In an answer the status ends at the
slash in front of the query, and the query falls into the pieces that were put into it because
neither a correlation id nor a number has an ampersand.

Results:
* `classify_of_answer`, `classify_of_other`: what lies below the root decides alone.
* `classify_operation`: an answer is recognised with its status, its correlation id and its version.
* `classify_sent`: what a device sends is no incoming topic.
* `classify_topic`: both, for all correlation ids that a topic may have.
-/
namespace DeviceTwin.TopicScheme

section Below

variable (s : TopicScheme) {topic : String} {below : List Char}

theorem classify_of_answer
    (h : topic.toList = s.root.toList ++ "/twin/".toList ++ ("res/".toList ++ below)) :
    s.classify topic = ((readAnswer topic below).map some).mapError .invalidTopic := by
  rw [classify, h, strip?_append]
  simp only [strip?_append]

theorem classify_of_other (h : topic.toList = s.root.toList ++ "/twin/".toList ++ below)
    (hanswer : strip? "res/".toList below = none)
    (hchange : strip? desiredPath.toList below = none) : s.classify topic = .ok none := by
  rw [classify, h, strip?_append]
  simp only [hanswer, hchange]

end Below

/-! ## Correlation ids -/

theorem ne_nil_of_checkId {id : String} (h : checkId id = .ok ()) : id.toList ≠ [] := by
  intro he
  rw [checkId, if_pos he] at h
  cases h

theorem isReserved_of_checkId {id : String} (h : checkId id = .ok ()) :
    ∀ c ∈ id.toList, isReserved c = false := by
  rw [checkId, if_neg (ne_nil_of_checkId h)] at h
  split at h
  · cases h
  · next hany =>
    intro c hc
    exact Bool.eq_false_iff.2 fun hr => hany (List.any_eq_true.2 ⟨c, hc, hr⟩)

theorem amp_not_mem_of_checkId {id : String} (h : checkId id = .ok ()) : '&' ∉ id.toList :=
  fun hc => absurd (isReserved_of_checkId h _ hc) (by decide)

/-! ## Answers -/

def answerPieces (id : String) (version : Option Int) : List (List Char) :=
  piece idKey id.toList :: (version.map fun v => piece versionKey (Integer.integer v)).toList

theorem toList_operation_response (id : String) (status : Nat) (version : Option Int) :
    (operation id (.response status version)).toList
      = "/res/".toList ++ (Integer.natural status ++ '/' :: '?' ::
          ['&'].intercalate (answerPieces id version)) := by
  have hslash : "/?".toList = ['/', '?'] := rfl
  have hequals : "=".toList = ['='] := rfl
  have hamp : "&".toList = ['&'] := rfl
  unfold operation
  cases version with
  | none =>
    simp only [answerPieces, piece, String.toList_append, Integer.ofNat, String.toList_ofList,
      hslash, hequals, Option.map_none, Option.toList_none, List.intercalate_singleton,
      List.append_assoc, List.cons_append, List.nil_append]
  | some v =>
    simp only [answerPieces, piece, String.toList_append, Integer.ofNat, Integer.ofInt,
      String.toList_ofList, hslash, hequals, hamp, Option.map_some, Option.toList_some,
      List.intercalate_cons_cons, List.intercalate_singleton, List.append_assoc, List.cons_append,
      List.nil_append]

section Answer

variable (topic : String) {id : String} (hne : id.toList ≠ []) (hamp : '&' ∉ id.toList)
  {status : Nat} (hstatus : status ≤ maxStatus) {version : Option Int}
  (hversion : ∀ v ∈ version, -((maxVersion + 1 : Nat) : Int) ≤ v ∧ v ≤ (maxVersion : Int))

include hamp in
theorem amp_not_mem_answerPieces : ∀ p ∈ answerPieces id version, '&' ∉ p := by
  have hpiece : ∀ key value, '&' ∉ String.toList key → '&' ∉ value → '&' ∉ piece key value := by
    intro key value hkey hvalue
    simp [piece, hkey, hvalue]
  intro p hp
  rcases List.mem_cons.1 hp with rfl | hp
  · exact hpiece _ _ (by decide) hamp
  · obtain ⟨v, -, rfl⟩ : ∃ v, version = some v ∧ piece versionKey (Integer.integer v) = p := by
      simpa using hp
    refine hpiece _ _ (by decide) fun hc => ?_
    rcases Integer.mem_integer hc with h | h
    · exact absurd h (by decide)
    · exact absurd h (by decide)

include hne hamp hversion in
theorem read_answerPieces : Query.read topic (['&'].intercalate (answerPieces id version))
    = .ok ⟨some id, version⟩ := by
  have hpieces : ∀ p ∈ answerPieces id version, p ≠ [] := by
    intro p hp
    rcases List.mem_cons.1 hp with rfl | hp
    · simp [piece]
    · obtain ⟨v, -, rfl⟩ : ∃ v, version = some v ∧ piece versionKey (Integer.integer v) = p := by
        simpa using hp
      simp [piece]
  rw [Query.read_pieces topic (amp_not_mem_answerPieces hamp) hpieces, answerPieces,
    List.foldlM_cons, Query.step_id topic _ hne, String.ofList_toList]
  cases version with
  | none => rfl
  | some v =>
    obtain ⟨hlow, hhigh⟩ := hversion v rfl
    show (do
      let q ← Query.step topic ⟨some id, none⟩ (piece versionKey (Integer.integer v))
      [].foldlM (Query.step topic) q) = _
    rw [Query.step_version topic _ hlow hhigh]
    rfl

include hne hamp hstatus hversion in
theorem readAnswer_operation :
    readAnswer topic (Integer.natural status ++ '/' :: '?' ::
        ['&'].intercalate (answerPieces id version))
      = .ok {
          kind := if status = Status.ok then .documentGet else .reportedAck
          correlationId := some id
          status := some status
          version := version } := by
  have hlevel : ∀ c ∈ Integer.natural status, (!endsLevel c) = true := by
    intro c hc
    have hdigit := Integer.isDigit_of_mem_natural hc
    have hends : endsLevel c = false := by
      refine Bool.or_eq_false_iff.2 ⟨decide_eq_false ?_, decide_eq_false ?_⟩
      · rintro rfl
        cases hdigit
      · rintro rfl
        cases hdigit
    rw [hends]
    rfl
  have hend : (!endsLevel '/') = false := rfl
  have hquery : ∀ query, queryPart ('/' :: '?' :: query) = query := fun _ => rfl
  rw [readAnswer, List.takeWhile_append_of_pos hlevel, List.dropWhile_append_of_pos hlevel,
    List.takeWhile_cons_of_neg (by rw [hend]; simp), List.dropWhile_cons_of_neg (by rw [hend]; simp),
    List.append_nil]
  simp only [Integer.readNatural_natural hstatus, hquery, read_answerPieces topic hne hamp hversion]

end Answer

/-! ## Topics -/

section Topic

variable (s : TopicScheme) {id : String} (hid : checkId id = .ok ())

include hid in
theorem topic_of_checkId (request : Request) :
    s.topic request id = .ok (s.base ++ operation id request) := by
  rw [topic, hid]

theorem toList_topic {request : Request} {below : List Char}
    (h : (operation id request).toList = '/' :: below) :
    (s.base ++ operation id request).toList = s.root.toList ++ "/twin/".toList ++ below := by
  have hsplit : "/twin/".toList = "/twin".toList ++ ['/'] := by decide
  rw [String.toList_append, h, base, String.toList_append, hsplit]
  simp

/-- An answer is recognised with its status, its correlation id and its version. The correlation id
may have any characters but ampersands. -/
theorem classify_operation (hne : id.toList ≠ []) (hamp : '&' ∉ id.toList) {status : Nat}
    (hstatus : status ≤ maxStatus) {version : Option Int}
    (hversion : ∀ v ∈ version, -((maxVersion + 1 : Nat) : Int) ≤ v ∧ v ≤ (maxVersion : Int)) :
    s.classify (s.base ++ operation id (.response status version)) = .ok (some {
      kind := if status = Status.ok then .documentGet else .reportedAck
      correlationId := some id
      status := some status
      version := version }) := by
  have hres : "/res/".toList = '/' :: "res/".toList := by decide
  have hop := toList_operation_response id status version
  rw [hres, List.cons_append] at hop
  rw [classify_of_answer s (toList_topic s hop), readAnswer_operation _ hne hamp hstatus hversion]
  rfl

include hid in
theorem classify_answer {status : Nat} (hstatus : status ≤ maxStatus) {version : Option Int}
    (hversion : ∀ v ∈ version, -((maxVersion + 1 : Nat) : Int) ≤ v ∧ v ≤ (maxVersion : Int)) :
    s.classify (s.base ++ operation id (.response status version)) = .ok (some {
      kind := if status = Status.ok then .documentGet else .reportedAck
      correlationId := some id
      status := some status
      version := version }) :=
  classify_operation s (ne_nil_of_checkId hid) (amp_not_mem_of_checkId hid) hstatus hversion

/-- What a device sends is no incoming topic. -/
theorem classify_sent {request : Request} (h : isSent request = true) :
    s.classify (s.base ++ operation id request) = .ok none := by
  cases request with
  | response _ _ => cases h
  | documentGet =>
    have hop : (operation id .documentGet).toList = '/' :: ("GET/?$rid=".toList ++ id.toList) := by
      unfold operation
      simp only [String.toList_append]
      rfl
    exact classify_of_other s (toList_topic s hop) rfl rfl
  | reportedPatch =>
    have hop : (operation id .reportedPatch).toList
        = '/' :: ("PATCH/properties/reported/?$rid=".toList ++ id.toList) := by
      unfold operation
      simp only [String.toList_append]
      rfl
    exact classify_of_other s (toList_topic s hop) rfl rfl

include hid in
/-- A scheme recognises the answers that it builds, and in them all that was put into them: the
correlation id, the status and the version, where there is one. The answer is a document if the
status is 200, and else an acknowledgement. The topics of what a device sends it does not take for
incoming ones. All this holds below any root. -/
theorem classify_topic :
    (∀ status version, status ≤ maxStatus →
      (∀ v ∈ version, -((maxVersion + 1 : Nat) : Int) ≤ v ∧ v ≤ (maxVersion : Int)) →
      ∃ topic, s.topic (.response status version) id = .ok topic ∧
        s.classify topic = .ok (some {
          kind := if status = Status.ok then .documentGet else .reportedAck
          correlationId := some id
          status := some status
          version := version })) ∧
    ∀ request, isSent request = true →
      ∃ topic, s.topic request id = .ok topic ∧ s.classify topic = .ok none := by
  constructor
  · intro status version hstatus hversion
    exact ⟨_, topic_of_checkId s hid _, classify_answer s hid hstatus hversion⟩
  · intro request hsent
    exact ⟨_, topic_of_checkId s hid _, classify_sent s hsent⟩

end Topic

/-- A root and a correlation id that look like parts of a topic, with the least version. -/
theorem classify_topic_sample :
    (∃ topic, (⟨"a/twin/res/?b&$rid=c"⟩ : TopicScheme).topic
        (.response 65535 (some (-9223372036854775808))) "$rid $version" = .ok topic ∧
      (⟨"a/twin/res/?b&$rid=c"⟩ : TopicScheme).classify topic
        = .ok (some ⟨.reportedAck, some "$rid $version", some 65535,
            some (-9223372036854775808)⟩)) ∧
    (∃ topic, (⟨""⟩ : TopicScheme).topic (.response 200 none) "é" = .ok topic ∧
      (⟨""⟩ : TopicScheme).classify topic = .ok (some ⟨.documentGet, some "é", some 200, none⟩)) ∧
    ∃ topic, (⟨"/twin/res/200/?$rid=1&"⟩ : TopicScheme).topic .reportedPatch "7" = .ok topic ∧
      (⟨"/twin/res/200/?$rid=1&"⟩ : TopicScheme).classify topic = .ok none :=
  ⟨(classify_topic _ rfl).1 65535 (some (-9223372036854775808)) (by decide) (by decide),
    (classify_topic _ rfl).1 200 none (by decide) (by decide),
    (classify_topic _ rfl).2 .reportedPatch rfl⟩

end DeviceTwin.TopicScheme
