import DeviceTwin.Proofs.Topic.RoundTrip

/-!
# Topics below another root

A scheme takes its root and the separator `/twin/` off a topic as plain text, wherever the root of
the scheme that built the topic may end. The two readings of one text differ by the text between the
ends of the roots. The separator overlaps itself in its last slash only, so this text is `/twin`
where neither root contains the separator, and then no operation begins where it would have to.

Results:
* `overlap_cases`: where the separator is found a second time in a text that begins with it.
* `exists_operation_eq`: no operation begins as the separator goes on.
* `classify_below_other`: what lies below another root is no incoming topic.
* `classify_foreign`: so schemes of different roots do not hear each other.
-/
namespace DeviceTwin.TopicScheme

/-- Where the separator is found behind `r` in a text that begins with it, it is the same one, or
lies behind it, or shares its first slash with the last one of it. -/
theorem overlap_cases {r x y : List Char}
    (h : r ++ ("/twin/".toList ++ x) = "/twin/".toList ++ y) :
    r = [] ∨ "/twin/".toList <+: r ∨ y = "twin/".toList ++ x := by
  have hsep : "/twin/".toList = ['/', 't', 'w', 'i', 'n', '/'] := rfl
  rw [hsep] at h ⊢
  match r with
  | [] => exact .inl rfl
  | [a] | [a, b] | [a, b, c] | [a, b, c, d] => simp at h
  | [a, b, c, d, e] =>
    simp only [List.cons_append, List.nil_append, List.cons.injEq, true_and] at h
    exact .inr (.inr h.2.2.2.2.2.symm)
  | a :: b :: c :: d :: e :: f :: r =>
    simp only [List.cons_append, List.nil_append, List.cons.injEq] at h
    obtain ⟨rfl, rfl, rfl, rfl, rfl, rfl, -⟩ := h
    exact .inr (.inl ⟨r, rfl⟩)

/-- No operation begins as the separator goes on behind its first slash. -/
theorem exists_operation_eq (id : String) (request : Request) :
    ∃ below, (operation id request).toList = '/' :: below ∧ below.head? ≠ some 't' := by
  cases request with
  | documentGet =>
    refine ⟨"GET/?$rid=".toList ++ id.toList, ?_, by simp⟩
    unfold operation
    simp only [String.toList_append]
    rfl
  | reportedPatch =>
    refine ⟨"PATCH/properties/reported/?$rid=".toList ++ id.toList, ?_, by simp⟩
    unfold operation
    simp only [String.toList_append]
    rfl
  | response status version =>
    refine ⟨"res/".toList ++ (Integer.natural status ++ '/' :: '?' ::
      ['&'].intercalate (answerPieces id version)), ?_, by simp⟩
    rw [toList_operation_response]
    rfl

section Foreign

variable {p q : TopicScheme} (hroots : p.root ≠ q.root)
  (hp : ¬ "/twin/".toList <:+: p.root.toList) (hq : ¬ "/twin/".toList <:+: q.root.toList)

include hroots hp hq

/-- What lies below another root is no incoming topic, unless it goes on as the separator does. -/
theorem classify_below_other {topic : String} {below : List Char}
    (htopic : topic.toList = p.root.toList ++ "/twin/".toList ++ below)
    (hbelow : below.head? ≠ some 't') : q.classify topic = .ok none := by
  unfold classify
  cases hstrip : strip? (q.root.toList ++ "/twin/".toList) topic.toList with
  | none => rfl
  | some rest =>
    have htwice := strip?_eq_some_iff.1 hstrip
    rw [htopic, List.append_assoc, List.append_assoc] at htwice
    -- The longer of the roots is the shorter one with `r` behind it.
    rcases List.append_eq_append_iff.1 htwice with ⟨r, hroot, hover⟩ | ⟨r, hroot, hover⟩
    · rcases overlap_cases hover.symm with hr | hr | hr
      · rw [hr, List.append_nil, String.toList_inj] at hroot
        exact absurd hroot.symm hroots
      · exact absurd (hroot ▸ hr.isInfix.trans (List.suffix_append _ r).isInfix) hq
      · rw [hr] at hbelow
        exact absurd rfl hbelow
    · rcases overlap_cases hover.symm with hr | hr | hr
      · rw [hr, List.append_nil, String.toList_inj] at hroot
        exact absurd hroot hroots
      · exact absurd (hroot ▸ hr.isInfix.trans (List.suffix_append _ r).isInfix) hp
      · subst hr
        rfl

/-- Schemes of different roots do not hear each other. If neither root contains the separator then
no topic that one of them builds, for any request and any correlation id that a topic may have, is
an incoming topic for the other. One root may be the start of the other, or end as the base does. -/
theorem classify_foreign (request : Request) {id : String} (hid : checkId id = .ok ()) :
    ∃ topic, p.topic request id = .ok topic ∧ q.classify topic = .ok none := by
  obtain ⟨below, hoperation, hbelow⟩ := exists_operation_eq id request
  refine ⟨_, topic_of_checkId p hid request, ?_⟩
  exact classify_below_other hroots hp hq (toList_topic p hoperation) hbelow

end Foreign

/-- A root that contains the separator can be heard by another scheme: here a request for the
document, as a change of desired properties. -/
example : (⟨"x"⟩ : TopicScheme).classify
      ((⟨"x/twin/PATCH/properties/desired"⟩ : TopicScheme).base ++ operation "1" .documentGet)
    = .ok (some ⟨.desiredPatch, none, none, none⟩) := by
  rfl

/-- A root, and the same with the start of the separator behind it: either way around. -/
theorem classify_foreign_sample :
    (∃ topic, (⟨"$iothub/twin"⟩ : TopicScheme).topic (.response 200 (some 5)) "7" = .ok topic ∧
      (⟨"$iothub"⟩ : TopicScheme).classify topic = .ok none) ∧
    ∃ topic, (⟨"$iothub"⟩ : TopicScheme).topic (.response 200 none) "twin" = .ok topic ∧
      (⟨"$iothub/twin"⟩ : TopicScheme).classify topic = .ok none := by
  have hroots : (⟨"$iothub/twin"⟩ : TopicScheme).root ≠ (⟨"$iothub"⟩ : TopicScheme).root := by
    decide
  have hshort : ¬ "/twin/".toList <:+: (⟨"$iothub"⟩ : TopicScheme).root.toList := fun h =>
    absurd (h.sublist.count_le '/') (by decide)
  have hlong : ¬ "/twin/".toList <:+: (⟨"$iothub/twin"⟩ : TopicScheme).root.toList := fun h =>
    absurd (h.sublist.count_le '/') (by decide)
  have hnumber : checkId "7" = .ok () := rfl
  have htext : checkId "twin" = .ok () := rfl
  exact ⟨classify_foreign hroots hlong hshort (.response 200 (some 5)) hnumber,
    classify_foreign hroots.symm hshort hlong (.response 200 none) htext⟩

end DeviceTwin.TopicScheme
