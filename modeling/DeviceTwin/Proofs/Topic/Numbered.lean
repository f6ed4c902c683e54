import DeviceTwin.Topic

/-!
# Topics of numbered requests

A device takes numbers as correlation ids. The topic of such a request is always formed, and tells
which request it is and which number it has.

Results:
* `topic_ofNat`: every number makes a topic.
* `topicWithin_ofNat`, `writeTopic_ofNat`: it is used if it fits.
* `numbered_unique`, `request_unique`: different numbers and different requests have different topics.
-/
namespace DeviceTwin

theorem Integer.natural_injective {m n : Nat} (h : natural m = natural n) : m = n := by
  have hm := readMagnitude_natural (max m n) .tooLarge (Nat.le_max_left m n)
  have hn := readMagnitude_natural (max m n) .tooLarge (Nat.le_max_right m n)
  rw [h, hn] at hm
  cases hm
  rfl

namespace TopicScheme

theorem isReserved_of_isDigit {c : Char} (h : c.isDigit = true) : isReserved c = false := by
  refine decide_eq_false fun hc => ?_
  simp only [List.mem_cons, List.not_mem_nil, or_false] at hc
  rcases hc with rfl | rfl | rfl | rfl | rfl | rfl <;> exact absurd h (by decide)

theorem checkId_ofNat (n : Nat) : checkId (Integer.ofNat n) = .ok () := by
  have hany : (Integer.natural n).any isReserved = false := by
    refine List.any_eq_false.2 fun c hc => ?_
    rw [isReserved_of_isDigit (Integer.isDigit_of_mem_natural hc)]
    simp
  rw [checkId, Integer.ofNat, String.toList_ofList, if_neg (Integer.natural_ne_nil n), hany]
  rfl

variable (s : TopicScheme) (request : Request) (n : Nat)

def numbered : String := s.base ++ operation (Integer.ofNat n) request

theorem topic_ofNat : s.topic request (Integer.ofNat n) = .ok (s.numbered request n) := by
  rw [topic, checkId_ofNat]
  rfl

theorem topicWithin_ofNat (capacity : Nat) :
    s.topicWithin capacity request (Integer.ofNat n)
      = if (Utf8.ofText (s.numbered request n)).length ≤ capacity then .ok (s.numbered request n)
        else .error (.insufficientBuffer (Utf8.ofText (s.numbered request n)).length capacity) := by
  rw [topicWithin, topic_ofNat]

theorem writeTopic_ofNat (region : Bytes) :
    let bytes := Utf8.ofText (s.numbered request n)
    s.writeTopic request (Integer.ofNat n) region
      = if bytes.length ≤ region.length then (.ok bytes.length, bytes ++ region.drop bytes.length)
        else (.error (.insufficientBuffer bytes.length region.length), region) := by
  intro bytes
  rw [writeTopic, topicWithin_ofNat]
  by_cases h : bytes.length ≤ region.length
  · rw [if_pos h, if_pos h]
  · rw [if_neg h, if_neg h]

def isSent : Request → Bool
  | .response _ _ => false
  | _ => true

/-- The letter behind the first slash of an operation. -/
def letter : Request → Char
  | .documentGet => 'G'
  | .reportedPatch => 'P'
  | .response _ _ => 'r'

theorem letter_of_operation (id : String) (request : Request) :
    ∃ rest, (operation id request).toList = '/' :: letter request :: rest := by
  unfold operation
  cases request with
  | documentGet | reportedPatch =>
    simp only [String.toList_append]
    exact ⟨_, rfl⟩
  | response status version =>
    cases version <;> simp only [String.toList_append, List.append_assoc] <;> exact ⟨_, rfl⟩

/-- Equal topics of one scheme end in equal operations, which begin with the same letter. -/
theorem operation_of_numbered_eq {s : TopicScheme} {request request' : Request} {m n : Nat}
    (h : s.numbered request m = s.numbered request' n) :
    (operation (Integer.ofNat m) request).toList = (operation (Integer.ofNat n) request').toList ∧
      letter request = letter request' := by
  have hop : (operation (Integer.ofNat m) request).toList
      = (operation (Integer.ofNat n) request').toList := by
    have hall := congrArg String.toList h
    rw [numbered, numbered, String.toList_append, String.toList_append] at hall
    exact List.append_cancel_left hall
  refine ⟨hop, ?_⟩
  obtain ⟨rest, hrest⟩ := letter_of_operation (Integer.ofNat m) request
  obtain ⟨rest', hrest'⟩ := letter_of_operation (Integer.ofNat n) request'
  rw [hop, hrest'] at hrest
  exact (List.cons.inj (List.cons.inj hrest).2).1.symm

/-- Requests of different numbers have different topics. -/
theorem numbered_unique {s : TopicScheme} {request request' : Request} {m n : Nat}
    (hr : isSent request = true) (h : s.numbered request m = s.numbered request' n) : m = n := by
  obtain ⟨hop, hletter⟩ := operation_of_numbered_eq h
  refine Integer.natural_injective ?_
  unfold operation at hop
  cases request with
  | response _ _ => cases hr
  | documentGet =>
    cases request' with
    | documentGet => simpa [Integer.ofNat] using hop
    | reportedPatch | response _ _ => simp [letter] at hletter
  | reportedPatch =>
    cases request' with
    | reportedPatch => simpa [Integer.ofNat] using hop
    | documentGet | response _ _ => simp [letter] at hletter

theorem request_unique {s : TopicScheme} {request request' : Request} {m n : Nat}
    (hr : isSent request = true) (h : s.numbered request m = s.numbered request' n) :
    request = request' := by
  obtain ⟨-, hletter⟩ := operation_of_numbered_eq h
  cases request with
  | response _ _ => cases hr
  | documentGet | reportedPatch => cases request' <;> simp [letter] at hletter ⊢

end TopicScheme
end DeviceTwin
