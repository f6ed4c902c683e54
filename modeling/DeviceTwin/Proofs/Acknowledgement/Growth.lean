import DeviceTwin.CommandLine
import DeviceTwin.Proofs.Acknowledgement.Text

/-!
# The acknowledgement of one property

Its payload is written into ever larger room, until it fits or the limit is reached. Whatever the
room is, an attempt gives the whole text or fails for want of room, so that the attempts that fail
leave no trace in what comes of the last one.

Results:
* `bounded_write`: what comes of one attempt.
* `retries_grow`: the listed capacities are those of a loop that takes four times the room as long as
  it is too little and below the limit.
* `Bounded.grow_ok`, `Bounded.grow_full`: what comes of all attempts.
* `payload_up_to_limit`: a payload is the text of `toValue`, up to 65536 bytes.
-/
namespace DeviceTwin.Acknowledgement

open Json (Members Value membersText memberText quoted render_object)
open Utf8 (encode)

/-! ## One attempt -/

/-- A component is its name, its marker and its members. -/
theorem memberText_wrapper (c : String) (ms : Members) :
    memberText (c, wrapper ms) = quoted c ++ ':' :: '{'
      :: memberText (Component.markerKey, .string Component.markerValue)
      ++ membersText true ms ++ ['}'] := by
  simp [memberText, wrapper, render_object]

/-- The calls write the text of `toValue`. -/
theorem emits_single (s : Single) :
    Emits s.write (atRoot false)
      (encode (membersText false (inComponent s.component
        [(s.name, block s.code s.version s.description s.value)]) ++ ['}']))
      ⟨[], true, false, []⟩ := by
  obtain ⟨component, name, code, version, description, v⟩ := s
  cases component with
  | none =>
    have h := Emits.bind (s := atRoot false) emits_pure
      ((emits_beginStatus name code version description rfl).bind
        ((emits_value v).bind (emits_endStatus.bind (emits_pure.bind (emits_finish true)))))
    exact h.cast (by simp [inComponent, memberText_block])
  | some c =>
    have h := Emits.bind (s := atRoot false) (emits_beginComponent c)
      ((emits_beginStatus name code version description rfl).bind
        ((emits_value v).bind (emits_endStatus.bind (emits_endComponent.bind (emits_finish true)))))
    exact h.cast (by simp [inComponent, memberText_wrapper, memberText_block])

/-- In room of any size `make` gives these bytes, or the room is too small for them. -/
structure Bounded (make : Nat → Except PropertyError Bytes) (bs : Bytes) : Prop where
  fits : ∀ capacity, bs.length ≤ capacity → make capacity = .ok bs
  full : ∀ capacity, capacity < bs.length →
    ∃ required available, make capacity = .error (.insufficientBuffer required available)

theorem bounded_write (s : Single) :
    Bounded (fun capacity => within capacity s.write) s.toValue.bytes where
  fits _ h := within_ok (emits_single s) (bytes_object _) h
  full _ h := within_full (emits_single s) (bytes_object _) h

/-- The room that an attempt had does not show in what it gave. -/
theorem Bounded.eq_of_ok {make : Nat → Except PropertyError Bytes} {bs bs' : Bytes} {capacity : Nat}
    (h : Bounded make bs) (hok : make capacity = .ok bs') : bs' = bs := by
  by_cases hfits : bs.length ≤ capacity
  · rw [h.fits capacity hfits] at hok
    cases hok
    rfl
  · obtain ⟨required, available, he⟩ := h.full capacity (by omega)
    rw [he] at hok
    cases hok

namespace Single

/-! ## The schedule -/

section Retries

variable {α : Type} (make : Nat → Except PropertyError α) (limit : Nat)

/-- What comes of `make` when it is tried with four times the room as long as the room is too small
and below the limit, and the number of attempts. -/
inductive Retries : (capacity : Nat) → (outcome : Except PropertyError α) → (attempts : Nat) → Prop
  | last {capacity : Nat}
    (h : ∀ required available,
      make capacity = .error (.insufficientBuffer required available) → limit ≤ capacity) :
    Retries capacity (make capacity) 1
  | again {capacity required available attempts : Nat} {outcome : Except PropertyError α}
    (hfull : make capacity = .error (.insufficientBuffer required available))
    (hbelow : capacity < limit) (h : Retries (capacity * 4) outcome attempts) :
    Retries capacity outcome (attempts + 1)

/-- Each capacity is four times the one before, and only the last one reaches the limit. -/
def IsSchedule : (capacity : Nat) → (larger : List Nat) → Prop
  | capacity, [] => limit ≤ capacity
  | capacity, next :: larger => capacity < limit ∧ next = capacity * 4 ∧ IsSchedule next larger

variable {make limit} {capacity n m : Nat} {outcome outcome' : Except PropertyError α}

/-- The attempts come to one end only. -/
theorem Retries.unique (h : Retries make limit capacity outcome n)
    (h' : Retries make limit capacity outcome' m) : outcome' = outcome ∧ m = n := by
  induction h generalizing m with
  | last hlast =>
    cases h' with
    | last => exact ⟨rfl, rfl⟩
    | again hfull hbelow _ => exact absurd (hlast _ _ hfull) (Nat.not_le.2 hbelow)
  | again hfull hbelow _ ih =>
    cases h' with
    | last hlast => exact absurd (hlast _ _ hfull) (Nat.not_le.2 hbelow)
    | again _ _ hrest =>
      obtain ⟨rfl, rfl⟩ := ih hrest
      exact ⟨rfl, rfl⟩

/-- The capacities of a schedule are those of the attempts. -/
theorem retries_grow {larger : List Nat} (h : IsSchedule limit capacity larger) :
    ∃ n ≤ larger.length + 1, Retries make limit capacity (grow make capacity larger) n := by
  induction larger generalizing capacity with
  | nil => exact ⟨1, by simp, .last fun _ _ _ => h⟩
  | cons next larger ih =>
    obtain ⟨hbelow, rfl, hrest⟩ := h
    unfold grow
    split
    · next required available hfull =>
      obtain ⟨n, hn, hretries⟩ := ih hrest
      exact ⟨n + 1, by simp only [List.length_cons]; omega, .again hfull hbelow hretries⟩
    · next hother =>
      exact ⟨1, by simp, .last fun required available he => absurd he (hother required available)⟩

end Retries
end Single

/-! ## All attempts -/

namespace Bounded

variable {make : Nat → Except PropertyError Bytes} {bs : Bytes} {capacity : Nat} {larger : List Nat}

/-- Where one of the capacities is large enough, it is as if this one had been tried first. -/
theorem grow_ok (h : Bounded make bs) {c : Nat} (hc : c ∈ capacity :: larger)
    (hfits : bs.length ≤ c) : Single.grow make capacity larger = .ok bs := by
  induction larger generalizing capacity with
  | nil =>
    obtain rfl := List.mem_singleton.1 hc
    exact h.fits c hfits
  | cons next larger ih =>
    by_cases hfirst : bs.length ≤ capacity
    · unfold Single.grow
      rw [h.fits capacity hfirst]
    · obtain ⟨required, available, he⟩ := h.full capacity (by omega)
      have hrest : c ∈ next :: larger := by
        rcases List.mem_cons.1 hc with rfl | hrest
        · exact absurd hfits hfirst
        · exact hrest
      unfold Single.grow
      rw [he]
      exact ih hrest

/-- Where none of them is, the last attempt fails as all the others have done. -/
theorem grow_full (h : Bounded make bs)
    (hfull : ∀ c ∈ capacity :: larger, c < bs.length) :
    ∃ required available,
      Single.grow make capacity larger = .error (.insufficientBuffer required available) := by
  induction larger generalizing capacity with
  | nil => exact h.full capacity (hfull capacity (by simp))
  | cons next larger ih =>
    obtain ⟨required, available, he⟩ := h.full capacity (hfull capacity (by simp))
    unfold Single.grow
    rw [he]
    exact ih fun c hc => hfull c (List.mem_cons_of_mem _ hc)

end Bounded

namespace Single

theorem retries_payload (s : Single) :
    ∃ n ≤ 5, Retries (fun capacity => within capacity s.write) 65536 256 s.payload n := by
  have hschedule : IsSchedule 65536 firstCapacity largerCapacities := by
    simp [IsSchedule, firstCapacity, largerCapacities]
  unfold payload
  exact retries_grow hschedule

theorem payload_ok {s : Single} (h : s.toValue.bytes.length ≤ 65536) :
    s.payload = .ok s.toValue.bytes :=
  (bounded_write s).grow_ok (c := 65536) (by decide) h

theorem payload_full {s : Single} (h : 65536 < s.toValue.bytes.length) :
    ∃ required available, s.payload = .error (.insufficientBuffer required available) := by
  have hlast : ∀ c ∈ firstCapacity :: largerCapacities, c ≤ 65536 := by decide
  apply (bounded_write s).grow_full
  intro c hc
  exact Nat.lt_of_le_of_lt (hlast c hc) h

end Single

/-- The command that acknowledges a property, for any component, name, code, version, description
and value. Trying with four times the room from 256 bytes on ends after at most five attempts, and in
the payload. This is the text of `toValue` where that has at most 65536 bytes. Otherwise there is too
little room. What an attempt gives does not depend on the room that it had. -/
theorem payload_up_to_limit (s : Single) :
    (∃ n ≤ 5, ∀ outcome attempts,
      Single.Retries (fun capacity => within capacity s.write) 65536 256 outcome attempts ↔
        outcome = s.payload ∧ attempts = n) ∧
    (s.payload = .ok s.toValue.bytes ↔ s.toValue.bytes.length ≤ 65536) ∧
    (65536 < s.toValue.bytes.length →
      ∃ required available, s.payload = .error (.insufficientBuffer required available)) ∧
    (∀ capacity payload, within capacity s.write = .ok payload → payload = s.toValue.bytes) ∧
    (∀ text, Json.read (Utf8.ofText text) = .ok s.value →
      (s.toValue.bytes.length ≤ 65536 →
        CommandLine.acknowledge s.component s.name s.code s.version s.description text
          = .ok s.toValue.text) ∧
      (65536 < s.toValue.bytes.length → ∃ required available,
        CommandLine.acknowledge s.component s.name s.code s.version s.description text
          = .error (.property (.insufficientBuffer required available)))) := by
  refine ⟨?_, ⟨fun hok => ?_, Single.payload_ok⟩, Single.payload_full,
    fun _ _ hok => (bounded_write s).eq_of_ok hok, fun text hread => ⟨fun h => ?_, fun h => ?_⟩⟩
  · obtain ⟨n, hn, hretries⟩ := Single.retries_payload s
    refine ⟨n, hn, fun outcome attempts => ⟨hretries.unique, fun h => ?_⟩⟩
    rw [h.1, h.2]
    exact hretries
  · by_contra hlong
    obtain ⟨required, available, he⟩ := Single.payload_full (s := s) (by omega)
    rw [he] at hok
    cases hok
  · simp only [CommandLine.acknowledge, hread, Single.payload_ok h, Value.bytes,
      Utf8.decode_encode, Value.text]
  · obtain ⟨required, available, he⟩ := Single.payload_full h
    exact ⟨required, available, by simp only [CommandLine.acknowledge, hread, he]⟩

def thermostat : Single :=
  ⟨some "thermostat1", "targetTemperature", 203, 7, none, .number (.integer 21)⟩

theorem payload_up_to_limit_sample :
    CommandLine.acknowledge (some "thermostat1") "targetTemperature" 203 7 none "21"
      = .ok ("\x7b\"thermostat1\":\x7b\"__t\":\"c\",\"targetTemperature\":"
        ++ "\x7b\"ac\":203,\"av\":7,\"value\":21\x7d\x7d\x7d") := by
  have hread : Json.read (Utf8.ofText "21") = .ok thermostat.value := by decide +kernel
  have hfits : thermostat.toValue.bytes.length ≤ 65536 := by decide +kernel
  have htext : thermostat.toValue.text
      = "\x7b\"thermostat1\":\x7b\"__t\":\"c\",\"targetTemperature\":"
        ++ "\x7b\"ac\":203,\"av\":7,\"value\":21\x7d\x7d\x7d" := by decide +kernel
  rw [← htext]
  exact ((payload_up_to_limit thermostat).2.2.2.2 "21" hread).1 hfits

end DeviceTwin.Acknowledgement
