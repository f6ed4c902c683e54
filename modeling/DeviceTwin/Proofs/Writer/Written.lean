import DeviceTwin.Proofs.Json.Commas
import DeviceTwin.Proofs.Writer.Page

/-!
# What calls write

A writer does not count the values that stand in no container. Whoever begins only one of them finds
its text in the region as soon as it is complete. A second one is not refused: it is written behind a
comma, and then the region holds no JSON text any more.

Results:
* `written_of_calls`: which calls succeed, what the region holds behind them, and that it holds the
  text of the value that they describe where only one was begun.
* `values_of_calls`: where no container is open the region holds the texts of the values that were
  begun, and it holds a JSON text if there is one of them.
* `written_twice`: two values in a row leave no JSON text.
-/
namespace DeviceTwin.Writer

open Json (Value comma itemsText)
open Utf8 (encode)

namespace Trial

/-- No value is begun once one is complete that stands in no container. -/
def Single (t : Trial) : List Piece → Prop
  | [] => True
  | p :: ps =>
    (Pieces.isComplete t.accepted = true → p.beginsValue = false) ∧ (t.after p).Single ps

instance decidableSingle : (t : Trial) → (ps : List Piece) → Decidable (t.Single ps)
  | _, [] => isTrue trivial
  | t, p :: ps =>
    have := decidableSingle (t.after p) ps
    inferInstanceAs (Decidable ((_ = true → _ = false) ∧ _))

/-- At most one value was begun: none is complete, or one and nothing stands behind it. -/
structure AtMostOne (t : Trial) (g : Page) : Prop where
  page : Page.ofPieces t.accepted = some g
  holds : t.writer.Holds g
  records : t.writer.Records t.accepted
  values : g.values = [] ∨ ∃ v, g = ⟨[v], .blank, rfl⟩

theorem AtMostOne.isComplete {t : Trial} {v : Value} (h : t.AtMostOne ⟨[v], .blank, rfl⟩) :
    Pieces.isComplete t.accepted = true := by
  have hscopes : Pieces.openScopes t.accepted = [] := h.records.scopes.symm.trans h.holds.scopes
  have hne : t.accepted ≠ [] := by
    intro hnil
    have hpage := h.page
    rw [hnil] at hpage
    cases hpage
  rw [Pieces.isComplete, hscopes]
  simpa using hne

/-- A call that does not begin a second value leaves at most one. -/
theorem AtMostOne.after {t : Trial} {g : Page} {p : Piece} (h : t.AtMostOne g)
    (hp : Pieces.isComplete t.accepted = true → p.beginsValue = false) :
    ∃ g', (t.after p).AtMostOne g' := by
  rcases t.after_cases p with ⟨hrefusal, -, heq⟩ | heq
  · obtain ⟨g', hpush⟩ := h.holds.refusal?_eq_none_iff.1 hrefusal
    rw [heq]
    refine ⟨g', Page.ofPieces_concat h.page hpush, h.holds.appended hpush, h.records.appended p, ?_⟩
    obtain ⟨o, ho, rfl⟩ := Page.push_eq_some hpush
    rcases h.values with hnone | ⟨v, rfl⟩
    · rw [hnone]
      cases o with
      | blank | array | object | named => exact .inl rfl
      | whole v => exact .inr ⟨v, rfl⟩
    · have hbegins := Outline.push_blank_iff.1 ⟨o, ho⟩
      rw [hp h.isComplete] at hbegins
      cases hbegins
  · exact ⟨g, heq.symm ▸ h⟩

theorem AtMostOne.afterAll {t : Trial} {g : Page} {ps : List Piece} (h : t.AtMostOne g)
    (hps : t.Single ps) : ∃ g', (t.afterAll ps).AtMostOne g' := by
  induction ps generalizing t g with
  | nil => exact ⟨g, h⟩
  | cons p ps ih =>
    obtain ⟨hp, hps⟩ := hps
    obtain ⟨g', h'⟩ := h.after hp
    exact ih h' hps

theorem atMostOne_of (region : Bytes) : (of region).AtMostOne .empty :=
  ⟨rfl, ⟨rfl, rfl, rfl, rfl⟩, ⟨rfl, rfl, rfl, rfl⟩, .inl rfl⟩

end Trial

/-- What calls write. Over any room and behind any calls, of which each may have succeeded or failed,
a call succeeds if the grammar allows its piece behind those that were taken so far, and if its text
fits together with the comma that is due. The region holds the text of the pieces that were taken,
with a comma between neighbouring parts of a container and none elsewhere, and as many containers are
open as these pieces leave open. If no value was begun once one was complete, then wherever no
container is open and something is written, these pieces describe one value and the region holds its
text. -/
theorem written_of_calls (region : Bytes) (ps : List Piece) (t : Trial)
    (h : (Trial.of region).afterAll ps = t) :
    (∀ p, (∃ w, append p t.writer = .ok () w) ↔ Pieces.Allows t.accepted p ∧
      (encode (comma (Pieces.commaDue t.accepted p) ++ p.text)).length ≤ t.writer.remaining) ∧
    t.writer.written.length + t.writer.remaining = region.length ∧
    t.writer.written = encode (Pieces.text t.accepted) ∧
    t.writer.depth = (Pieces.openScopes t.accepted).length ∧
    ((Trial.of region).Single ps → t.writer.depth = 0 → t.writer.written ≠ [] →
      ∃ v, Page.ofPieces t.accepted = some ⟨[v], .blank, rfl⟩ ∧ t.writer.written = v.bytes) := by
  subst h
  have hrecords := records_afterAll region ps
  refine ⟨fun p => ?_, ?_, hrecords.written, congrArg List.length hrecords.scopes, ?_⟩
  · rw [append_ok_iff, hrecords.refusal?_eq_none_iff, hrecords.needed_eq]
  · have hcapacity := (Trial.of region).capacity_afterAll ps
    simpa [capacity, remaining, Trial.of, ofRegion] using hcapacity
  · intro hsingle hdepth hwritten
    obtain ⟨g, hone⟩ := (Trial.atMostOne_of region).afterAll hsingle
    have htext := hone.holds.written_eq hdepth
    rcases hone.values with hnone | ⟨v, rfl⟩
    · rw [hnone] at htext
      exact absurd htext hwritten
    · exact ⟨v, hone.page, by rw [htext, Json.itemsText_singleton, Value.bytes]⟩

/-- Calls of which some break the grammar and one does not fit. -/
def sampleCalls : List Piece := [
  .closing .object, .opening .object, .value .null, .name "a", .name "b", .closing .object,
  .opening .array, .value (.string "x"), .closing .object, .value (.object [("y", .null)]),
  .closing .array, .value (.string "no name"), .name "this name does not fit into the room", .name "c",
  .value (.number (.integer (-1))), .closing .object, .closing .object, .name "d"]

def sampleTaken : List Piece := [
  .opening .object, .name "a", .opening .array, .value (.string "x"), .value (.object [("y", .null)]),
  .closing .array, .name "c", .value (.number (.integer (-1))), .closing .object]

def sampleValue : Value := .object [
  ("a", .array [.string "x", .object [("y", .null)]]), ("c", .number (.integer (-1)))]

theorem written_of_calls_sample :
    (Trial.of (List.replicate 40 0)).Single sampleCalls ∧
      ((Trial.of (List.replicate 40 0)).afterAll sampleCalls).accepted = sampleTaken ∧
      Page.ofPieces sampleTaken = some ⟨[sampleValue], .blank, rfl⟩ ∧
      ((Trial.of (List.replicate 40 0)).afterAll sampleCalls).writer.written = sampleValue.bytes := by
  have hsingle : (Trial.of (List.replicate 40 0)).Single sampleCalls := by decide +kernel
  have htaken : ((Trial.of (List.replicate 40 0)).afterAll sampleCalls).accepted = sampleTaken := by
    decide +kernel
  have hpage : Page.ofPieces sampleTaken = some ⟨[sampleValue], .blank, rfl⟩ := rfl
  obtain ⟨-, -, -, -, hvalue⟩ := written_of_calls (List.replicate 40 0) sampleCalls _ rfl
  obtain ⟨v, hv, hbytes⟩ := hvalue hsingle (by decide +kernel) (by decide +kernel)
  rw [htaken, hpage] at hv
  cases hv
  exact ⟨hsingle, htaken, hpage, hbytes⟩

/-- Several values in a row. Over any room and behind any calls, of which each may have succeeded or
failed, let no container be open. Then the region holds the texts of the values that the calls
describe, with commas between them. If something is written, it is the text of a JSON value exactly
where they describe one value. Nothing but the want of room keeps a further value from being taken. -/
theorem values_of_calls (region : Bytes) (ps : List Piece) (t : Trial)
    (h : (Trial.of region).afterAll ps = t) (hdepth : t.writer.depth = 0) :
    ∃ values, Page.ofPieces t.accepted = some ⟨values, .blank, rfl⟩ ∧
      t.writer.written = encode (itemsText values) ∧
      (t.writer.written ≠ [] →
        ((∃ v : Value, t.writer.written = v.bytes) ↔ ∃ v, values = [v])) ∧
      ∀ p : Piece, p.beginsValue = true → ((∃ w, append p t.writer = .ok () w) ↔
        (encode (comma (!values.isEmpty) ++ p.text)).length ≤ t.writer.remaining) := by
  subst h
  obtain ⟨g, hpage, hholds⟩ := holds_afterAll region ps
  obtain ⟨values, rest, hrest⟩ := g
  obtain rfl : rest = .blank := hholds.rest_eq_blank hdepth
  have hwritten := hholds.written_eq hdepth
  refine ⟨values, hpage, hwritten, fun hne => ⟨?_, ?_⟩, fun p hp => ?_⟩
  · rintro ⟨u, hu⟩
    match values with
    | [] => exact absurd hwritten hne
    | [v] => exact ⟨v, rfl⟩
    | v :: w :: vs => exact absurd (hwritten.symm.trans hu) (Json.encode_itemsText_ne_bytes v w vs u)
  · rintro ⟨v, rfl⟩
    exact ⟨v, by rw [hwritten, Json.itemsText_singleton, Value.bytes]⟩
  · obtain ⟨o, ho⟩ := Outline.push_blank_iff.2 hp
    have hpush : (⟨values, .blank, rfl⟩ : Page).push p = some (Page.settle values o) := by
      rw [Page.push, ho]
      rfl
    have hseparator : (⟨values, .blank, rfl⟩ : Page).separator p = comma (!values.isEmpty) := by
      cases p with
      | value | opening =>
        simp [Page.separator, Page.separatorDue, Outline.valueDue]
      | name | closing => cases hp
    rw [append_ok_iff, hholds.needed_eq, hseparator,
      and_iff_right (hholds.refusal?_eq_none_iff.2 ⟨_, hpush⟩)]

theorem values_of_calls_sample :
    ((Trial.of (List.replicate 40 0)).afterAll [.value .null, .value .null, .name "a"]).writer.depth
        = 0 ∧
      ((Trial.of (List.replicate 40 0)).afterAll
          [.value .null, .value .null, .name "a"]).writer.written
        = encode (itemsText [.null, .null]) := by
  have hdepth : ((Trial.of (List.replicate 40 0)).afterAll
      [.value .null, .value .null, .name "a"]).writer.depth = 0 := by decide +kernel
  obtain ⟨values, hpage, hwritten, -, -⟩ := values_of_calls _ _ _ rfl hdepth
  have htaken : ((Trial.of (List.replicate 40 0)).afterAll
      [.value .null, .value .null, .name "a"]).accepted = [.value .null, .value .null] := by
    decide +kernel
  have hvalues : Page.ofPieces [.value .null, .value .null] = some ⟨[.null, .null], .blank, rfl⟩ := rfl
  rw [htaken, hvalues] at hpage
  cases hpage
  exact ⟨hdepth, hwritten⟩

/-- Two values in a row both succeed. No container is open and no name waits, and yet the region does
not hold the text of a value. -/
theorem written_twice :
    ∃ t, (Trial.of (List.replicate 16 0)).afterAll [.value .null, .value .null] = t ∧
      t.accepted = [.value .null, .value .null] ∧ t.writer.depth = 0 ∧ t.writer.valueDue = false ∧
      t.writer.written ≠ [] ∧ ∀ v : Value, t.writer.written ≠ v.bytes := by
  refine ⟨_, rfl, by decide +kernel, by decide +kernel, by decide +kernel, by decide +kernel, ?_⟩
  have hwritten : ((Trial.of (List.replicate 16 0)).afterAll
      [.value .null, .value .null]).writer.written = encode (itemsText [.null, .null]) := by
    decide +kernel
  rw [hwritten]
  exact Json.encode_itemsText_ne_bytes .null .null []

end DeviceTwin.Writer
