import DeviceTwin.Proofs.Writer.Calls

/-!
# The values that calls describe

A page is what the pieces that a writer took describe: the values that are complete, and the outline
of the one that is being written. In no container the writer puts commas between values too. So the
text of a page is that of an array without its brackets, and the grammar is that of the outline.

Results:
* `Page.text_push`: a piece adds its own text, behind a comma where one is due.
* `Holds.appended`: a writer that holds a page holds the next one behind a piece.
* `holds_afterAll`: behind any calls a writer holds the page of the pieces that it took.
* `Holds.written_eq`: where no container is open, the texts of the values are all that is written.
-/
namespace DeviceTwin

open Json (Value comma itemsText)
open Utf8 (encode)

/-- Values that are complete, and the outline of the one behind them. -/
structure Page where
  values : List Value
  rest : Outline
  /-- A complete value is one of the `values`. -/
  unfinished : rest.isWhole = false

namespace Page

def empty : Page := ⟨[], .blank, rfl⟩

/-- The page with this outline behind the values. A value that is complete is put to them. -/
def settle (values : List Value) : Outline → Page
  | .blank => ⟨values, .blank, rfl⟩
  | .array items outer => ⟨values, .array items outer, rfl⟩
  | .object members outer => ⟨values, .object members outer, rfl⟩
  | .named members name outer => ⟨values, .named members name outer, rfl⟩
  | .whole v => ⟨values ++ [v], .blank, rfl⟩

def push (g : Page) (p : Piece) : Option Page := (g.rest.push p).map (settle g.values)

/-- What the pieces describe, one after the other. -/
def ofPieces (ps : List Piece) : Option Page := ps.foldlM push empty

def text (g : Page) : List Char :=
  match g.rest with
  | .blank => itemsText g.values
  | o => itemsText g.values ++ comma (!g.values.isEmpty) ++ o.text

def separatorDue (g : Page) : Bool :=
  match g.rest with
  | .blank => !g.values.isEmpty
  | o => o.separatorDue

def separator (g : Page) : Piece → List Char
  | .closing _ => []
  | _ => comma (g.separatorDue && !g.rest.valueDue)

theorem ofPieces_concat {ps : List Piece} {p : Piece} {g g' : Page} (h : ofPieces ps = some g)
    (hp : g.push p = some g') : ofPieces (ps ++ [p]) = some g' := by
  unfold ofPieces at h ⊢
  rw [List.foldlM_append, h]
  simpa using hp

theorem push_eq_some {g g' : Page} {p : Piece} (h : g.push p = some g') :
    ∃ o, g.rest.push p = some o ∧ g' = settle g.values o := by
  obtain ⟨o, ho, rfl⟩ := Option.map_eq_some_iff.1 h
  exact ⟨o, ho, rfl⟩

end Page

namespace Outline

/-- Where nothing is written yet only a value may begin. -/
theorem push_blank_iff {p : Piece} : (∃ o, blank.push p = some o) ↔ p.beginsValue = true := by
  cases p with
  | value v => exact ⟨fun _ => rfl, fun _ => ⟨_, rfl⟩⟩
  | opening scope => cases scope <;> exact ⟨fun _ => rfl, fun _ => ⟨_, rfl⟩⟩
  | name n => exact ⟨nofun, nofun⟩
  | closing scope => cases scope <;> exact ⟨nofun, nofun⟩

theorem eq_whole {o : Outline} (h : o.isWhole = true) : ∃ v, o = whole v := by
  cases o with
  | whole v => exact ⟨v, rfl⟩
  | blank | array | object | named => cases h

theorem push_whole (v : Value) (p : Piece) : (whole v).push p = none := by
  cases p with
  | value | name => rfl
  | opening scope | closing scope => cases scope <;> rfl

theorem pushAll_whole {v : Value} {ps : List Piece} {o : Outline}
    (h : (whole v).pushAll ps = some o) : ps = [] ∧ o = whole v := by
  cases ps with
  | nil =>
    cases h
    exact ⟨rfl, rfl⟩
  | cons p ps =>
    rw [pushAll, push_whole] at h
    cases h

theorem pushAll_append (o : Outline) (ps qs : List Piece) :
    o.pushAll (ps ++ qs) = (o.pushAll ps).bind fun o => o.pushAll qs := by
  induction ps generalizing o with
  | nil => rfl
  | cons p ps ih => simp only [List.cons_append, pushAll, ih, Option.bind_assoc]

/-- A writer that holds this outline alone. -/
def alone (o : Outline) : Writer := ⟨encode o.text, [], o.scopes, o.separatorDue, o.valueDue⟩

theorem shows_alone (o : Outline) : o.alone.Shows o := ⟨rfl, rfl, rfl, rfl⟩

theorem push_ne_blank {o o' : Outline} {p : Piece} (h : o.push p = some o') : o' ≠ blank := by
  rintro rfl
  have hshows := o.shows_alone.appended h
  cases p with
  | opening scope => exact absurd hshows.scopes (List.cons_ne_nil _ _)
  | name n => exact Bool.noConfusion hshows.valueDue
  | value v | closing scope => exact Bool.noConfusion hshows.separatorDue

/-- A piece opens and closes containers as it does in any row of pieces. -/
theorem scopes_push {o o' : Outline} {p : Piece} (h : o.push p = some o') :
    o'.scopes = p.scopesBehind o.scopes := by
  rw [← (o.shows_alone.appended h).scopes]
  cases p <;> rfl

theorem eq_blank_of_scopes {o : Outline} (hwhole : o.isWhole = false) (h : o.scopes = []) :
    o = blank := by
  cases o with
  | blank => rfl
  | array | object | named => cases h
  | whole => cases hwhole

end Outline

namespace Page

section Settle

variable (values : List Value) {o : Outline}

theorem settle_of_open (h : o.isWhole = false) : settle values o = ⟨values, o, h⟩ := by
  cases o with
  | whole v => cases h
  | blank | array | object | named => rfl

theorem text_settle (h : o ≠ .blank) :
    (settle values o).text = itemsText values ++ comma (!values.isEmpty) ++ o.text := by
  cases o with
  | blank => exact absurd rfl h
  | array | object | named => rfl
  | whole v => exact Json.itemsText_concat values v

theorem separatorDue_settle (h : o ≠ .blank) :
    (settle values o).separatorDue = o.separatorDue := by
  cases o with
  | blank => exact absurd rfl h
  | array | object | named => rfl
  | whole v => simp [settle, separatorDue, Outline.separatorDue]

variable (o)

theorem scopes_settle : (settle values o).rest.scopes = o.scopes := by
  cases o <;> rfl

theorem valueDue_settle : (settle values o).rest.valueDue = o.valueDue := by
  cases o <;> rfl

end Settle

theorem text_of_ne_blank {g : Page} (h : g.rest ≠ .blank) :
    g.text = itemsText g.values ++ comma (!g.values.isEmpty) ++ g.rest.text := by
  unfold text
  split
  · next hblank => exact absurd hblank h
  · rfl

theorem separator_of_ne_blank {g : Page} (h : g.rest ≠ .blank) (p : Piece) :
    g.separator p = g.rest.separator p := by
  have hdue : g.separatorDue = g.rest.separatorDue := by
    unfold separatorDue
    split
    · next hblank => exact absurd hblank h
    · rfl
  cases p with
  | closing => rfl
  | opening | name | value => simp only [separator, Outline.separator, hdue]

theorem text_push {g g' : Page} {p : Piece} (h : g.push p = some g') :
    g'.text = g.text ++ g.separator p ++ p.text := by
  obtain ⟨o, ho, rfl⟩ := push_eq_some h
  rw [text_settle _ (Outline.push_ne_blank ho), Outline.text_push ho]
  by_cases hrest : g.rest = .blank
  · -- The comma that the page owes stands in front of the first piece of the value.
    have hbegins : p.beginsValue = true := Outline.push_blank_iff.1 ⟨o, hrest ▸ ho⟩
    cases p with
    | value | opening =>
      simp [text, separator, separatorDue, hrest, Outline.text, Outline.separator,
        Outline.separatorDue, Outline.valueDue]
    | name | closing => cases hbegins
  · rw [text_of_ne_blank hrest, separator_of_ne_blank hrest]
    simp

end Page

namespace Writer

/-- A writer that has written this page. -/
structure Holds (w : Writer) (g : Page) : Prop where
  written : w.written = encode g.text
  scopes : w.scopes = g.rest.scopes
  separatorDue : w.separatorDue = g.separatorDue
  valueDue : w.valueDue = g.rest.valueDue

namespace Holds

variable {w : Writer} {g g' : Page} {p : Piece} (h : w.Holds g)
include h

theorem refusal?_eq_none_iff : w.refusal? p = none ↔ ∃ g', g.push p = some g' := by
  have halone : w.refusal? p = g.rest.alone.refusal? p := by
    have hname : w.atName = g.rest.alone.atName := by
      rw [atName, h.scopes, h.valueDue]
      rfl
    cases p with
    | opening | name | value => rw [refusal?, hname, refusal?]
    | closing scope =>
      rw [refusal?, h.scopes, h.valueDue]
      rfl
  have hshows := g.rest.shows_alone
  rw [halone, Page.push]
  cases hp : g.rest.push p with
  | none => simpa using hshows.refusal?_ne_none g.unfinished hp
  | some o => simpa using hshows.refusal?_eq_none hp

theorem needed_eq : w.needed p = encode (g.separator p ++ p.text) := by
  rw [Writer.needed_eq, h.separatorDue, h.valueDue]
  cases p <;> rfl

theorem appended (hp : g.push p = some g') : (w.appended p).Holds g' := by
  obtain ⟨o, ho, rfl⟩ := Page.push_eq_some hp
  have hshows := g.rest.shows_alone.appended ho
  have hblank := Outline.push_ne_blank ho
  refine ⟨?_, ?_, ?_, ?_⟩
  · show w.written ++ w.needed p = _
    rw [h.written, h.needed_eq, Page.text_push hp, List.append_assoc, ← Utf8.encode_append]
  · rw [Page.scopes_settle, Outline.scopes_push ho, ← h.scopes]
    cases p <;> rfl
  · rw [Page.separatorDue_settle _ hblank, ← hshows.separatorDue]
    rfl
  · rw [Page.valueDue_settle, ← hshows.valueDue]
    rfl

theorem rest_eq_blank (hdepth : w.depth = 0) : g.rest = .blank := by
  refine Outline.eq_blank_of_scopes g.unfinished ?_
  rw [← h.scopes]
  exact List.eq_nil_of_length_eq_zero hdepth

/-- Where no container is open, the texts of the values are all that is written. -/
theorem written_eq (hdepth : w.depth = 0) : w.written = encode (itemsText g.values) := by
  rw [h.written, Page.text, h.rest_eq_blank hdepth]

end Holds

/-- Behind any calls a writer holds the page of the pieces that it took. -/
theorem holds_afterAll (region : Bytes) (ps : List Piece) :
    ∃ g, Page.ofPieces ((Trial.of region).afterAll ps).accepted = some g ∧
      ((Trial.of region).afterAll ps).writer.Holds g := by
  refine Trial.afterAll_of_after
    (motive := fun t => ∃ g, Page.ofPieces t.accepted = some g ∧ t.writer.Holds g) ?_ ?_ ps
  · rintro t p ⟨g, hg, h⟩ hrefusal -
    obtain ⟨g', hp⟩ := h.refusal?_eq_none_iff.1 hrefusal
    exact ⟨g', Page.ofPieces_concat hg hp, h.appended hp⟩
  · exact ⟨.empty, rfl, rfl, rfl, rfl, rfl⟩

end Writer
end DeviceTwin
