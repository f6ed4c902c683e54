import DeviceTwin.Json.Printer

/-!
# The text of containers, part by part

The printer puts commas between the parts of a container. Whoever writes a container part by part
puts a comma in front of each part but the first. Both give the same text.

Results:
* `intercalate_eq_listed`: commas between parts are commas in front of all parts but the first.
* `render_array`, `render_object`: the text of a container is that of its parts.
* `Value.render_ne_nil`: no value has an empty text.
-/
namespace DeviceTwin.Json

/-- The comma in front of a part, where one is due. -/
def comma (due : Bool) : List Char := if due then [','] else []

/-- Texts one behind the other, with a comma in front of each but, unless one is due, the first. -/
def listed : (due : Bool) → List (List Char) → List Char
  | _, [] => []
  | due, t :: ts => comma due ++ t ++ listed true ts

def memberText (m : String × Value) : List Char := quoted m.1 ++ ':' :: m.2.render

def itemsText (vs : List Value) : List Char := listed false (Value.renderItems vs)

def membersText (due : Bool) (ms : Members) : List Char := listed due (Value.renderMembers ms)

@[simp] theorem comma_true : comma true = [','] := rfl

@[simp] theorem comma_false : comma false = [] := rfl

@[simp] theorem listed_nil (due : Bool) : listed due [] = [] := rfl

@[simp] theorem listed_cons (due : Bool) (t : List Char) (ts : List (List Char)) :
    listed due (t :: ts) = comma due ++ t ++ listed true ts := rfl

theorem listed_append (due : Bool) (ts us : List (List Char)) :
    listed due (ts ++ us) = listed due ts ++ listed (due || !ts.isEmpty) us := by
  induction ts generalizing due with
  | nil => simp
  | cons t ts ih => simp [ih]

/-- Commas between parts are commas in front of all parts but the first. -/
theorem intercalate_eq_listed (ts : List (List Char)) : [','].intercalate ts = listed false ts := by
  induction ts with
  | nil => rfl
  | cons t ts ih =>
    cases ts with
    | nil => simp
    | cons u ts =>
      rw [List.intercalate_cons_cons, ih]
      simp

@[simp] theorem isEmpty_renderItems (vs : List Value) :
    (Value.renderItems vs).isEmpty = vs.isEmpty := by
  cases vs <;> rfl

@[simp] theorem isEmpty_renderMembers (ms : Members) :
    (Value.renderMembers ms).isEmpty = ms.isEmpty := by
  cases ms <;> rfl

theorem renderItems_append (vs ws : List Value) :
    Value.renderItems (vs ++ ws) = Value.renderItems vs ++ Value.renderItems ws := by
  induction vs with
  | nil => rfl
  | cons v vs ih => rw [List.cons_append, Value.renderItems, ih, Value.renderItems, List.cons_append]

theorem renderMembers_append (ms ns : Members) :
    Value.renderMembers (ms ++ ns) = Value.renderMembers ms ++ Value.renderMembers ns := by
  induction ms with
  | nil => rfl
  | cons m ms ih =>
    obtain ⟨n, v⟩ := m
    rw [List.cons_append, Value.renderMembers, ih, Value.renderMembers, List.cons_append]

@[simp] theorem membersText_nil (due : Bool) : membersText due [] = [] := rfl

@[simp] theorem membersText_cons (due : Bool) (m : String × Value) (ms : Members) :
    membersText due (m :: ms) = comma due ++ memberText m ++ membersText true ms := rfl

theorem membersText_append (due : Bool) (ms ns : Members) :
    membersText due (ms ++ ns) = membersText due ms ++ membersText (due || !ms.isEmpty) ns := by
  simp only [membersText, renderMembers_append, listed_append, isEmpty_renderMembers]

theorem itemsText_concat (vs : List Value) (v : Value) :
    itemsText (vs ++ [v]) = itemsText vs ++ comma (!vs.isEmpty) ++ v.render := by
  simp [itemsText, renderItems_append, listed_append, Value.renderItems]

theorem itemsText_singleton (v : Value) : itemsText [v] = v.render := by
  simp [itemsText, Value.renderItems]

theorem render_array (vs : List Value) : (Value.array vs).render = '[' :: itemsText vs ++ [']'] := by
  rw [Value.render, intercalate_eq_listed]
  rfl

theorem render_object (ms : Members) :
    (Value.object ms).render = '{' :: membersText false ms ++ ['}'] := by
  rw [Value.render, intercalate_eq_listed]
  rfl

theorem Number.render_ne_nil (n : Number) : n.render ≠ [] := by
  have htext : ∀ (layout : Decimal.Layout) (d : Decimal.Digits), layout.text d ≠ [] := by
    intro layout d
    unfold Decimal.Layout.text
    split
    · split
      · unfold Decimal.positional
        split <;> simp
      · simp
    · simp [Decimal.scientific]
  cases n with
  | integer n =>
    show Integer.integer n ≠ []
    unfold Integer.integer
    split
    · exact List.cons_ne_nil _ _
    · exact Integer.natural_ne_nil _
  | double word =>
    dsimp only [Number.render]
    split
    · exact List.cons_ne_nil _ _
    · exact htext _ _

theorem Value.render_ne_nil (v : Value) : v.render ≠ [] := by
  cases v with
  | null => simp [Value.render]
  | bool b => cases b <;> simp [Value.render]
  | number n => exact n.render_ne_nil
  | string s => simp [Value.render, quoted]
  | array items => simp [Value.render]
  | object members => simp [Value.render]

end DeviceTwin.Json
