import DeviceTwin.Proofs.Json.Text

/-!
# Commas outside of containers

In the text of a value every comma stands within a container or within a string. A scan over the text
counts the open containers and knows whether it is within a string. It stops at the first comma that
is in neither, and over the text of a value it comes back to where it began.

Results:
* `scan_render`: the text of a value takes the scan back to its place.
* `itemsText_ne_render`: the texts of several values with commas between them are not that of a value.
-/
namespace DeviceTwin.Json

/-- Where a scan over a text stands, with the number of containers around it. -/
inductive Place where
  | outside (depth : Nat)
  /-- Within a string. -/
  | inText (depth : Nat)
  /-- Within a string, behind a backslash. -/
  | escaped (depth : Nat)

namespace Place

/-- The place behind a character, unless it is a comma outside of all containers and strings. -/
def next? : Place → Char → Option Place
  | outside depth, c =>
    if c = '"' then some (inText depth)
    else if c = '[' ∨ c = '{' then some (outside (depth + 1))
    else if c = ']' ∨ c = '}' then some (outside (depth - 1))
    else if c = ',' ∧ depth = 0 then none
    else some (outside depth)
  | inText depth, c =>
    if c = '"' then some (outside depth)
    else if c = '\\' then some (escaped depth)
    else some (inText depth)
  | escaped depth, _ => some (inText depth)

def scan (place : Place) (cs : List Char) : Option Place := cs.foldlM next? place

@[simp] theorem scan_nil (place : Place) : place.scan [] = some place := rfl

theorem scan_cons (place : Place) (c : Char) (cs : List Char) :
    place.scan (c :: cs) = (place.next? c).bind fun place => place.scan cs := rfl

theorem scan_append {place place' : Place} {cs : List Char} (h : place.scan cs = some place')
    (ds : List Char) : place.scan (cs ++ ds) = place'.scan ds := by
  unfold scan at h ⊢
  rw [List.foldlM_append, h]
  rfl

end Place

open Place

/-! ## Numbers -/

/-- A character that means nothing to the scan outside of strings. -/
def isBare (c : Char) : Bool := c ∉ ['"', '[', '{', ']', '}', ',']

theorem scan_bare {cs : List Char} (h : ∀ c ∈ cs, isBare c = true) (depth : Nat) :
    (outside depth).scan cs = some (outside depth) := by
  induction cs with
  | nil => rfl
  | cons c cs ih =>
    have hc := of_decide_eq_true (h c List.mem_cons_self)
    simp only [List.mem_cons, List.not_mem_nil, or_false, not_or] at hc
    obtain ⟨hquote, hbracket, hbrace, hbracket', hbrace', hcomma⟩ := hc
    have hnext : (outside depth).next? c = some (outside depth) := by
      simp [next?, hquote, hbracket, hbrace, hbracket', hbrace', hcomma]
    rw [scan_cons, hnext]
    exact ih fun d hd => h d (List.mem_cons_of_mem _ hd)

theorem isBare_of_isDigit {c : Char} (h : c.isDigit = true) : isBare c = true := by
  refine decide_eq_true fun hc => ?_
  simp only [List.mem_cons, List.not_mem_nil, or_false] at hc
  rcases hc with rfl | rfl | rfl | rfl | rfl | rfl <;> exact absurd h (by decide)

theorem isBare_natural (n : Nat) : ∀ c ∈ Integer.natural n, isBare c = true :=
  fun _ hc => isBare_of_isDigit (Integer.isDigit_of_mem_natural hc)

theorem isBare_integer (n : Int) : ∀ c ∈ Integer.integer n, isBare c = true := by
  intro c hc
  rcases Integer.mem_integer hc with rfl | hdigit
  · rfl
  · exact isBare_of_isDigit hdigit

theorem isBare_search (i : Decimal.Interval) (leading : Int) (count tries : Nat) :
    ∀ c ∈ (Decimal.search i leading count tries).digits, isBare c = true := by
  induction tries generalizing count with
  | zero =>
    intro c hc
    rw [List.mem_singleton.1 hc]
    rfl
  | succ tries ih =>
    intro c hc
    rw [Decimal.search] at hc
    split at hc
    · dsimp only at hc
      split at hc
      · exact isBare_natural _ c hc
      · exact isBare_natural _ c (List.mem_of_mem_take hc)
    · exact ih _ c hc

theorem isBare_shortest (word : Nat) : ∀ c ∈ (Decimal.shortest word).digits, isBare c = true := by
  intro c hc
  unfold Decimal.shortest at hc
  split at hc
  · rw [List.mem_singleton.1 hc]
    rfl
  · exact isBare_search _ _ _ _ c hc

section Layout

variable {digits : List Char} (h : ∀ c ∈ digits, isBare c = true)
include h

theorem isBare_positional (n : Nat) : ∀ c ∈ Decimal.positional digits n, isBare c = true := by
  intro c hc
  unfold Decimal.positional at hc
  split at hc
  · simp only [List.mem_append, List.mem_replicate, List.mem_cons, List.not_mem_nil, or_false] at hc
    rcases hc with (hc | ⟨-, rfl⟩) | rfl | rfl
    · exact h c hc
    all_goals rfl
  · rcases List.mem_append.1 hc with hc | hc
    · exact h c (List.mem_of_mem_take hc)
    · rcases List.mem_cons.1 hc with rfl | hc
      · rfl
      · exact h c (List.mem_of_mem_drop hc)

theorem isBare_scientific (leading : Int) :
    ∀ c ∈ Decimal.scientific ⟨digits, leading⟩, isBare c = true := by
  intro c hc
  unfold Decimal.scientific at hc
  simp only [List.mem_append, List.mem_cons] at hc
  rcases hc with (hc | hc) | rfl | rfl | hc
  · exact h c (List.mem_of_mem_take hc)
  · split at hc
    · cases hc
    · rcases List.mem_cons.1 hc with rfl | hc
      · rfl
      · exact h c (List.mem_of_mem_drop hc)
  · rfl
  · split <;> rfl
  · exact isBare_natural _ c hc

theorem isBare_text (layout : Decimal.Layout) (leading : Int) :
    ∀ c ∈ layout.text ⟨digits, leading⟩, isBare c = true := by
  intro c hc
  unfold Decimal.Layout.text at hc
  split at hc
  · split at hc
    · exact isBare_positional h _ c hc
    · simp only [List.mem_cons, List.mem_append, List.mem_replicate] at hc
      rcases hc with rfl | rfl | ⟨-, rfl⟩ | hc
      · rfl
      · rfl
      · rfl
      · exact h c hc
  · exact isBare_scientific h leading c hc

end Layout

theorem isBare_number (n : Number) : ∀ c ∈ n.render, isBare c = true := by
  cases n with
  | integer n => exact isBare_integer n
  | double word =>
    have hmagnitude := isBare_text (isBare_shortest (word.toNat % twoPow 63)) Number.layout
    intro c hc
    unfold Number.render at hc
    dsimp only at hc
    split at hc
    · rcases List.mem_cons.1 hc with rfl | hc
      · rfl
      · exact hmagnitude _ c hc
    · exact hmagnitude _ c hc

/-! ## Strings -/

/-- An escape takes the scan back into the string. -/
theorem scan_escape (c : Char) (depth : Nat) :
    (inText depth).scan (escape c) = some (inText depth) := by
  unfold escape
  split
  · rfl
  split
  · rfl
  split
  · next hquote hback _ => simp [scan_cons, next?, hquote, hback]
  iterate 5
    split
    · rfl
  -- The digits of a control character are no quotes and no backslashes.
  have hdigit : ∀ n : Fin 16, Nat.digitChar n.val ≠ '"' ∧ Nat.digitChar n.val ≠ '\\' := by decide
  next hlarge _ _ _ _ _ =>
    have hsmall : c.toNat < 0x20 := by omega
    obtain ⟨hquote, hback⟩ := hdigit ⟨c.toNat / 16, by omega⟩
    obtain ⟨hquote', hback'⟩ := hdigit ⟨c.toNat % 16, by omega⟩
    simp only at hquote hback hquote' hback'
    simp [scan_cons, next?, hquote, hback, hquote', hback']

theorem scan_quoted (s : String) (depth : Nat) :
    (outside depth).scan (quoted s) = some (outside depth) := by
  have htext : ∀ cs : List Char, (inText depth).scan (cs.flatMap escape) = some (inText depth) := by
    intro cs
    induction cs with
    | nil => rfl
    | cons c cs ih => rw [List.flatMap_cons, scan_append (scan_escape c depth), ih]
  show (inText depth).scan (s.toList.flatMap escape ++ ['"']) = _
  rw [scan_append (htext _)]
  rfl

/-! ## Values -/

theorem scan_listed {ts : List (List Char)}
    (h : ∀ t ∈ ts, ∀ depth, (outside depth).scan t = some (outside depth)) (depth : Nat)
    (due : Bool) : (outside (depth + 1)).scan (listed due ts) = some (outside (depth + 1)) := by
  induction ts generalizing due with
  | nil => rfl
  | cons t ts ih =>
    have hcomma : (outside (depth + 1)).scan (comma due) = some (outside (depth + 1)) := by
      cases due <;> rfl
    rw [listed_cons, List.append_assoc, scan_append hcomma,
      scan_append (h t List.mem_cons_self _)]
    exact ih (fun t' ht' => h t' (List.mem_cons_of_mem _ ht')) true

/-- An array or object of texts that take the scan back takes it back as well. -/
theorem scan_container {ts : List (List Char)}
    (h : ∀ t ∈ ts, ∀ depth, (outside depth).scan t = some (outside depth)) (depth : Nat)
    {first last : Char} (hfirst : (outside depth).next? first = some (outside (depth + 1)))
    (hlast : (outside (depth + 1)).next? last = some (outside depth)) :
    (outside depth).scan (first :: listed false ts ++ [last]) = some (outside depth) := by
  rw [List.cons_append, scan_cons, hfirst, Option.bind_some, scan_append (scan_listed h depth false),
    scan_cons, hlast]
  rfl

mutual

/-- The text of a value takes the scan back to its place. -/
theorem scan_render : (v : Value) → ∀ depth, (outside depth).scan v.render = some (outside depth)
  | .null, _ | .bool true, _ | .bool false, _ => rfl
  | .number n, depth => scan_bare (isBare_number n) depth
  | .string s, depth => scan_quoted s depth
  | .array items, depth => by
    rw [render_array]
    exact scan_container (scan_renderItems items) depth rfl rfl
  | .object members, depth => by
    rw [render_object]
    exact scan_container (scan_renderMembers members) depth rfl rfl

theorem scan_renderItems : (vs : List Value) → ∀ t ∈ Value.renderItems vs,
    ∀ depth, (outside depth).scan t = some (outside depth)
  | [], t, h => by cases h
  | v :: vs, t, h => by
    rcases List.mem_cons.1 h with rfl | h
    · exact scan_render v
    · exact scan_renderItems vs t h

theorem scan_renderMembers : (ms : Members) → ∀ t ∈ Value.renderMembers ms,
    ∀ depth, (outside depth).scan t = some (outside depth)
  | [], t, h => by cases h
  | (n, v) :: ms, t, h => by
    rcases List.mem_cons.1 h with rfl | h
    · intro depth
      rw [scan_append (scan_quoted n depth)]
      exact scan_render v depth
    · exact scan_renderMembers ms t h

end

/-- The texts of several values with commas between them are not that of a value. -/
theorem itemsText_ne_render (v w : Value) (vs : List Value) (u : Value) :
    itemsText (v :: w :: vs) ≠ u.render := by
  intro h
  have hfails : (outside 0).scan (itemsText (v :: w :: vs)) = none := by
    rw [itemsText, Value.renderItems, Value.renderItems, listed_cons, comma_false, List.nil_append,
      scan_append (scan_render v 0), listed_cons, comma_true, List.append_assoc, List.cons_append,
      scan_cons]
    rfl
  rw [h, scan_render u 0] at hfails
  cases hfails

theorem encode_itemsText_ne_bytes (v w : Value) (vs : List Value) (u : Value) :
    Utf8.encode (itemsText (v :: w :: vs)) ≠ u.bytes := by
  intro h
  have hdecode := congrArg Utf8.decode h
  rw [Value.bytes, Utf8.decode_encode, Utf8.decode_encode] at hdecode
  exact itemsText_ne_render v w vs u (congrArg Prod.fst hdecode)

end DeviceTwin.Json
