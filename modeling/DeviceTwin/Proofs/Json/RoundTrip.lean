import DeviceTwin.Proofs.Json.Distinct
import DeviceTwin.Proofs.Json.Scalars
import DeviceTwin.Proofs.Json.Text

/-!
# Reading printed values

A value whose numbers are integers of 64 bits is read back from its own text, if it is nested no
deeper than the reader goes. What follows the text only matters behind a number, and in the text of
a container a comma or a closing bracket stands there.

Results:
* `readsBack`: a value is read back from the front of a text.
* `parse_bytes`: a value is read back from its own text.
* `read_bytes`: reading leaves it as it is where its names differ.
-/
namespace DeviceTwin.Json

open Utf8 (encode)

/-! ## Values that are read back -/

mutual

/-- All numbers in the value are integers of 64 bits. -/
def Value.Integral : Value → Prop
  | .number (.integer n) => Number.fits n = true
  | .number (.double _) => False
  | .array items => Value.ItemsIntegral items
  | .object members => Value.MembersIntegral members
  | _ => True

def Value.ItemsIntegral : List Value → Prop
  | [] => True
  | v :: vs => v.Integral ∧ Value.ItemsIntegral vs

def Value.MembersIntegral : Members → Prop
  | [] => True
  | (_, v) :: ms => v.Integral ∧ Value.MembersIntegral ms

end

mutual

/-- How many containers stand within each other in the value, itself included. -/
def Value.nesting : Value → Nat
  | .array items => Value.itemsNesting items + 1
  | .object members => Value.membersNesting members + 1
  | _ => 0

def Value.itemsNesting : List Value → Nat
  | [] => 0
  | v :: vs => max v.nesting (Value.itemsNesting vs)

def Value.membersNesting : Members → Nat
  | [] => 0
  | (_, v) :: ms => max v.nesting (Value.membersNesting ms)

end

@[simp] theorem Value.integral_null : Value.null.Integral := trivial
@[simp] theorem Value.integral_bool (b : Bool) : (Value.bool b).Integral := trivial
@[simp] theorem Value.integral_string (s : String) : (Value.string s).Integral := trivial

@[simp] theorem Value.integral_integer (n : Int) :
    (Value.number (.integer n)).Integral ↔ Number.fits n = true := Iff.rfl

@[simp] theorem Value.integral_array (items : List Value) :
    (Value.array items).Integral ↔ ∀ v ∈ items, v.Integral := by
  rw [Value.Integral]
  induction items with
  | nil => simp [Value.ItemsIntegral]
  | cons v vs ih => simp [Value.ItemsIntegral, ih]

@[simp] theorem Value.integral_object (members : Members) :
    (Value.object members).Integral ↔ ∀ m ∈ members, m.2.Integral := by
  rw [Value.Integral]
  induction members with
  | nil => simp [Value.MembersIntegral]
  | cons m ms ih => simp [Value.MembersIntegral, ih]

/-! ## The first byte -/

theorem encode_ascii {c : Char} (h : c.toNat < 0x80) (cs : List Char) :
    encode (c :: cs) = byte c :: encode cs := by
  rw [Utf8.encode_cons, encodeChar_ascii h, List.singleton_append]

theorem skipBlanks_cons {b : UInt8} (h : isBlank b = false) (bs : Bytes) :
    skipBlanks (b :: bs) = b :: bs := by
  rw [skipBlanks, List.dropWhile_cons_of_neg (by simp [h])]

/-- A byte that may begin a value. -/
structure StartsValue (b : UInt8) : Prop where
  not_blank : isBlank b = false
  not_close : b ≠ byte ']'

theorem ne_of_startsNumber {b b' : UInt8} (h : startsNumber b = true)
    (h' : startsNumber b' = false) : b ≠ b' := by
  rintro rfl
  exact absurd (h'.symm.trans h) (by simp)

theorem startsValue_of_startsNumber {b : UInt8} (h : startsNumber b = true) : StartsValue b where
  not_blank := by
    have hspace : b ≠ 0x20 := ne_of_startsNumber h (by decide)
    have htab : b ≠ 0x09 := ne_of_startsNumber h (by decide)
    have hfeed : b ≠ 0x0A := ne_of_startsNumber h (by decide)
    have hreturn : b ≠ 0x0D := ne_of_startsNumber h (by decide)
    simp [isBlank, hspace, htab, hfeed, hreturn]
  not_close := ne_of_startsNumber h (by decide)

theorem encode_integer (n : Int) :
    ∃ b bs, encode (Integer.integer n) = b :: bs ∧ startsNumber b = true := by
  unfold Integer.integer
  split
  · exact ⟨byte '-', _, encode_ascii (by decide) _, rfl⟩
  · obtain ⟨d, ds, hd, -, hds⟩ := encode_natural n.natAbs
    refine ⟨_, ds, hds, ?_⟩
    rw [startsNumber, isDigit, digit?_digitChar hd]
    simp

theorem encode_render {v : Value} (hv : v.Integral) :
    ∃ b bs, encode v.render = b :: bs ∧ StartsValue b := by
  match v with
  | .null => exact ⟨byte 'n', _, encode_ascii (by decide) _, by decide, by decide⟩
  | .bool true => exact ⟨byte 't', _, encode_ascii (by decide) _, by decide, by decide⟩
  | .bool false => exact ⟨byte 'f', _, encode_ascii (by decide) _, by decide, by decide⟩
  | .number (.integer n) =>
    obtain ⟨b, bs, hb, hstart⟩ := encode_integer n
    exact ⟨b, bs, hb, startsValue_of_startsNumber hstart⟩
  | .string s => exact ⟨byte '"', _, encode_ascii (by decide) _, by decide, by decide⟩
  | .array items => exact ⟨byte '[', _, encode_ascii (by decide) _, by decide, by decide⟩
  | .object members => exact ⟨byte '{', _, encode_ascii (by decide) _, by decide, by decide⟩

/-! ## What the reader does once it knows the first byte -/

section Dispatch

variable {fuel room : Nat} {bs tail rest : Bytes}

theorem readValue_string (s : String) :
    readValue (fuel + 1) room (encode (quoted s) ++ rest) = .ok (.string s, rest) := by
  have hquoted : encode (quoted s) ++ rest
      = byte '"' :: (encode (s.toList.flatMap escape) ++ byte '"' :: rest) := by
    rw [quoted, List.cons_append, encode_ascii (by decide), Utf8.encode_append, List.cons_append,
      List.append_assoc]
    rfl
  rw [hquoted, readValue, skipBlanks_cons (by decide)]
  dsimp only
  rw [if_neg (by decide), if_neg (by decide), if_neg (by decide), if_pos rfl, readText_quoted]
  rfl

theorem readValue_number {b : UInt8} {n : Number} (hb : startsNumber b = true)
    (h : readNumber (b :: bs) = .ok (n, rest)) :
    readValue (fuel + 1) room (b :: bs) = .ok (.number n, rest) := by
  rw [readValue, skipBlanks_cons (startsValue_of_startsNumber hb).not_blank]
  dsimp only
  rw [if_neg (ne_of_startsNumber hb (by decide)), if_neg (ne_of_startsNumber hb (by decide)),
    if_neg (ne_of_startsNumber hb (by decide)), if_neg (ne_of_startsNumber hb (by decide)),
    if_pos hb, h]
  rfl

theorem readValue_array {vs : List Value} (h : readFirstItem fuel room bs = .ok (vs, rest)) :
    readValue (fuel + 1) (room + 1) (byte '[' :: bs) = .ok (.array vs, rest) := by
  rw [readValue, skipBlanks_cons (by decide)]
  dsimp only
  rw [if_neg (by decide), if_neg (by decide), if_neg (by decide), if_neg (by decide),
    if_neg (by decide), if_pos rfl, h]
  rfl

theorem readValue_object {ms : Members} (h : readFirstMember fuel room bs = .ok (ms, rest)) :
    readValue (fuel + 1) (room + 1) (byte '{' :: bs) = .ok (.object ms, rest) := by
  rw [readValue, skipBlanks_cons (by decide)]
  dsimp only
  rw [if_neg (by decide), if_neg (by decide), if_neg (by decide), if_neg (by decide),
    if_neg (by decide), if_neg (by decide), if_pos rfl, h]
  rfl

theorem readFirstItem_close : readFirstItem (fuel + 1) room (byte ']' :: rest) = .ok ([], rest) := by
  rw [readFirstItem, skipBlanks_cons (by decide)]
  dsimp only
  rw [if_pos rfl]

theorem readFirstItem_cons {b : UInt8} (hb : StartsValue b) :
    readFirstItem (fuel + 1) room (b :: bs) = readItems fuel room (b :: bs) := by
  rw [readFirstItem, skipBlanks_cons hb.not_blank]
  dsimp only
  rw [if_neg hb.not_close]

theorem readItems_last {v : Value} (h : readValue fuel room bs = .ok (v, byte ']' :: rest)) :
    readItems (fuel + 1) room bs = .ok ([v], rest) := by
  rw [readItems, h]
  dsimp only
  rw [skipBlanks_cons (by decide)]
  dsimp only
  rw [if_pos rfl]

theorem readItems_more {v : Value} {vs : List Value} {b : UInt8}
    (h : readValue fuel room bs = .ok (v, byte ',' :: b :: tail)) (hb : StartsValue b)
    (hmore : readItems fuel room (b :: tail) = .ok (vs, rest)) :
    readItems (fuel + 1) room bs = .ok (v :: vs, rest) := by
  rw [readItems, h]
  dsimp only
  rw [skipBlanks_cons (by decide)]
  dsimp only
  rw [if_neg (by decide), if_pos rfl, skipBlanks_cons hb.not_blank]
  dsimp only
  rw [if_neg hb.not_close, hmore]
  rfl

theorem readFirstMember_close :
    readFirstMember (fuel + 1) room (byte '}' :: rest) = .ok ([], rest) := by
  rw [readFirstMember, skipBlanks_cons (by decide)]
  dsimp only
  rw [if_pos rfl]

theorem readFirstMember_quote :
    readFirstMember (fuel + 1) room (byte '"' :: bs) = readMembers fuel room bs := by
  rw [readFirstMember, skipBlanks_cons (by decide)]
  dsimp only
  rw [if_neg (by decide), if_pos rfl]

/-- The bytes of a name behind its opening quote, up to its value. -/
def nameBytes (name : String) (bs : Bytes) : Bytes :=
  encode (name.toList.flatMap escape) ++ byte '"' :: byte ':' :: bs

theorem readMembers_last {name : String} {v : Value}
    (h : readValue fuel room bs = .ok (v, byte '}' :: rest)) :
    readMembers (fuel + 1) room (nameBytes name bs) = .ok ([(name, v)], rest) := by
  rw [readMembers, nameBytes, readText_quoted]
  dsimp only
  rw [skipBlanks_cons (by decide)]
  dsimp only
  rw [if_pos rfl, h]
  dsimp only
  rw [skipBlanks_cons (by decide)]
  dsimp only
  rw [if_pos rfl]

theorem readMembers_more {name : String} {v : Value} {ms : Members}
    (h : readValue fuel room bs = .ok (v, byte ',' :: byte '"' :: tail))
    (hmore : readMembers fuel room tail = .ok (ms, rest)) :
    readMembers (fuel + 1) room (nameBytes name bs) = .ok ((name, v) :: ms, rest) := by
  rw [readMembers, nameBytes, readText_quoted]
  dsimp only
  rw [skipBlanks_cons (by decide)]
  dsimp only
  rw [if_pos rfl, h]
  dsimp only
  rw [skipBlanks_cons (by decide)]
  dsimp only
  rw [if_neg (by decide), if_pos rfl, skipBlanks_cons (by decide)]
  dsimp only
  rw [if_pos rfl, hmore]
  rfl

end Dispatch

/-! ## Containers -/

/-- The value is read back from its own text, whatever follows but more of a number. -/
def Value.ReadsBack (v : Value) : Prop :=
  ∀ fuel room rest, v.nesting ≤ room → 3 * (encode v.render).length ≤ fuel → EndsNumber rest →
    readValue fuel room (encode v.render ++ rest) = .ok (v, rest)

theorem endsNumber_of_close {c : Char} (h : c = ',' ∨ c = ']' ∨ c = '}') (bs : Bytes) :
    EndsNumber (byte c :: bs) := by
  rintro b ⟨⟩
  rcases h with rfl | rfl | rfl <;> decide

/-- The bytes of items behind the first one, up to the end of the array. -/
def itemBytes (vs : List Value) (rest : Bytes) : Bytes :=
  encode (listed true (Value.renderItems vs)) ++ byte ']' :: rest

theorem itemBytes_cons (v : Value) (vs : List Value) (rest : Bytes) :
    itemBytes (v :: vs) rest = byte ',' :: (encode v.render ++ itemBytes vs rest) := by
  rw [itemBytes, Value.renderItems, listed_cons, comma_true, List.append_assoc, List.cons_append,
    List.nil_append, encode_ascii (by decide), Utf8.encode_append, List.cons_append,
    List.append_assoc, itemBytes]

theorem readItems_render {v : Value} {vs : List Value}
    (hread : ∀ w ∈ v :: vs, w.Integral ∧ w.ReadsBack) {fuel room : Nat} (rest : Bytes)
    (hroom : Value.itemsNesting (v :: vs) ≤ room)
    (hfuel : 3 * (encode v.render ++ itemBytes vs []).length ≤ fuel) :
    readItems fuel room (encode v.render ++ itemBytes vs rest) = .ok (v :: vs, rest) := by
  induction vs generalizing v fuel with
  | nil =>
    obtain ⟨-, hv⟩ := hread v List.mem_cons_self
    cases fuel with
    | zero => simp [itemBytes] at hfuel
    | succ fuel =>
      refine readItems_last (hv fuel room _ ?_ ?_ (endsNumber_of_close (by simp) rest))
      · exact Nat.le_trans (Nat.le_max_left _ _) hroom
      · simp only [itemBytes, List.length_append, List.length_cons] at hfuel
        omega
  | cons w ws ih =>
    obtain ⟨-, hv⟩ := hread v List.mem_cons_self
    obtain ⟨hw, -⟩ := hread w (List.mem_cons_of_mem _ List.mem_cons_self)
    obtain ⟨b, bs, hb, hstart⟩ := encode_render hw
    have hmore := @ih w (fun u hu => hread u (List.mem_cons_of_mem _ hu))
    rw [itemBytes_cons] at hfuel ⊢
    cases fuel with
    | zero => simp at hfuel
    | succ fuel =>
      simp only [List.length_append, List.length_cons] at hfuel hmore
      have hrest : readItems fuel room _ = _ :=
        hmore (Nat.le_trans (Nat.le_max_right _ _) hroom) (by omega)
      have hfirst := hv fuel room (byte ',' :: (encode w.render ++ itemBytes ws rest))
        (Nat.le_trans (Nat.le_max_left _ _) hroom) (by omega) (endsNumber_of_close (by simp) _)
      rw [hb, List.cons_append] at hrest hfirst ⊢
      exact readItems_more hfirst hstart hrest

/-- The bytes of members behind the first one, up to the end of the object. -/
def memberBytes (ms : Members) (rest : Bytes) : Bytes :=
  encode (membersText true ms) ++ byte '}' :: rest

theorem encode_memberText (m : String × Value) (bs : Bytes) :
    encode (memberText m) ++ bs = byte '"' :: nameBytes m.1 (encode m.2.render ++ bs) := by
  rw [memberText, quoted, List.append_assoc, List.cons_append, encode_ascii (by decide),
    Utf8.encode_append, List.singleton_append, encode_ascii (by decide), encode_ascii (by decide),
    nameBytes]
  simp only [List.cons_append, List.append_assoc]

theorem memberBytes_cons (m : String × Value) (ms : Members) (rest : Bytes) :
    memberBytes (m :: ms) rest
      = byte ',' :: byte '"' :: nameBytes m.1 (encode m.2.render ++ memberBytes ms rest) := by
  rw [memberBytes, membersText_cons, comma_true, List.append_assoc, List.cons_append,
    List.nil_append, encode_ascii (by decide), Utf8.encode_append, List.cons_append,
    List.append_assoc, encode_memberText, memberBytes]

theorem readMembers_render {m : String × Value} {ms : Members}
    (hread : ∀ m' ∈ m :: ms, m'.2.ReadsBack) {fuel room : Nat} (rest : Bytes)
    (hroom : Value.membersNesting (m :: ms) ≤ room)
    (hfuel : 3 * (nameBytes m.1 (encode m.2.render ++ memberBytes ms [])).length ≤ fuel) :
    readMembers fuel room (nameBytes m.1 (encode m.2.render ++ memberBytes ms rest))
      = .ok (m :: ms, rest) := by
  induction ms generalizing m fuel with
  | nil =>
    have hv := hread m List.mem_cons_self
    cases fuel with
    | zero => simp [nameBytes] at hfuel
    | succ fuel =>
      refine readMembers_last (hv fuel room _ ?_ ?_ (endsNumber_of_close (by simp) rest))
      · exact Nat.le_trans (Nat.le_max_left _ _) hroom
      · simp only [nameBytes, List.length_append, List.length_cons] at hfuel
        omega
  | cons n ns ih =>
    have hv := hread m List.mem_cons_self
    have hmore := @ih n (fun u hu => hread u (List.mem_cons_of_mem _ hu))
    rw [memberBytes_cons] at hfuel ⊢
    cases fuel with
    | zero => simp [nameBytes] at hfuel
    | succ fuel =>
      generalize nameBytes n.1 (encode n.2.render ++ memberBytes ns []) = inner at hfuel hmore
      simp only [nameBytes, List.length_append, List.length_cons] at hfuel
      refine readMembers_more (hv fuel room _ ?_ ?_ (endsNumber_of_close (by simp) _)) ?_
      · exact Nat.le_trans (Nat.le_max_left _ _) hroom
      · omega
      · exact hmore (Nat.le_trans (Nat.le_max_right _ _) hroom) (by omega)

theorem encode_array (vs : List Value) :
    encode (Value.array vs).render = byte '[' :: (encode (itemsText vs) ++ [byte ']']) := by
  rw [render_array, List.cons_append, encode_ascii (by decide), Utf8.encode_append]
  rfl

theorem encode_object (ms : Members) :
    encode (Value.object ms).render
      = byte '{' :: (encode (membersText false ms) ++ [byte '}']) := by
  rw [render_object, List.cons_append, encode_ascii (by decide), Utf8.encode_append]
  rfl

theorem readsBack_array {vs : List Value} (hread : ∀ v ∈ vs, v.Integral ∧ v.ReadsBack) :
    (Value.array vs).ReadsBack := by
  intro fuel room rest hroom hfuel _
  obtain _ | room := room
  · cases hroom
  rw [encode_array] at hfuel ⊢
  simp only [List.length_cons, List.length_append, List.length_nil] at hfuel
  obtain _ | _ | fuel := fuel
  · omega
  · omega
  rw [List.cons_append, List.append_assoc]
  refine readValue_array ?_
  cases vs with
  | nil => exact readFirstItem_close
  | cons v vs =>
    obtain ⟨b, bs, hb, hstart⟩ := encode_render (hread v List.mem_cons_self).1
    have hbytes : ∀ rest, encode (itemsText (v :: vs)) ++ ([byte ']'] ++ rest)
        = encode v.render ++ itemBytes vs rest := by
      intro rest
      rw [itemsText, Value.renderItems, listed_cons, comma_false, List.nil_append,
        Utf8.encode_append, List.append_assoc, itemBytes]
      rfl
    have hlength := congrArg List.length (hbytes [])
    simp only [List.length_append, List.length_cons, List.length_nil] at hlength
    have hitems : readItems fuel room _ = _ :=
      readItems_render hread rest (Nat.le_of_succ_le_succ hroom)
        (by rw [List.length_append]; omega)
    rw [hbytes]
    rw [hb, List.cons_append] at hitems ⊢
    rw [readFirstItem_cons hstart]
    exact hitems

theorem readsBack_object {ms : Members} (hread : ∀ m ∈ ms, m.2.ReadsBack) :
    (Value.object ms).ReadsBack := by
  intro fuel room rest hroom hfuel _
  obtain _ | room := room
  · cases hroom
  rw [encode_object] at hfuel ⊢
  simp only [List.length_cons, List.length_append, List.length_nil] at hfuel
  obtain _ | _ | fuel := fuel
  · omega
  · omega
  rw [List.cons_append, List.append_assoc]
  refine readValue_object ?_
  cases ms with
  | nil => exact readFirstMember_close
  | cons m ms =>
    have hbytes : ∀ rest, encode (membersText false (m :: ms)) ++ ([byte '}'] ++ rest)
        = byte '"' :: nameBytes m.1 (encode m.2.render ++ memberBytes ms rest) := by
      intro rest
      rw [membersText_cons, comma_false, List.nil_append, Utf8.encode_append, List.append_assoc,
        encode_memberText, memberBytes]
      rfl
    have hlength := congrArg List.length (hbytes [])
    simp only [List.length_append, List.length_cons, List.length_nil] at hlength
    rw [hbytes, readFirstMember_quote]
    exact readMembers_render hread rest (Nat.le_of_succ_le_succ hroom) (by omega)

/-! ## Whole values -/

mutual

/-- A value whose numbers are integers of 64 bits is read back. -/
theorem readsBack : (v : Value) → v.Integral → v.ReadsBack
  | .null, _ | .bool true, _ | .bool false, _ => by
    rintro (_ | fuel) room rest - hfuel -
    · cases hfuel
    · rfl
  | .string s, _ => by
    rintro (_ | fuel) room rest - hfuel -
    · cases hfuel
    · exact readValue_string s
  | .number (.integer n), hn => by
    obtain ⟨b, bs, hb, hstart⟩ := encode_integer n
    rintro (_ | fuel) room rest - hfuel hrest
    · rw [Value.render, Number.render, hb] at hfuel
      cases hfuel
    · have hread := readNumber_integer hrest hn
      rw [Value.render, Number.render]
      rw [hb, List.cons_append] at hread ⊢
      exact readValue_number hstart hread
  | .number (.double _), h => h.elim
  | .array items, h => readsBack_array fun v hv => readsBack_of_mem_items items h v hv
  | .object members, h => readsBack_object fun m hm => readsBack_of_mem_members members h m hm

theorem readsBack_of_mem_items :
    (vs : List Value) → Value.ItemsIntegral vs → ∀ v ∈ vs, v.Integral ∧ v.ReadsBack
  | [], _, _, h => by cases h
  | w :: ws, ⟨hw, hws⟩, v, h => by
    rcases List.mem_cons.1 h with heq | h
    · rw [heq]
      exact ⟨hw, readsBack w hw⟩
    · exact readsBack_of_mem_items ws hws v h

theorem readsBack_of_mem_members :
    (ms : Members) → Value.MembersIntegral ms → ∀ m ∈ ms, m.2.ReadsBack
  | [], _, _, h => by cases h
  | (n, w) :: ws, ⟨hw, hws⟩, m, h => by
    rcases List.mem_cons.1 h with rfl | h
    · exact readsBack w hw
    · exact readsBack_of_mem_members ws hws m h

end

section Whole

variable {v : Value} (hv : v.Integral) (hn : v.nesting ≤ maxDepth)
include hv hn

/-- A value is read back from its own text, with its members as written. -/
theorem parse_bytes : parse v.bytes = .ok v := by
  have hread := readsBack v hv (fuelFor v.bytes) maxDepth [] hn (Nat.le_succ _) (by rintro b ⟨⟩)
  rw [List.append_nil] at hread
  rw [parse, readDocument, Value.bytes]
  rw [Value.bytes] at hread
  rw [hread]
  rfl

/-- A value whose names differ is read back from its own text. -/
theorem read_bytes (hd : v.Distinct) : read v.bytes = .ok v := by
  rw [read, parse_bytes hv hn]
  exact congrArg Except.ok (v.merge_eq_self hd)

end Whole

end DeviceTwin.Json
