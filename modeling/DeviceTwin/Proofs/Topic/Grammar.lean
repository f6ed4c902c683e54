import DeviceTwin.Proofs.Text.Digits
import DeviceTwin.Proofs.Topic.Query
import Mathlib.Data.List.Induction
import Mathlib.Data.Option.Basic

/-!
# The grammar of queries

A query is parts with ampersands between them, and a part is a key that may have a value behind an
equals sign. Every text is made up of parts. Two keys count. No value of theirs may be bad, not even
where a later part has the same key, and of a key that is repeated the last value is taken.

Results:
* `exists_parts`: every text is made up of parts.
* `step_ok_iff`: what a part adds to what a query says.
* `fromParts_concat`: what parts say is what the ones in front say, and what the last one adds.
* `read_ok_iff`: what is read from a query is what its parts say.
* `fromText_cons`: a part with another key says nothing.
-/
namespace DeviceTwin.TopicScheme

/-! ## Parts -/

/-- A part of a query: a key, and behind an equals sign its value if it has one. -/
structure Part where
  key : List Char
  value? : Option (List Char)
  equals_not_mem : '=' ∉ key
  amp_not_mem_key : '&' ∉ key
  amp_not_mem_value : ∀ v ∈ value?, '&' ∉ v

namespace Part

def text (p : Part) : List Char := p.key ++ (p.value?.map ('=' :: ·)).getD []

/-- The value of a part, which is empty where there is none. -/
def value (p : Part) : List Char := p.value?.getD []

theorem amp_not_mem_text (p : Part) : '&' ∉ p.text := by
  unfold text
  cases h : p.value? with
  | none => simp [p.amp_not_mem_key]
  | some v => simp [p.amp_not_mem_key, p.amp_not_mem_value v h]

theorem keyValue_text (p : Part) : keyValue p.text = (p.key, p.value) := by
  have hkey : ∀ c ∈ p.key, (decide (c ≠ '=')) = true := by
    intro c hc
    exact decide_eq_true fun he => p.equals_not_mem (he ▸ hc)
  rw [keyValue, text, List.takeWhile_append_of_pos hkey, List.dropWhile_append_of_pos hkey, value]
  cases p.value? with
  | none | some v => simp

theorem exists_text {piece : List Char} (h : '&' ∉ piece) : ∃ p : Part, p.text = piece := by
  by_cases hequals : '=' ∈ piece
  · obtain ⟨key, value, rfl, hkey⟩ := List.eq_append_cons_of_mem hequals
    simp only [List.mem_append, List.mem_cons, not_or] at h
    exact ⟨⟨key, some value, hkey, h.1, fun v hv => Option.some.inj hv ▸ h.2.2⟩, rfl⟩
  · exact ⟨⟨piece, none, hequals, h, by simp⟩, by simp [text]⟩

end Part

def joined (parts : List Part) : List Char := ['&'].intercalate (parts.map Part.text)

/-- The values of a key, one for each part that has it. -/
def valuesOf (key : String) (parts : List Part) : List (List Char) :=
  (parts.filter (·.key = key.toList)).map Part.value

section Parts

variable {p : Part} {parts : List Part}

theorem joined_cons (h : parts ≠ []) : joined (p :: parts) = p.text ++ '&' :: joined parts := by
  cases parts with
  | nil => contradiction
  | cons p' parts =>
    rw [joined, List.map_cons, List.map_cons, List.intercalate_cons_cons, List.append_assoc]
    rfl

theorem joined_singleton (p : Part) : joined [p] = p.text := List.intercalate_singleton

theorem exists_parts (query : List Char) : ∃ parts, parts ≠ [] ∧ joined parts = query := by
  induction query with
  | nil => exact ⟨[⟨[], none, by simp, by simp, by simp⟩], List.cons_ne_nil _ _, rfl⟩
  | cons c query ih =>
    obtain ⟨parts, hne, rfl⟩ := ih
    by_cases hamp : c = '&'
    · subst hamp
      refine ⟨⟨[], none, by simp, by simp, by simp⟩ :: parts, List.cons_ne_nil _ _, ?_⟩
      rw [joined_cons hne]
      rfl
    · -- The character goes in front of the first part, whose key it may end.
      cases parts with
      | nil => contradiction
      | cons p parts =>
        obtain ⟨p', hp'⟩ : ∃ p' : Part, p'.text = c :: p.text :=
          Part.exists_text (by simp [p.amp_not_mem_text, Ne.symm hamp])
        refine ⟨p' :: parts, List.cons_ne_nil _ _, ?_⟩
        cases parts with
        | nil => rw [joined_singleton, joined_singleton, hp']
        | cons p'' parts =>
          rw [joined_cons (List.cons_ne_nil _ _), joined_cons (List.cons_ne_nil _ _), hp']
          rfl

theorem valuesOf_cons (key : String) (p : Part) (parts : List Part) : valuesOf key (p :: parts)
    = if p.key = key.toList then p.value :: valuesOf key parts else valuesOf key parts := by
  rw [valuesOf, List.filter_cons]
  by_cases h : p.key = key.toList <;> simp [h, valuesOf]

theorem valuesOf_concat (key : String) (parts : List Part) (p : Part) :
    valuesOf key (parts ++ [p])
      = valuesOf key parts ++ if p.key = key.toList then [p.value] else [] := by
  rw [valuesOf, List.filter_append, List.map_append]
  by_cases h : p.key = key.toList <;> simp [h, valuesOf]

end Parts

/-! ## What a query says -/

def IsVersion (v : List Char) (n : Int) : Prop :=
  -((maxVersion + 1 : Nat) : Int) ≤ n ∧ n ≤ (maxVersion : Int) ∧ Integer.DenotesSigned v n

/-- What a part adds to what a query says. A correlation id may not be empty, and a version has to be
one. -/
inductive Part.Adds (p : Part) (q : Query) : Query → Prop
  | id (hkey : p.key = idKey.toList) (hvalue : p.value ≠ []) :
    Part.Adds p q { q with correlationId := some (String.ofList p.value) }
  | version {n : Int} (hkey : p.key = versionKey.toList) (hvalue : IsVersion p.value n) :
    Part.Adds p q { q with version := some n }
  | nothing (hid : p.key ≠ idKey.toList) (hversion : p.key ≠ versionKey.toList) : Part.Adds p q q

namespace Query

/-- What parts say: no correlation id is empty, every version is one, and of each the last one is
taken, where there is one. -/
structure FromParts (q : Query) (parts : List Part) : Prop where
  ids : [] ∉ valuesOf idKey parts
  versions : ∀ v ∈ valuesOf versionKey parts, ∃ n, IsVersion v n
  id : q.correlationId = (valuesOf idKey parts).getLast?.map String.ofList
  version : Option.Rel IsVersion (valuesOf versionKey parts).getLast? q.version

/-- What the parts say that a query is made up of. -/
def FromText (q : Query) (query : List Char) : Prop :=
  ∃ parts, joined parts = query ∧ q.FromParts parts

theorem step_ok_iff {topic : String} {q q' : Query} {p : Part} :
    step topic q p.text = .ok q' ↔ p.Adds q q' := by
  rw [step, p.keyValue_text]
  dsimp only
  by_cases hid : p.key = idKey.toList
  · have hkeys : idKey.toList ≠ versionKey.toList := by decide
    rw [if_pos hid]
    by_cases hvalue : p.value = []
    · rw [if_pos hvalue]
      constructor
      · intro h
        cases h
      · rintro (⟨-, h⟩ | ⟨h, -⟩ | ⟨h, -⟩)
        · exact absurd hvalue h
        · exact absurd (hid.symm.trans h) hkeys
        · exact absurd hid h
    · rw [if_neg hvalue]
      constructor
      · intro h
        cases h
        exact .id hid hvalue
      · rintro (⟨-, -⟩ | ⟨h, -⟩ | ⟨h, -⟩)
        · rfl
        · exact absurd (hid.symm.trans h) hkeys
        · exact absurd hid h
  · rw [if_neg hid]
    by_cases hversion : p.key = versionKey.toList
    · rw [if_pos hversion]
      constructor
      · intro h
        split at h
        · next n hread =>
          cases h
          exact .version hversion (Integer.readInteger_ok_iff.1 hread)
        · cases h
      · rintro (⟨h, -⟩ | ⟨-, h⟩ | ⟨-, h⟩)
        · exact absurd h hid
        · rw [Integer.readInteger_ok_iff.2 h]
        · exact absurd hversion h
    · rw [if_neg hversion]
      constructor
      · intro h
        cases h
        exact .nothing hid hversion
      · rintro (⟨h, -⟩ | ⟨h, -⟩ | ⟨-, -⟩)
        · exact absurd h hid
        · exact absurd h hversion
        · rfl

section FromParts

variable {q q' : Query} {p : Part} {parts parts' : List Part}

theorem fromParts_nil : q.FromParts [] ↔ q = ⟨none, none⟩ := by
  constructor
  · rintro ⟨-, -, hid, hversion⟩
    obtain ⟨id, version⟩ := q
    cases hid
    cases hversion
    rfl
  · rintro rfl
    exact ⟨List.not_mem_nil, fun v hv => absurd hv List.not_mem_nil, rfl, .none⟩

theorem fromParts_congr (hid : valuesOf idKey parts = valuesOf idKey parts')
    (hversion : valuesOf versionKey parts = valuesOf versionKey parts') :
    q.FromParts parts ↔ q.FromParts parts' := by
  constructor
  · rintro ⟨h₁, h₂, h₃, h₄⟩
    exact ⟨hid ▸ h₁, hversion ▸ h₂, hid ▸ h₃, hversion ▸ h₄⟩
  · rintro ⟨h₁, h₂, h₃, h₄⟩
    exact ⟨hid ▸ h₁, hversion ▸ h₂, hid ▸ h₃, hversion ▸ h₄⟩

/-- Where every version is one, the last of them is. -/
theorem exists_version (h : ∀ v ∈ valuesOf versionKey parts, ∃ n, IsVersion v n) :
    ∃ version, Option.Rel IsVersion (valuesOf versionKey parts).getLast? version := by
  cases hlast : (valuesOf versionKey parts).getLast? with
  | none => exact ⟨none, .none⟩
  | some v =>
    obtain ⟨n, hn⟩ := h v (List.mem_of_getLast? hlast)
    exact ⟨some n, .some hn⟩

/-- What parts say is what the ones in front say, and what the last one adds. -/
theorem fromParts_concat :
    q'.FromParts (parts ++ [p]) ↔ ∃ q, q.FromParts parts ∧ p.Adds q q' := by
  have hkeys : idKey.toList ≠ versionKey.toList := by decide
  constructor
  · rintro ⟨hids, hversions, hid, hversion⟩
    rw [valuesOf_concat] at hids hversions hid hversion
    have hidsFront : [] ∉ valuesOf idKey parts := fun h => hids (List.mem_append_left _ h)
    have hversionsFront : ∀ v ∈ valuesOf versionKey parts, ∃ n, IsVersion v n :=
      fun v hv => hversions v (List.mem_append_left _ hv)
    obtain ⟨id', version'⟩ := q'
    dsimp only at hid hversion
    -- The last part overrides one field at most; the other one is said by the parts in front.
    by_cases hkey : p.key = idKey.toList
    · have hother : p.key ≠ versionKey.toList := fun h => hkeys (hkey.symm.trans h)
      rw [if_pos hkey] at hids hid
      rw [if_neg hother, List.append_nil] at hversion
      rw [List.getLast?_concat] at hid
      subst hid
      refine ⟨⟨_, version'⟩, ⟨hidsFront, hversionsFront, rfl, hversion⟩, .id hkey fun h => hids ?_⟩
      simp [h]
    · rw [if_neg hkey, List.append_nil] at hid
      by_cases hkey' : p.key = versionKey.toList
      · rw [if_pos hkey', List.getLast?_concat] at hversion
        obtain ⟨version, hlast⟩ := exists_version hversionsFront
        cases hversion with
        | some hn =>
          exact ⟨⟨id', version⟩, ⟨hidsFront, hversionsFront, hid, hlast⟩, .version hkey' hn⟩
      · rw [if_neg hkey', List.append_nil] at hversion
        exact ⟨_, ⟨hidsFront, hversionsFront, hid, hversion⟩, .nothing hkey hkey'⟩
  · rintro ⟨q, ⟨hids, hversions, hid, hversion⟩, hadds⟩
    cases hadds with
    | id hkey hvalue =>
      have hother : p.key ≠ versionKey.toList := fun h => hkeys (hkey.symm.trans h)
      constructor <;> rw [valuesOf_concat]
      · rw [if_pos hkey]
        simp [hids, Ne.symm hvalue]
      · rwa [if_neg hother, List.append_nil]
      · rw [if_pos hkey, List.getLast?_concat]
        rfl
      · rwa [if_neg hother, List.append_nil]
    | version hkey hvalue =>
      have hother : p.key ≠ idKey.toList := fun h => hkeys (h.symm.trans hkey)
      constructor <;> rw [valuesOf_concat]
      · rwa [if_neg hother, List.append_nil]
      · rw [if_pos hkey]
        intro v hv
        rcases List.mem_append.1 hv with hv | hv
        · exact hversions v hv
        · exact List.mem_singleton.1 hv ▸ ⟨_, hvalue⟩
      · rwa [if_neg hother, List.append_nil]
      · rw [if_pos hkey, List.getLast?_concat]
        exact .some hvalue
    | nothing hid' hversion' =>
      refine (fromParts_congr ?_ ?_).1 ⟨hids, hversions, hid, hversion⟩
      · rw [valuesOf_concat, if_neg hid', List.append_nil]
      · rw [valuesOf_concat, if_neg hversion', List.append_nil]

end FromParts

/-! ## Reading -/

section Read

variable {topic : String} {q : Query}

/-- Pieces without a character change nothing. -/
theorem foldlM_filter (ps : List (List Char)) (q : Query) :
    (ps.filter (· ≠ [])).foldlM (step topic) q = ps.foldlM (step topic) q := by
  induction ps generalizing q with
  | nil => rfl
  | cons piece ps ih =>
    cases piece with
    | nil =>
      have hempty : step topic q [] = .ok q := rfl
      rw [List.foldlM_cons, hempty]
      exact ih q
    | cons c cs =>
      rw [List.filter_cons_of_pos (by simp), List.foldlM_cons, List.foldlM_cons]
      exact congrArg _ (funext ih)

/-- What is read part by part is what the parts say. -/
theorem foldlM_ok_iff {parts : List Part} :
    (parts.map Part.text).foldlM (step topic) ⟨none, none⟩ = .ok q ↔ q.FromParts parts := by
  induction parts using List.reverseRecOn generalizing q with
  | nil =>
    rw [fromParts_nil]
    constructor
    · intro h
      cases h
      rfl
    · rintro rfl
      rfl
  | append_singleton parts p ih =>
    have hlast : ∀ q, (List.map Part.text [p]).foldlM (step topic) q = step topic q p.text :=
      fun q => (List.foldlM_cons ..).trans (bind_pure _)
    rw [List.map_append, List.foldlM_append, fromParts_concat]
    simp only [← ih, ← @step_ok_iff topic, hlast]
    cases (parts.map Part.text).foldlM (step topic) ⟨none, none⟩ with
    | error fault =>
      constructor
      · intro h
        cases h
      · rintro ⟨q, h, -⟩
        cases h
    | ok q₁ =>
      constructor
      · intro h
        exact ⟨q₁, rfl, h⟩
      · rintro ⟨q, h, hstep⟩
        cases h
        exact hstep

/-- What is read from parts is what they say. -/
theorem read_joined_ok_iff {parts : List Part} :
    read topic (joined parts) = .ok q ↔ q.FromParts parts := by
  have hamp : ∀ piece ∈ parts.map Part.text, '&' ∉ piece := by
    intro piece hpiece
    obtain ⟨p, -, rfl⟩ := List.mem_map.1 hpiece
    exact p.amp_not_mem_text
  rw [read, joined, pieces_intercalate hamp, foldlM_filter, foldlM_ok_iff]

theorem fromText_joined {parts : List Part} : q.FromText (joined parts) ↔ q.FromParts parts := by
  constructor
  · rintro ⟨parts', heq, h⟩
    have hread : read "" (joined parts') = .ok q := read_joined_ok_iff.2 h
    rw [heq] at hread
    exact read_joined_ok_iff.1 hread
  · intro h
    exact ⟨parts, rfl, h⟩

/-- What is read from a query is what its parts say. -/
theorem read_ok_iff {query : List Char} : read topic query = .ok q ↔ q.FromText query := by
  obtain ⟨parts, -, rfl⟩ := exists_parts query
  rw [read_joined_ok_iff, fromText_joined]

theorem fromText_cons {p : Part} (hid : p.key ≠ idKey.toList) (hversion : p.key ≠ versionKey.toList)
    (ps : List (List Char)) : q.FromText (['&'].intercalate (p.text :: ps))
      ↔ q.FromText (['&'].intercalate ps) := by
  have hskip : ∀ parts, q.FromParts (p :: parts) ↔ q.FromParts parts := by
    intro parts
    refine fromParts_congr ?_ ?_
    · rw [valuesOf_cons, if_neg hid]
    · rw [valuesOf_cons, if_neg hversion]
  cases ps with
  | nil =>
    have hnone : ['&'].intercalate ([] : List (List Char)) = joined [] := rfl
    rw [List.intercalate_singleton, ← joined_singleton, hnone, fromText_joined, fromText_joined,
      hskip]
  | cons piece ps =>
    obtain ⟨parts, hne, hparts⟩ := exists_parts (['&'].intercalate (piece :: ps))
    rw [List.intercalate_cons_cons, List.append_assoc, List.singleton_append, ← hparts,
      ← joined_cons hne, fromText_joined, fromText_joined, hskip]

end Read

end Query
end DeviceTwin.TopicScheme
