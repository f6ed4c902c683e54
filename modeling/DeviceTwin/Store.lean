import DeviceTwin.Json.Value
import DeviceTwin.Property

/-!
# The store of accepted properties

For each property the store holds the value of the newest document that was received, in the order of
the properties. A value from an older document than the one stored is refused.

Results:
* `get?_apply_self`, `get?_apply_of_ne`: an accepted value is found under its property and changes
  nothing under others.
-/
namespace DeviceTwin

/-- A value with the version of the document that it came from. -/
structure Entry where
  property : Property
  value : Json.Value
  version : Int
  deriving DecidableEq, Repr

namespace Entry

/-- Puts an entry at its place in the order, for the one of the same property if there is one. -/
def insert (e : Entry) : List Entry → List Entry
  | [] => [e]
  | x :: xs =>
    if e.property = x.property then e :: xs
    else if e.property.before x.property then e :: x :: xs
    else x :: insert e xs

/-- The first entry of a property. -/
def find? (p : Property) (entries : List Entry) : Option Entry :=
  List.find? (fun e => e.property = p) entries

/-- Whether entries are in order, each property at most once. -/
def Ordered (entries : List Entry) : Prop :=
  entries.Pairwise fun x y => x.property.before y.property = true

theorem mem_insert {e x : Entry} {entries : List Entry} (h : x ∈ insert e entries) :
    x = e ∨ x ∈ entries := by
  induction entries with
  | nil => exact .inl (List.mem_singleton.1 h)
  | cons y ys ih =>
    rw [insert] at h
    split at h
    · rcases List.mem_cons.1 h with h | h
      · exact .inl h
      · exact .inr (List.mem_cons_of_mem _ h)
    split at h
    · exact List.mem_cons.1 h
    · rcases List.mem_cons.1 h with rfl | h
      · exact .inr List.mem_cons_self
      · exact (ih h).imp_right (List.mem_cons_of_mem _)

theorem ordered_insert {e : Entry} {entries : List Entry} (h : Ordered entries) :
    Ordered (insert e entries) := by
  induction entries with
  | nil => exact List.pairwise_singleton _ _
  | cons y ys ih =>
    obtain ⟨hy, hys⟩ := List.pairwise_cons.1 h
    rw [insert]
    split
    · next he => exact List.Pairwise.cons (fun z hz => he ▸ hy z hz) hys
    split
    · next hb =>
      refine List.Pairwise.cons (fun z hz => ?_) h
      rcases List.mem_cons.1 hz with rfl | hz
      · exact hb
      · exact Property.before_trans hb (hy z hz)
    · next he hb =>
      refine List.Pairwise.cons (fun z hz => ?_) (ih hys)
      rcases mem_insert hz with rfl | hz
      · rcases Property.before_or z.property y.property with h | h | h
        · exact absurd h hb
        · exact absurd h he
        · exact h
      · exact hy z hz

theorem find?_insert_self (e : Entry) (entries : List Entry) :
    find? e.property (insert e entries) = some e := by
  induction entries with
  | nil => simp [find?, insert]
  | cons y ys ih =>
    rw [insert]
    split
    · simp [find?]
    split
    · simp [find?]
    · next he _ =>
      rw [find?, List.find?_cons_of_neg (by simpa using Ne.symm he)]
      exact ih

theorem find?_insert_of_ne {e : Entry} {p : Property} (h : e.property ≠ p) (entries : List Entry) :
    find? p (insert e entries) = find? p entries := by
  induction entries with
  | nil => simp [find?, insert, h]
  | cons y ys ih =>
    rw [insert]
    split
    · next he =>
      rw [find?, find?, List.find?_cons_of_neg (by simpa using h),
        List.find?_cons_of_neg (by simpa using he ▸ h)]
    split
    · rw [find?, List.find?_cons_of_neg (by simpa using h)]; rfl
    · rw [find?, find?, List.find?_cons, List.find?_cons]
      split
      · rfl
      · exact ih

end Entry

/-- The entries of a device, in order. -/
structure Store where
  entries : List Entry
  ordered : Entry.Ordered entries
  deriving DecidableEq

namespace Store

def empty : Store := ⟨[], List.Pairwise.nil⟩

def get? (s : Store) (p : Property) : Option Entry := Entry.find? p s.entries

/-- Whether a document of this version is older than what is stored. -/
def isStale (s : Store) (p : Property) (version : Int) : Bool :=
  (s.get? p).any fun e => version < e.version

def put (s : Store) (e : Entry) : Store := ⟨e.insert s.entries, Entry.ordered_insert s.ordered⟩

/-- Takes up a value and tells whether it was accepted. -/
def apply (s : Store) (p : Property) (value : Json.Value) (version : Int) : Bool × Store :=
  if s.isStale p version then (false, s) else (true, s.put ⟨p, value, version⟩)

def size (s : Store) : Nat := s.entries.length

theorem get?_apply_self {s : Store} {p : Property} {value : Json.Value} {version : Int}
    (h : s.isStale p version = false) :
    ((s.apply p value version).2).get? p = some ⟨p, value, version⟩ := by
  rw [apply, h]
  exact Entry.find?_insert_self ⟨p, value, version⟩ s.entries

theorem get?_apply_of_ne (s : Store) {p q : Property} (value : Json.Value) (version : Int)
    (h : p ≠ q) : ((s.apply p value version).2).get? q = s.get? q := by
  rw [apply]
  split
  · rfl
  · exact Entry.find?_insert_of_ne h s.entries

end Store
end DeviceTwin
