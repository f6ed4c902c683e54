import DeviceTwin.Topic.Classify

/-!
# Reading queries

A query is a list of pieces with ampersands between them, and a piece is a key and a value with an
equals sign between them. A piece may have further equals signs in its value, so only the key has to
be free of them.

Results:
* `pieces_intercalate`: pieces without ampersands are told apart again.
* `keyValue_piece`: so are the key and the value of a piece.
* `Query.read_pieces`: a query says what its pieces say, one after the other.
-/
namespace DeviceTwin.TopicScheme

def piece (key : String) (value : List Char) : List Char := key.toList ++ '=' :: value

theorem keyValue_piece {key : String} (h : '=' ∉ key.toList) (value : List Char) :
    keyValue (piece key value) = (key.toList, value) := by
  have hkey : ∀ c ∈ key.toList, (decide (c ≠ '=')) = true := by
    intro c hc
    exact decide_eq_true fun he => h (he ▸ hc)
  rw [keyValue, piece, List.takeWhile_append_of_pos hkey, List.dropWhile_append_of_pos hkey]
  simp

/-- Pieces without ampersands are told apart again, but for the empty ones. -/
theorem pieces_intercalate {ps : List (List Char)} (h : ∀ p ∈ ps, '&' ∉ p) :
    pieces (['&'].intercalate ps) = ps.filter (· ≠ []) := by
  cases ps with
  | nil => rfl
  | cons p ps => rw [pieces, List.splitOn_intercalate _ h (List.cons_ne_nil p ps)]

namespace Query

variable (topic : String) (q : Query)

theorem step_id {id : List Char} (h : id ≠ []) :
    step topic q (piece idKey id) = .ok { q with correlationId := some (String.ofList id) } := by
  rw [step, keyValue_piece (by decide)]
  simp only [if_true, if_neg h]

theorem step_version {version : Int} (hlow : -((maxVersion + 1 : Nat) : Int) ≤ version)
    (hhigh : version ≤ (maxVersion : Int)) :
    step topic q (piece versionKey (Integer.integer version))
      = .ok { q with version := some version } := by
  rw [step, keyValue_piece (by decide)]
  have hkeys : versionKey.toList ≠ idKey.toList := by decide
  simp only [if_true, if_neg hkeys, Integer.readInteger_integer hlow hhigh]

/-- A query says what its pieces say, one after the other. -/
theorem read_pieces {ps : List (List Char)} (hamp : ∀ p ∈ ps, '&' ∉ p) (hne : ∀ p ∈ ps, p ≠ []) :
    read topic (['&'].intercalate ps) = ps.foldlM (step topic) ⟨none, none⟩ := by
  have hall : ps.filter (· ≠ []) = ps := List.filter_eq_self.2 fun p hp => by simp [hne p hp]
  rw [read, pieces_intercalate hamp, hall]

end Query
end DeviceTwin.TopicScheme
