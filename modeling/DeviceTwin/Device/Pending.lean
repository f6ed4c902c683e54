import DeviceTwin.Topic

/-!
# Requests that wait for an answer

Requests are numbered in the order in which they are sent, and the list of those without an answer is
in that order. It has a bounded length: the oldest request is given up first.
-/
namespace DeviceTwin

/-- Requests with their numbers, the oldest first. -/
abbrev Pending := List (Nat × Request)

namespace Pending

def maxSize : Nat := 32

def get? (pending : Pending) (number : Nat) : Option Request := pending.lookup number

def erase (pending : Pending) (number : Nat) : Pending := pending.filter (·.1 ≠ number)

/-- All but the patches up to this number. -/
def forgetPatches (pending : Pending) (number : Nat) : Pending :=
  pending.filter fun (n, request) => number < n || request ≠ .reportedPatch

/-- The requests that are too many. -/
def surplus (pending : Pending) : Pending := pending.take (pending.length - maxSize)

/-- The requests that may wait on. -/
def trim (pending : Pending) : Pending := pending.drop (pending.length - maxSize)

theorem surplus_append_trim (pending : Pending) : pending.surplus ++ pending.trim = pending :=
  List.take_append_drop _ _

theorem length_trim_le (pending : Pending) : pending.trim.length ≤ maxSize := by
  simp only [trim, List.length_drop]; omega

end Pending
end DeviceTwin
