/-!
# Components

A device groups properties into components. In a document a component is an object whose first
member is the marker, `"__t": "c"`. The registry holds the names that the device knows, each once
and in the order in which they came.
-/
namespace DeviceTwin

namespace Component

def markerKey : String := "__t"
def markerValue : String := "c"

end Component

/-- Different names, in the order of their registration. -/
structure ComponentRegistry where
  names : List String
  nodup : names.Nodup
  deriving DecidableEq, Repr

namespace ComponentRegistry

def empty : ComponentRegistry := ⟨[], List.nodup_nil⟩

def contains (r : ComponentRegistry) (name : String) : Bool := name ∈ r.names

/-- Adds a name behind all others, unless it is there. -/
def register (r : ComponentRegistry) (name : String) : ComponentRegistry :=
  if h : name ∈ r.names then r
  else
    ⟨r.names ++ [name], by
      rw [List.nodup_append]
      exact ⟨r.nodup, by simp, fun a ha b hb => by
        rw [List.mem_singleton] at hb
        exact fun e => h (hb ▸ e ▸ ha)⟩⟩

/-- The registry of the names in a list, each at its first place. -/
def ofList (names : List String) : ComponentRegistry := names.foldl register empty

def size (r : ComponentRegistry) : Nat := r.names.length

end ComponentRegistry
end DeviceTwin
