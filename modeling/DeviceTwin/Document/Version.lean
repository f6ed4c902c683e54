import DeviceTwin.Document

/-!
# The version of a document

The version may stand behind the properties that it counts for, so it is looked up in a pass of its
own: in the document itself, or in its desired section where the whole document was asked for.
-/
namespace DeviceTwin.Document

open TokenStream

/-- Looks at the members at `depth` one by one, at most `fuel` of them, up to the one called `key` or
to the end of their object. -/
def scan (key : String) (depth : Nat) : (fuel : Nat) → Attempt TokenStream Bool
  | 0 => throw (.invalidState .noTokensLeft)
  | fuel + 1 => do
    let s ← get
    match s.token? with
    | some (.propertyName name) =>
      if s.depth = depth then
        if name = key then return true
        else
          skipMember
          scan key depth fuel
      else throw (.invalidState .notInObject)
    | some .endObject =>
      if s.depth + 1 = depth then return false else throw (.invalidState .notInObject)
    | _ => throw (.invalidState .notInObject)

/-- From an opening brace, looks for the member called `key`. The stream stops on its name, or on the
closing brace where there is none. -/
def findMember (key : String) : Attempt TokenStream Bool := do
  let depth := (← get).depth + 1
  advance
  scan key depth ((← get).ahead.length + 1)

/-- From the opening brace of the object that holds it, reads the version. -/
def versionInObject : Attempt TokenStream Int := do
  if ← findMember versionKey then
    advance
    match (← get).token? with
    | some (.number n) =>
      match n.signed? with
      | some version => return version
      | none => throw (.malformedDocument .versionNotInteger)
    | _ => throw (.malformedDocument .versionNotInteger)
  else throw .versionNotFound

/-- From the opening brace of a document, reads its version. -/
def version (kind : ResponseKind) : Attempt TokenStream Int := do
  unless (← get).atDocument do throw (.invalidState .notAtDocument)
  match kind with
  | .documentGet =>
    if ← findMember desiredSection then
      advance
      match (← get).token? with
      | some .beginObject => versionInObject
      | _ => throw (.malformedDocument (.sectionNotObject desiredSection))
    else throw .versionNotFound
  | .desiredPatch | .reportedAck => versionInObject

end DeviceTwin.Document
