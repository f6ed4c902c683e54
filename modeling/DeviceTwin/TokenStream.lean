import DeviceTwin.Error
import DeviceTwin.Json.Reader
import DeviceTwin.Token

/-!
# Token streams

A stream shows one token at a time and moves only forward. It starts in front of its first token. A
call that fails leaves the stream on the token at which it failed.
-/
namespace DeviceTwin

/-- A current token, if there is one yet, and the tokens ahead of it. -/
structure TokenStream where
  current? : Option Placed
  ahead : List Placed
  deriving DecidableEq, Repr

/-- A computation on a state `σ` that may fail. The state at the failure is kept. -/
abbrev Attempt (σ : Type) := EStateM PropertyError σ

namespace TokenStream

def ofTokens (tokens : List Placed) : TokenStream := ⟨none, tokens⟩

def ofValue (v : Json.Value) : TokenStream := ofTokens (v.tokens 0)

/-- A stream in front of the tokens of a document. -/
def ofBytes (bs : Bytes) : Except PropertyError TokenStream :=
  match Json.read bs with
  | .ok v => .ok (ofValue v)
  | .error failure => .error (.malformedDocument (.text failure))

def token? (s : TokenStream) : Option Token := s.current?.map Prod.fst

/-- The depth of the current token, and zero in front of the first. -/
def depth (s : TokenStream) : Nat := (s.current?.map Prod.snd).getD 0

/-- The token that lies `offset` tokens ahead of the current one. -/
def peek? (s : TokenStream) : (offset : Nat) → Option Token
  | 0 => s.token?
  | n + 1 => s.ahead[n]?.map Prod.fst

def advance : Attempt TokenStream Unit := fun s =>
  match s.ahead with
  | [] => .error (.invalidState .noTokensLeft) s
  | t :: rest => .ok () ⟨some t, rest⟩

/-- Moves on to the next closing token at `depth`. -/
def closeAt (depth : Nat) : (current? : Option Placed) → List Placed →
    EStateM.Result PropertyError TokenStream Unit
  | current?, [] => .error (.invalidState .noTokensLeft) ⟨current?, []⟩
  | _, t :: rest =>
    if t.1.closes ∧ t.2 = depth then .ok () ⟨some t, rest⟩ else closeAt depth (some t) rest

/-- Moves to the last token of the value that starts at the current one: to its closing token where
it is a container, and not at all where it is not. -/
def skipValue : Attempt TokenStream Unit := fun s =>
  match s.token? with
  | none => .error (.invalidState .nothingToSkip) s
  | some t => if t.opens then closeAt s.depth s.current? s.ahead else .ok () s

mutual

/-- Reads the value that starts at the current token, in at most `fuel` nested steps. -/
def readWithin : (fuel : Nat) → Attempt TokenStream Json.Value
  | 0 => fun s => .error (.invalidState .nothingToRead) s
  | fuel + 1 => fun s =>
    match s.token? with
    | none => .error (.invalidState .nothingToRead) s
    | some (.string text) => .ok (.string text) s
    | some (.number n) => .ok (.number n) s
    | some (.bool b) => .ok (.bool b) s
    | some .null => .ok .null s
    | some .beginObject => (Json.Value.object <$> readMembers fuel []) s
    | some .beginArray => (Json.Value.array <$> readItems fuel) s
    | some _ => .error (.invalidState .notAValue) s
termination_by structural fuel => fuel

/-- Reads members up to the end of an object and puts them behind those read so far. -/
def readMembers : (fuel : Nat) → Json.Members → Attempt TokenStream Json.Members
  | 0, _ => fun s => .error (.invalidState .noTokensLeft) s
  | fuel + 1, sofar => do
    advance
    match (← get).token? with
    | some .endObject => return sofar
    | some (.propertyName name) =>
      advance
      let v ← readWithin fuel
      readMembers fuel (Json.Members.put name v sofar)
    | _ => throw (.invalidState .notAName)
termination_by structural fuel => fuel

def readItems : (fuel : Nat) → Attempt TokenStream (List Json.Value)
  | 0 => fun s => .error (.invalidState .noTokensLeft) s
  | fuel + 1 => do
    advance
    match (← get).token? with
    | some .endArray => return []
    | _ =>
      let v ← readWithin fuel
      return v :: (← readItems fuel)
termination_by structural fuel => fuel

end

/-- Reads the value that starts at the current token and stops on its last token. Each step takes a
token but the first of a value. -/
def readValue : Attempt TokenStream Json.Value := fun s => readWithin (2 * s.ahead.length + 2) s

end DeviceTwin.TokenStream
