import DeviceTwin.Proofs.Json.RoundTrip
import DeviceTwin.Proofs.TokenStream.Value
import DeviceTwin.Proofs.Writer.Page

/-!
# Reading what was written

Each piece stands for tokens: a name or a bracket for one, a value for all of its own. Their depths
are counted along the pieces. The tokens of an outline are those of its holes from the outside in, so
that a piece adds its own tokens to them as it adds its own text.

Results:
* `Outline.tokens_push`: a piece adds its own tokens.
* `Page.tokens_ofPieces`: the tokens of a page are those of the pieces that describe it.
* `ofBytes_written`: reading what was written gives the tokens of the calls.
-/
namespace DeviceTwin

open Json (Members Value)

/-! ## Tokens of pieces -/

/-- The tokens of a piece that stands within `depth` containers. -/
def Piece.tokens (depth : Nat) : Piece → List Placed
  | opening .object => [(.beginObject, depth)]
  | opening .array => [(.beginArray, depth)]
  | closing .object => [(.endObject, depth - 1)]
  | closing .array => [(.endArray, depth - 1)]
  | name n => [(.propertyName n, depth)]
  | value v => v.tokens depth

def Piece.depthBehind (depth : Nat) : Piece → Nat
  | opening _ => depth + 1
  | closing _ => depth - 1
  | _ => depth

/-- The tokens of pieces, of which the first stands within `depth` containers. -/
def Pieces.tokens (depth : Nat) : List Piece → List Placed
  | [] => []
  | p :: ps => p.tokens depth ++ tokens (p.depthBehind depth) ps

theorem Piece.length_scopesBehind (scopes : List Scope) (p : Piece) :
    (p.scopesBehind scopes).length = p.depthBehind scopes.length := by
  cases p with
  | opening | name | value => rfl
  | closing => exact List.length_tail

/-! ## Tokens of outlines -/

theorem Json.Value.itemTokens_append (depth : Nat) (vs ws : List Value) :
    Value.itemTokens depth (vs ++ ws)
      = Value.itemTokens depth vs ++ Value.itemTokens depth ws := by
  induction vs with
  | nil => rfl
  | cons v vs ih => simp only [List.cons_append, Value.itemTokens, ih, List.append_assoc]

namespace Hole

/-- The tokens of the container up to the hole. -/
def tokens (depth : Nat) : Hole → List Placed
  | item before => (.beginArray, depth) :: Value.itemTokens (depth + 1) before
  | member before name =>
    (.beginObject, depth) :: Value.memberTokens (depth + 1) before
      ++ [(.propertyName name, depth + 1)]

def tokensAll : List Hole → List Placed
  | [] => []
  | hole :: outer => tokensAll outer ++ hole.tokens outer.length

end Hole

namespace Outline

def tokens : Outline → List Placed
  | blank => []
  | array items outer =>
    Hole.tokensAll outer ++ (.beginArray, outer.length) :: Value.itemTokens (outer.length + 1) items
  | object members outer =>
    Hole.tokensAll outer
      ++ (.beginObject, outer.length) :: Value.memberTokens (outer.length + 1) members
  | named members name outer => Hole.tokensAll (.member members name :: outer)
  | whole v => v.tokens 0

theorem tokens_fill (v : Value) (holes : List Hole) :
    (fill v holes).tokens = Hole.tokensAll holes ++ v.tokens holes.length := by
  match holes with
  | [] => rfl
  | .item before :: outer =>
    simp [fill, tokens, Hole.tokensAll, Hole.tokens, Value.itemTokens_append, Value.itemTokens]
  | .member before name :: outer =>
    simp [fill, tokens, Hole.tokensAll, Hole.tokens, Value.memberTokens_append, Value.memberTokens]

/-- The tokens in front of a value, and the containers around it. -/
theorem tokensAll_of_holes? {o : Outline} {holes : List Hole} (h : o.holes? = some holes) :
    Hole.tokensAll holes = o.tokens ∧ holes.length = o.scopes.length := by
  refine ⟨?_, by rw [scopes_of_holes? h, List.length_map]⟩
  cases o with
  | object | whole => cases h
  | blank | named | array => cases h; rfl

theorem tokens_push {o o' : Outline} {p : Piece} (h : o.push p = some o') :
    o'.tokens = o.tokens ++ p.tokens o.scopes.length := by
  cases p with
  | value v =>
    obtain ⟨holes, hh, rfl⟩ := Option.map_eq_some_iff.1 h
    obtain ⟨htokens, hlength⟩ := tokensAll_of_holes? hh
    rw [tokens_fill, htokens, hlength]
    rfl
  | opening scope =>
    cases scope with
    | array | object =>
      obtain ⟨holes, hh, rfl⟩ := Option.map_eq_some_iff.1 h
      obtain ⟨htokens, hlength⟩ := tokensAll_of_holes? hh
      rw [tokens, htokens, hlength]
      rfl
  | name n =>
    cases o with
    | object members outer =>
      cases h
      simp [tokens, Hole.tokensAll, Hole.tokens, Piece.tokens, scopes]
    | blank | array | named | whole => cases h
  | closing scope =>
    cases scope with
    | array =>
      cases o with
      | array items outer =>
        cases h
        rw [tokens_fill, Value.tokens]
        simp [tokens, Piece.tokens, scopes]
      | blank | object | named | whole => cases h
    | object =>
      cases o with
      | object members outer =>
        cases h
        rw [tokens_fill, Value.tokens]
        simp [tokens, Piece.tokens, scopes]
      | blank | array | named | whole => cases h

end Outline

/-! ## Tokens of pages -/

namespace Page

def tokens (g : Page) : List Placed := Value.itemTokens 0 g.values ++ g.rest.tokens

theorem tokens_settle (values : List Value) (o : Outline) :
    (settle values o).tokens = Value.itemTokens 0 values ++ o.tokens := by
  cases o with
  | blank | array | object | named => rfl
  | whole v => simp [settle, tokens, Outline.tokens, Value.itemTokens_append, Value.itemTokens]

theorem tokens_foldlM {ps : List Piece} {g g' : Page} (h : ps.foldlM push g = some g') :
    g'.tokens = g.tokens ++ Pieces.tokens g.rest.scopes.length ps := by
  induction ps generalizing g with
  | nil =>
    cases h
    simp [Pieces.tokens]
  | cons p ps ih =>
    obtain ⟨g₁, hp, hps⟩ := Option.bind_eq_some_iff.1 h
    obtain ⟨o, ho, rfl⟩ := push_eq_some hp
    rw [ih hps, tokens_settle, Outline.tokens_push ho, scopes_settle, Outline.scopes_push ho,
      Piece.length_scopesBehind, Pieces.tokens, tokens]
    simp only [List.append_assoc]

theorem tokens_ofPieces {ps : List Piece} {g : Page} (h : ofPieces ps = some g) :
    g.tokens = Pieces.tokens 0 ps :=
  tokens_foldlM h

end Page

namespace Writer

/-- Reading what was written. Over any room, let calls succeed one and all and describe one complete
value, in which the names of each object differ, all numbers are integers of 64 bits, and containers
stand within each other no deeper than the reader goes. Then the region holds the bytes of a
document, and its tokens are those of the calls: a value that was written in one piece counts as its
own tokens, and each token has the number of containers around it as its depth. -/
theorem ofBytes_written (region : Bytes) (ps : List Piece) (t : Trial) (v : Value)
    (h : (Trial.of region).afterAll ps = t) (hall : t.accepted = ps)
    (hone : Page.ofPieces ps = some ⟨[v], .blank, rfl⟩)
    (hdistinct : v.Distinct) (hintegral : v.Integral) (hnesting : v.nesting ≤ Json.maxDepth) :
    TokenStream.ofBytes t.writer.written = .ok (.ofTokens (Pieces.tokens 0 ps)) := by
  obtain ⟨g, hpage, hholds⟩ := holds_afterAll region ps
  rw [h] at hpage hholds
  rw [hall] at hpage
  obtain rfl := Option.some.inj (hone.symm.trans hpage)
  have hwritten : t.writer.written = v.bytes := by
    rw [hholds.written, Page.text, Json.itemsText_singleton]
    rfl
  have htokens : Pieces.tokens 0 ps = v.tokens 0 := by
    rw [← Page.tokens_ofPieces hone]
    simp [Page.tokens, Outline.tokens, Value.itemTokens]
  rw [TokenStream.ofBytes, hwritten, Json.read_bytes hintegral hnesting hdistinct, htokens]
  rfl

/-- Calls with escapes in names, the least and the greatest number, and a value in one piece. -/
def describedCalls : List Piece := [
  .opening .object, .name "\"k\\\n", .value (.number (.integer (-9223372036854775808))),
  .name "é😀", .opening .array, .value (.number (.integer 18446744073709551615)),
  .value (.object [("a", .array [.null])]), .closing .array, .closing .object]

def described : Value := .object [
  ("\"k\\\n", .number (.integer (-9223372036854775808))),
  ("é😀", .array [.number (.integer 18446744073709551615), .object [("a", .array [.null])]])]

theorem ofBytes_written_described :
    ((Trial.of (List.replicate 100 0)).afterAll describedCalls).accepted = describedCalls ∧
      Page.ofPieces describedCalls = some ⟨[described], .blank, rfl⟩ ∧
      TokenStream.ofBytes ((Trial.of (List.replicate 100 0)).afterAll describedCalls).writer.written
        = .ok (.ofTokens [
          (.beginObject, 0), (.propertyName "\"k\\\n", 1),
          (.number (.integer (-9223372036854775808)), 1), (.propertyName "é😀", 1),
          (.beginArray, 1), (.number (.integer 18446744073709551615), 2), (.beginObject, 2),
          (.propertyName "a", 3), (.beginArray, 3), (.null, 4), (.endArray, 3), (.endObject, 2),
          (.endArray, 1), (.endObject, 0)]) := by
  have hall : ((Trial.of (List.replicate 100 0)).afterAll describedCalls).accepted
      = describedCalls := by
    decide +kernel
  have hone : Page.ofPieces describedCalls = some ⟨[described], .blank, rfl⟩ := rfl
  have hdistinct : described.Distinct := by simp [described, Members.names]
  have hintegral : described.Integral := by simp [described, Json.fits_iff]
  exact ⟨hall, hone, ofBytes_written _ _ _ described rfl hall hone hdistinct hintegral (by decide)⟩

end Writer
end DeviceTwin
