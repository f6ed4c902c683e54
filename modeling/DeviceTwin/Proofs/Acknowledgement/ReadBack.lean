import DeviceTwin.Proofs.Acknowledgement.Steps
import DeviceTwin.Proofs.Document.Revision
import DeviceTwin.Proofs.Document.Whole
import DeviceTwin.Proofs.Json.RoundTrip
import Mathlib.Data.List.Nodup

/-!
# Payloads as documents

A finished payload is a document of its own. Walked as a change of desired properties, with its
components registered, it yields the properties that it acknowledges, if their names can be told
apart and their values survive as text.

Results:
* `properties_members`: the parts of a draft are the properties of its tree.
* `properties_of_finish`: reading a finished payload gives back what was written into it.
-/
namespace DeviceTwin.Acknowledgement

open Json (Members Value)

/-! ## What a draft acknowledges -/

def Part.component? : Part → Option String
  | member _ => none
  | component name _ => some name

/-- The properties that a part acknowledges, with what it says of each. -/
def Part.properties : Part → List (Property × Value)
  | member m => [(⟨none, m.1⟩, m.2)]
  | component name members => members.map fun m => (⟨some name, m.1⟩, m.2)

namespace Draft

def componentNames (d : Draft) : List String := d.parts.filterMap Part.component?

/-- The properties that a draft acknowledges, in their order. -/
def properties (d : Draft) : List (Property × Value) := d.parts.flatMap Part.properties

/-- Names that a reader tells apart and values that it reads as they are. -/
structure Readable (d : Draft) : Prop where
  /-- The names at the root are all different. -/
  names : (Members.names d.members).Nodup
  /-- The names in a component are all different, and none is that of the marker. -/
  namesWithin : ∀ c ms, .component c ms ∈ d.parts →
    (Members.names ms).Nodup ∧ Component.markerKey ∉ Members.names ms
  /-- No name is reserved. -/
  unreserved : ∀ name ∈ Members.names d.members ++ d.properties.map (·.1.name),
    Document.isReserved name = false
  /-- In each value the names differ and the numbers are integers. -/
  values : ∀ q ∈ d.properties, q.2.Distinct ∧ q.2.Integral
  /-- Not too many containers stand within each other. -/
  nesting : (Value.object d.members).nesting ≤ Json.maxDepth

end Draft

@[simp] theorem distinct_block (code : Nat) (version : Int) (description : Option String)
    (v : Value) : (block code version description v).Distinct ↔ v.Distinct := by
  have hn : (Members.names (blockMembers code version description v)).Nodup := by
    rw [names_block]
    cases description with
    | none => exact (by decide : [codeKey, versionKey, valueKey].Nodup)
    | some _ => exact (by decide : [codeKey, versionKey, descriptionKey, valueKey].Nodup)
  rw [block, Value.distinct_object, and_iff_right hn]
  cases description <;> simp [blockMembers]

@[simp] theorem integral_block (code : Nat) (version : Int) (description : Option String)
    (v : Value) : (block code version description v).Integral ↔
      Json.Number.fits code = true ∧ Json.Number.fits version = true ∧ v.Integral := by
  rw [block, Value.integral_object]
  cases description <;> simp [blockMembers]

/-! ## The tree of a draft -/

theorem Draft.mem_properties_of_member {d : Draft} {m : String × Value}
    (h : Part.member m ∈ d.parts) : (⟨none, m.1⟩, m.2) ∈ d.properties :=
  List.mem_flatMap.2 ⟨_, h, List.mem_singleton_self _⟩

theorem Draft.mem_properties_of_component {d : Draft} {c : String} {ms : Members}
    {m : String × Value} (h : Part.component c ms ∈ d.parts) (hm : m ∈ ms) :
    (⟨some c, m.1⟩, m.2) ∈ d.properties :=
  List.mem_flatMap.2 ⟨_, h, List.mem_map_of_mem hm⟩

/-- Without reserved names all members of a component are properties. -/
theorem componentProperties_eq (c : String) {ms : Members}
    (h : ∀ m ∈ ms, Document.isReserved m.1 = false ∧ m.1 ≠ Component.markerKey) :
    Document.componentProperties c ms = (Part.component c ms).properties := by
  have hkept : ms.filter (fun m => !Document.isReserved m.1 && m.1 ≠ Component.markerKey) = ms := by
    rw [List.filter_eq_self]
    intro m hm
    obtain ⟨hname, hmarker⟩ := h m hm
    simp [hname, hmarker]
  rw [Document.componentProperties, hkept]
  rfl

theorem toMember_component (c : String) (ms : Members) :
    (Part.component c ms).toMember
      = (c, .object ((Component.markerKey, .string Component.markerValue) :: ms)) := rfl

section Readable

open Draft (mem_properties_of_member mem_properties_of_component)

variable {d : Draft} (h : d.Readable)
include h

theorem Draft.Readable.distinct : (Value.object d.members).Distinct := by
  refine (Value.distinct_object _).2 ⟨h.names, fun m hm => ?_⟩
  obtain ⟨part, hpart, rfl⟩ := List.mem_map.1 hm
  cases part with
  | member m => exact (h.values _ (mem_properties_of_member hpart)).1
  | component c ms =>
    obtain ⟨hn, hmarker⟩ := h.namesWithin c ms hpart
    rw [toMember_component, Value.distinct_object]
    refine ⟨List.nodup_cons.2 ⟨hmarker, hn⟩, fun m hm => ?_⟩
    rcases List.mem_cons.1 hm with rfl | hm
    · exact Value.distinct_string _
    · exact (h.values _ (mem_properties_of_component hpart hm)).1

theorem Draft.Readable.integral : (Value.object d.members).Integral := by
  refine (Value.integral_object _).2 fun m hm => ?_
  obtain ⟨part, hpart, rfl⟩ := List.mem_map.1 hm
  cases part with
  | member m => exact (h.values _ (mem_properties_of_member hpart)).2
  | component c ms =>
    rw [toMember_component, Value.integral_object]
    intro m hm
    rcases List.mem_cons.1 hm with rfl | hm
    · exact Value.integral_string _
    · exact (h.values _ (mem_properties_of_component hpart hm)).2

theorem Draft.Readable.not_mem_componentNames {m : String × Value}
    (hm : Part.member m ∈ d.parts) : m.1 ∉ d.componentNames := by
  intro hc
  obtain ⟨part, hpart, hname⟩ := List.mem_filterMap.1 hc
  cases part with
  | member => cases hname
  | component c ms =>
    have hn : (d.parts.map fun part => part.toMember.1).Nodup := by
      have hnames := h.names
      rwa [Members.names, Draft.members, List.map_map] at hnames
    cases List.inj_on_of_nodup_map hn hm hpart (Option.some.inj hname).symm

/-- What a part says is found in the member that it is. -/
theorem Draft.Readable.memberProperties_toMember {registry : ComponentRegistry} {part : Part}
    (hregistry : ∀ name, registry.contains name = true ↔ name ∈ d.componentNames)
    (hpart : part ∈ d.parts) :
    Document.memberProperties registry part.toMember = part.properties := by
  have hroot : Document.isReserved part.toMember.1 = false :=
    h.unreserved _ (List.mem_append_left _ (List.mem_map_of_mem (List.mem_map_of_mem hpart)))
  rw [Document.memberProperties, hroot, if_neg (by simp)]
  cases part with
  | member m =>
    have hplain : ¬registry.contains m.1 = true := fun hc =>
      h.not_mem_componentNames hpart ((hregistry _).1 hc)
    exact if_neg hplain
  | component c ms =>
    have hknown : registry.contains c = true :=
      (hregistry c).2 (List.mem_filterMap.2 ⟨_, hpart, rfl⟩)
    have hinner : Document.componentMembers? (Part.component c ms).toMember.2 = some ms := rfl
    rw [toMember_component] at hinner ⊢
    rw [if_pos hknown, hinner]
    refine componentProperties_eq c fun m hm => ⟨?_, fun he => ?_⟩
    · have hname := List.mem_map_of_mem (f := (·.1.name)) (mem_properties_of_component hpart hm)
      exact h.unreserved m.1 (List.mem_append_right _ hname)
    · exact (h.namesWithin c ms hpart).2 (he ▸ List.mem_map_of_mem hm)

/-- The parts of a draft are the properties of its tree. -/
theorem Draft.Readable.properties_members {registry : ComponentRegistry}
    (hregistry : ∀ name, registry.contains name = true ↔ name ∈ d.componentNames) :
    Document.properties registry d.members = d.properties := by
  rw [Document.properties, Draft.members, List.flatMap_map, Draft.properties]
  exact List.flatMap_congr fun part hpart => h.memberProperties_toMember hregistry hpart

end Readable

/-- Reading a finished payload gives back what was written into it. Over any room and behind any
calls, of which each may have succeeded or failed, let the successful ones describe a draft whose
names can be told apart and whose values can be read. If the payload is ended, its bytes are those of
a document. With just its components registered, a cursor over this document yields the properties of
the draft in their order, each with its plain value or its block, and ends behind the last one. -/
theorem properties_of_finish (region : Bytes) (a a' : Acknowledgement) (w : Writer)
    (steps : List Step) (d : Draft) (registry : ComponentRegistry)
    (hstart : start (Writer.ofRegion region) = .ok a w) (hsteps : (Trial.of a).Careful steps)
    (hdraft : Draft.ofSteps ((Trial.of a).afterAll steps).succeeded = some d) (hd : d.Readable)
    (hfinish : finish ((Trial.of a).afterAll steps).payload = .ok () a')
    (hregistry : ∀ name, registry.contains name = true ↔ name ∈ d.componentNames) :
    TokenStream.ofBytes a'.writer.written = .ok (TokenStream.ofValue (.object d.members)) ∧
      Document.payloadProperties .desiredPatch .writeableOnly registry a'.writer.written
        = .ok d.properties := by
  obtain ⟨d', hd', hw⟩ := writes_afterAll (writes_start hstart) rfl hsteps
  obtain rfl := Option.some.inj (hdraft.symm.trans hd')
  have hread : Json.read a'.writer.written = .ok (.object d.members) := by
    rw [(finish_ok hw hfinish).2]
    exact Json.read_bytes hd.integral hd.nesting hd.distinct
  obtain ⟨c, stop, hcursor, hy, hlength⟩ :=
    @Document.yields_of_read registry .desiredPatch _ _ _ rfl hread rfl
  obtain ⟨c', hall⟩ := Cursor.readAll_ok hy (Nat.lt_succ_of_le hlength)
  rw [hd.properties_members hregistry] at hall
  refine ⟨by rw [TokenStream.ofBytes, hread], ?_⟩
  rw [Document.payloadProperties, hcursor]
  dsimp only
  rw [hall]

/-- Calls for a payload with a value that looks like a component, an empty component and names that
need escapes. The one that ends the empty component twice is refused. -/
def describedSteps : List Step := [
  .property "look" (.object [(Component.markerKey, .string Component.markerValue), ("x", .null)]),
  .beginComponent "fan", .endComponent, .endComponent, .beginComponent "heater\n",
  .beginStatus "\"t\\" 200 3 (some "fine"), .append (.opening .array),
  .append (.value (.number (.integer (-21)))), .append (.closing .array), .endStatus,
  .property "look" (.bool true), .endComponent]

def describedParts : List Part := [
  .member ("look", .object [(Component.markerKey, .string Component.markerValue), ("x", .null)]),
  .component "fan" [],
  .component "heater\n" [("\"t\\", block 200 3 (some "fine") (.array [.number (.integer (-21))])),
    ("look", .bool true)]]

/-- A payload with room for 199 bytes behind its opening brace. -/
def describedStart : Acknowledgement :=
  ⟨⟨Utf8.encode ['{'], List.replicate 199 0, [.object], false, false⟩, []⟩

def described : Draft := ⟨describedParts, none, none⟩

theorem readable_described : described.Readable where
  names := by decide
  namesWithin := by
    intro c ms hpart
    simp only [described, describedParts, List.mem_cons, List.not_mem_nil, or_false,
      Part.component.injEq, reduceCtorEq, false_or] at hpart
    rcases hpart with ⟨-, rfl⟩ | ⟨-, rfl⟩ <;> decide
  unreserved := by decide
  values := by
    intro q hq
    simp only [Draft.properties, described, describedParts, List.flatMap_cons, Part.properties,
      List.map_cons, List.map_nil, List.flatMap_nil, List.cons_append, List.nil_append,
      List.append_nil, List.mem_cons, List.not_mem_nil, or_false] at hq
    rcases hq with rfl | rfl | rfl
    · simp [Component.markerKey]
    · simp [Json.fits_iff]
    · simp
  nesting := by decide

theorem properties_of_finish_described :
    ∃ a', finish ((Trial.of describedStart).afterAll describedSteps).payload = .ok () a' ∧
      TokenStream.ofBytes a'.writer.written = .ok (TokenStream.ofValue (.object described.members)) ∧
      Document.payloadProperties .desiredPatch .writeableOnly
          (ComponentRegistry.ofList described.componentNames) a'.writer.written = .ok [
        (⟨none, "look"⟩,
          .object [(Component.markerKey, .string Component.markerValue), ("x", .null)]),
        (⟨some "heater\n", "\"t\\"⟩,
          block 200 3 (some "fine") (.array [.number (.integer (-21))])),
        (⟨some "heater\n", "look"⟩, .bool true)] := by
  have hopens : ∀ free : Bytes, start (Writer.ofRegion (0 :: free))
      = .ok ⟨⟨Utf8.encode ['{'], free, [.object], false, false⟩, []⟩
        ⟨Utf8.encode ['{'], free, [.object], false, false⟩ := fun _ => rfl
  have hstart : start (Writer.ofRegion (List.replicate 200 0))
      = .ok describedStart describedStart.writer := hopens (List.replicate 199 0)
  have hcareful : (Trial.of describedStart).Careful describedSteps := by decide +kernel
  have hsucceeded : ((Trial.of describedStart).afterAll describedSteps).succeeded
      = describedSteps.eraseIdx 3 := by
    decide +kernel
  have hdraft : Draft.ofSteps ((Trial.of describedStart).afterAll describedSteps).succeeded
      = some described := by
    rw [hsucceeded]
    rfl
  have hregistry : ∀ name, (ComponentRegistry.ofList described.componentNames).contains name = true
      ↔ name ∈ described.componentNames := by
    intro name
    exact decide_eq_true_iff
  have hends : (Attempt.outcome
      (finish ((Trial.of describedStart).afterAll describedSteps).payload)).isOk = true := by
    decide +kernel
  cases hfinish : finish ((Trial.of describedStart).afterAll describedSteps).payload with
  | error e a' =>
    rw [hfinish] at hends
    cases hends
  | ok _ a' =>
    exact ⟨a', rfl, properties_of_finish _ _ _ _ _ _ _ hstart hcareful hdraft readable_described
      hfinish hregistry⟩

end DeviceTwin.Acknowledgement
