import DeviceTwin.Acknowledgement.Tree
import DeviceTwin.Proofs.Document.Revision
import Mathlib.Data.List.SplitBy
import Mathlib.Data.List.TakeWhile

/-!
# The members of an acknowledgement

Accepted properties that follow each other and belong to one component share a wrapper. In a
document all properties of a component follow each other, and so do those of them that are left when
stale ones are sorted out. So one wrapper holds all that was accepted of a component.

Results:
* `acceptedMembers_root`, `acceptedMembers_component`: the members, from the first property on.
* `acceptedMembers_flatMap`: the properties of each member of a document form one group.
* `acknowledges_properties`: the acknowledgement of a document has one member for each root property
  and one for each component, and holds nothing else.
-/
namespace DeviceTwin.Acknowledgement

open Json (Members Value)

/-! ## Groups -/

/-- The member that acknowledges a property, within its component. -/
def blockMember (version : Int) (q : Accepted) : String × Value :=
  (q.1.name, block Status.ok version (some success) q.2)

def acceptedMembers (version : Int) (accepted : List Accepted) : Members :=
  (accepted.splitBy fun a b => a.1.component = b.1.component).flatMap (groupMembers version)

theorem groupMembers_cons (version : Int) (q : Accepted) (group : List Accepted) :
    groupMembers version (q :: group)
      = inComponent q.1.component ((q :: group).map (blockMember version)) := rfl

theorem acceptedMembers_append (version : Int) {q : Accepted} {group rest : List Accepted}
    (hg : ∀ a ∈ group, a.1.component = q.1.component)
    (hr : ∀ a ∈ rest.head?, a.1.component ≠ q.1.component) :
    acceptedMembers version (q :: group ++ rest)
      = groupMembers version (q :: group) ++ acceptedMembers version rest := by
  have hall : ∀ a ∈ q :: group, a.1.component = q.1.component := fun a ha =>
    (List.mem_cons.1 ha).elim (fun he => he ▸ rfl) (hg a)
  have hchain : (q :: group).IsChain fun a b => decide (a.1.component = b.1.component) = true :=
    (List.pairwise_of_forall_mem_list fun a ha b hb => by
      simp [hall a ha, hall b hb]).isChain
  rw [acceptedMembers, List.splitBy_append, List.splitBy_of_isChain (by simp) hchain]
  · simp [acceptedMembers]
  · intro a ha b hb
    have hab := hr b hb
    rw [← hall a (List.mem_of_mem_getLast? ha)] at hab
    simpa using Ne.symm hab

variable (version : Int) {q : Accepted} {accepted : List Accepted}

/-- The first group reaches up to the first property of another component. -/
theorem acceptedMembers_span (q : Accepted) (accepted : List Accepted) :
    acceptedMembers version (q :: accepted)
      = groupMembers version (q :: accepted.takeWhile (·.1.component = q.1.component))
        ++ acceptedMembers version (accepted.dropWhile (·.1.component = q.1.component)) := by
  have hsplit : q :: accepted = q :: accepted.takeWhile (·.1.component = q.1.component)
      ++ accepted.dropWhile (·.1.component = q.1.component) := by
    rw [List.cons_append, List.takeWhile_append_dropWhile]
  rw [hsplit]
  refine acceptedMembers_append version (fun a ha => ?_) fun a ha => ?_
  · simpa using List.mem_takeWhile_imp ha
  · have hnot := List.head?_dropWhile_not (fun a : Accepted => a.1.component = q.1.component)
      accepted
    rw [Option.mem_def.1 ha] at hnot
    simpa using hnot

theorem acceptedMembers_root (hq : q.1.component = none) :
    acceptedMembers version (q :: accepted)
      = blockMember version q :: acceptedMembers version accepted := by
  rw [acceptedMembers_span, hq]
  cases accepted with
  | nil => simp [groupMembers_cons, inComponent, hq]
  | cons b rest =>
    by_cases hb : b.1.component = none
    · rw [acceptedMembers_span version b rest, hb]
      simp [groupMembers_cons, inComponent, hq, hb]
    · simp [groupMembers_cons, inComponent, hq, hb]

/-- A component is one member up to the next property that is not its own. -/
theorem acceptedMembers_component {c : String} (hq : q.1.component = some c) :
    acceptedMembers version (q :: accepted)
      = (c, wrapper ((q :: accepted.takeWhile (·.1.component = some c)).map (blockMember version)))
        :: acceptedMembers version (accepted.dropWhile (·.1.component = some c)) := by
  rw [acceptedMembers_span, hq]
  simp [groupMembers_cons, inComponent, hq]

theorem acceptedMembers_roots {roots : List Accepted} (h : ∀ q ∈ roots, q.1.component = none)
    (rest : List Accepted) :
    acceptedMembers version (roots ++ rest)
      = roots.map (blockMember version) ++ acceptedMembers version rest := by
  induction roots with
  | nil => rfl
  | cons q roots ih =>
    rw [List.cons_append, acceptedMembers_root version (h q List.mem_cons_self),
      ih fun a ha => h a (List.mem_cons_of_mem _ ha)]
    rfl

/-! ## Groups of a document -/

section Properties

variable (registry : ComponentRegistry) (fresh : Property × Value → Bool)

/-- The properties of one member that are not sorted out. -/
def kept (m : String × Value) : List Accepted :=
  (Document.memberProperties registry m).filter fresh

variable {registry fresh} {m : String × Value} {ms : Members}

theorem filter_properties (ms : Members) :
    (Document.properties registry ms).filter fresh = ms.flatMap (kept registry fresh) :=
  List.filter_flatMap

theorem memberName_of_mem_kept (h : q ∈ kept registry fresh m) :
    Document.memberName q.1 = m.1 :=
  Document.memberName_of_mem (List.mem_of_mem_filter h)

theorem component_eq_of_mem_kept {a : Accepted} (ha : a ∈ kept registry fresh m)
    (hq : q ∈ kept registry fresh m) : a.1.component = q.1.component := by
  replace ha := List.mem_of_mem_filter ha
  replace hq := List.mem_of_mem_filter hq
  rcases Document.memberProperties_cases registry m with heq | heq | ⟨inside, -, heq⟩ <;>
    rw [heq] at ha hq
  · cases ha
  · cases List.mem_singleton.1 ha
    cases List.mem_singleton.1 hq
    rfl
  · rw [Document.component_of_mem_componentProperties ha,
      Document.component_of_mem_componentProperties hq]

theorem memberName_of_mem_flatMap (h : q ∈ ms.flatMap (kept registry fresh)) :
    Document.memberName q.1 ∈ Members.names ms := by
  obtain ⟨m, hm, hq⟩ := List.mem_flatMap.1 h
  rw [memberName_of_mem_kept hq]
  exact List.mem_map_of_mem hm

/-- The properties of each member of a document form one group. -/
theorem acceptedMembers_flatMap (hn : (Members.names ms).Nodup) :
    acceptedMembers version (ms.flatMap (kept registry fresh))
      = ms.flatMap fun m => groupMembers version (kept registry fresh m) := by
  induction ms with
  | nil => rfl
  | cons m ms ih =>
    obtain ⟨hnew, hn⟩ := List.nodup_cons.1 hn
    rw [List.flatMap_cons, List.flatMap_cons, ← ih hn]
    cases hk : kept registry fresh m with
    | nil => rfl
    | cons q group =>
      have hq : q ∈ kept registry fresh m := hk ▸ List.mem_cons_self
      have hgroup : ∀ a ∈ q :: group, a.1.component = q.1.component := fun a ha =>
        component_eq_of_mem_kept (hk ▸ ha) hq
      cases hc : q.1.component with
      | none =>
        rw [acceptedMembers_roots version fun a ha => (hgroup a ha).trans hc, groupMembers_cons, hc]
        rfl
      | some c =>
        refine acceptedMembers_append version
          (fun a ha => hgroup a (List.mem_cons_of_mem _ ha)) fun a ha he => hnew ?_
        -- A property of this component would stand in a member of the same name.
        have hname : Document.memberName a.1 = m.1 := by
          rw [← memberName_of_mem_kept hq, Document.memberName, Document.memberName, he, hc]
          rfl
        rw [← hname]
        exact memberName_of_mem_flatMap (List.mem_of_mem_head? ha)

/-- The group of a member is one member of the same name, or nothing. -/
theorem names_groupMembers_kept (version : Int) (registry : ComponentRegistry)
    (fresh : Property × Value → Bool) (m : String × Value) :
    kept registry fresh m = [] ∨
      Members.names (groupMembers version (kept registry fresh m)) = [m.1] := by
  cases hk : kept registry fresh m with
  | nil => exact .inl rfl
  | cons q group =>
    refine .inr ?_
    have hq : q ∈ kept registry fresh m := hk ▸ List.mem_cons_self
    have hname := memberName_of_mem_kept hq
    rw [groupMembers_cons]
    cases hc : q.1.component with
    | some c =>
      rw [Document.memberName, hc] at hname
      simpa [inComponent] using hname
    | none =>
      -- At the root a member stands for one property, so it has no more than one in its group.
      rw [Document.memberName, hc] at hname
      rcases Document.memberProperties_cases registry m with heq | heq | ⟨inside, -, heq⟩ <;>
        rw [kept, heq] at hk
      · cases hk
      · rw [List.filter_cons, List.filter_nil] at hk
        split at hk <;> cases hk
        simp [inComponent, blockMember]
      · have hin : q ∈ Document.componentProperties m.1 inside :=
          List.mem_of_mem_filter (hk ▸ List.mem_cons_self)
        rw [Document.component_of_mem_componentProperties hin] at hc
        cases hc

theorem filter_component {c : String} (hn : (Members.names ms).Nodup) (hm : m ∈ ms)
    (hq : q ∈ kept registry fresh m) (hc : q.1.component = some c) :
    (ms.flatMap (kept registry fresh)).filter (·.1.component = some c)
      = kept registry fresh m := by
  have hname : m.1 = c := by
    rw [← memberName_of_mem_kept hq, Document.memberName, hc]
    rfl
  have hnone : ∀ l : List Accepted, (∀ a ∈ l, Document.memberName a.1 ≠ c) →
      l.filter (·.1.component = some c) = [] := fun l hl => by
    refine List.filter_eq_nil_iff.2 fun a ha hac => hl a ha ?_
    simp only [decide_eq_true_eq] at hac
    rw [Document.memberName, hac]
    rfl
  induction ms with
  | nil => cases hm
  | cons m' ms ih =>
    obtain ⟨hnew, hn⟩ := List.nodup_cons.1 hn
    rw [List.flatMap_cons, List.filter_append]
    rcases List.mem_cons.1 hm with rfl | hms
    · have hrest := hnone (ms.flatMap (kept registry fresh)) fun a ha he =>
        hnew (hname ▸ he ▸ memberName_of_mem_flatMap ha)
      rw [hrest, List.append_nil]
      refine List.filter_eq_self.2 fun a ha => ?_
      simp [component_eq_of_mem_kept ha hq, hc]
    · have hfirst := hnone (kept registry fresh m') fun a ha he => by
        rw [memberName_of_mem_kept ha] at he
        exact hnew (List.mem_map.2 ⟨m, hms, hname.trans he.symm⟩)
      rw [hfirst, List.nil_append]
      exact ih hn hms

end Properties

/-! ## The whole acknowledgement -/

/-- What the object with the members `ms` holds where it acknowledges `accepted`. -/
structure Acknowledges (version : Int) (accepted : List Accepted) (ms : Members) : Prop where
  /-- The members come in the order of the properties, all of a component at the first of them. -/
  names : Members.names ms = (accepted.map fun q => Document.memberName q.1).eraseDups
  nodup : (Members.names ms).Nodup
  root : ∀ q ∈ accepted, q.1.component = none → blockMember version q ∈ ms
  /-- One wrapper holds all that was accepted of a component. -/
  component : ∀ q ∈ accepted, ∀ c, q.1.component = some c →
    (c, wrapper ((accepted.filter (·.1.component = some c)).map (blockMember version))) ∈ ms

theorem eraseDups_cons_append {n : String} {same rest : List String} (hs : ∀ x ∈ same, x = n)
    (hr : n ∉ rest) : (n :: same ++ rest).eraseDups = n :: rest.eraseDups := by
  have hsame : same.filter (fun x => !x == n) = [] :=
    List.filter_eq_nil_iff.2 fun x hx => by simp [hs x hx]
  have hrest : rest.filter (fun x => !x == n) = rest :=
    List.filter_eq_self.2 fun x hx => by
      have hne : x ≠ n := fun he => hr (he ▸ hx)
      simpa using hne
  rw [List.cons_append, List.eraseDups_cons, List.filter_append, hsame, hrest, List.nil_append]

section Names

variable (version : Int) (registry : ComponentRegistry) (fresh : Property × Value → Bool)

theorem names_flatMap_groupMembers_sublist (ms : Members) :
    (Members.names (ms.flatMap fun m => groupMembers version (kept registry fresh m))).Sublist
      (Members.names ms) := by
  induction ms with
  | nil => exact List.Sublist.slnil
  | cons m ms ih =>
    rw [List.flatMap_cons, Members.names_append, Members.names_cons]
    rcases names_groupMembers_kept version registry fresh m with hk | hnames
    · rw [hk]
      exact ih.cons _
    · rw [hnames]
      exact ih.cons_cons _

/-- The members come in the order of the properties. -/
theorem names_flatMap_groupMembers {ms : Members} (hn : (Members.names ms).Nodup) :
    Members.names (ms.flatMap fun m => groupMembers version (kept registry fresh m))
      = ((ms.flatMap (kept registry fresh)).map fun q => Document.memberName q.1).eraseDups := by
  induction ms with
  | nil => rfl
  | cons m ms ih =>
    obtain ⟨hnew, hn⟩ := List.nodup_cons.1 hn
    rw [List.flatMap_cons, List.flatMap_cons, Members.names_append, List.map_append, ih hn]
    have hgroup := names_groupMembers_kept version registry fresh m
    cases hk : kept registry fresh m with
    | nil => rfl
    | cons q group =>
      rw [hk] at hgroup
      have hname : ∀ a ∈ q :: group, Document.memberName a.1 = m.1 := fun a ha =>
        memberName_of_mem_kept (hk ▸ ha)
      have hsame : ∀ x ∈ group.map (fun a => Document.memberName a.1), x = m.1 := by
        intro x hx
        obtain ⟨a, ha, rfl⟩ := List.mem_map.1 hx
        exact hname a (List.mem_cons_of_mem _ ha)
      have hrest : m.1 ∉ (ms.flatMap (kept registry fresh)).map
          fun a => Document.memberName a.1 := by
        intro hmem
        obtain ⟨a, ha, he⟩ := List.mem_map.1 hmem
        exact hnew (he ▸ memberName_of_mem_flatMap ha)
      rw [hgroup.resolve_left (by simp), List.map_cons, hname q List.mem_cons_self,
        eraseDups_cons_append hsame hrest]
      rfl

end Names

/-- The acknowledgement of a document has one member for each root property and one for each
component, and holds nothing else. -/
theorem acknowledges_properties (version : Int) (registry : ComponentRegistry)
    (fresh : Property × Value → Bool) {ms : Members} (hn : (Members.names ms).Nodup) :
    Acknowledges version ((Document.properties registry ms).filter fresh)
      (acceptedMembers version ((Document.properties registry ms).filter fresh)) := by
  rw [filter_properties, acceptedMembers_flatMap version hn]
  have group_of_mem : ∀ q ∈ ms.flatMap (kept registry fresh), ∃ m ∈ ms,
      q ∈ kept registry fresh m ∧ groupMembers version (kept registry fresh m)
        = inComponent q.1.component ((kept registry fresh m).map (blockMember version)) := by
    intro q hq
    obtain ⟨m, hm, hq⟩ := List.mem_flatMap.1 hq
    refine ⟨m, hm, hq, ?_⟩
    cases hk : kept registry fresh m with
    | nil => rw [hk] at hq; cases hq
    | cons q' group =>
      rw [groupMembers_cons, component_eq_of_mem_kept (hk ▸ List.mem_cons_self) hq]
  refine ⟨names_flatMap_groupMembers version registry fresh hn,
    hn.sublist (names_flatMap_groupMembers_sublist version registry fresh ms),
    fun q hq hc => ?_, fun q hq c hc => ?_⟩
  · obtain ⟨m, hm, hqm, hgroup⟩ := group_of_mem q hq
    refine List.mem_flatMap.2 ⟨m, hm, ?_⟩
    rw [hgroup, hc]
    exact List.mem_map_of_mem hqm
  · obtain ⟨m, hm, hqm, hgroup⟩ := group_of_mem q hq
    refine List.mem_flatMap.2 ⟨m, hm, ?_⟩
    rw [hgroup, hc, filter_component hn hm hqm hc]
    exact List.mem_singleton.2 rfl

end DeviceTwin.Acknowledgement
