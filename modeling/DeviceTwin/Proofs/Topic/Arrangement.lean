import DeviceTwin.Proofs.Topic.Recognition

/-!
# The arrangement of queries

A query is read from the left, a fault ends it, and of a key that is repeated the last value counts.
Where neither of the two keys that count is repeated none of this can be told from what is read: the
parts may stand in any order, and among them may stand any others.

Results:
* `Rearranged.perm_valuesOf`: a query that is arranged anew has the same values, in some order.
* `classify_agrees`: what is recognised hangs on these values alone.
* `classify_of_rearranged`: where no key is repeated, an arrangement is as good as any other.
-/
namespace DeviceTwin.TopicScheme

/-! ## Arranging the parts of a query -/

/-- A part that says nothing. An empty one is of this kind. -/
def Part.IsSilent (p : Part) : Prop := p.key ≠ idKey.toList ∧ p.key ≠ versionKey.toList

/-- The same parts in another order, or with silent ones put in or taken out at any places. -/
inductive Rearranged : List Part → List Part → Prop
  | reorder {parts parts' : List Part} (h : parts.Perm parts') : Rearranged parts parts'
  | insert (front : List Part) (p : Part) (back : List Part) (hp : p.IsSilent) :
    Rearranged (front ++ back) (front ++ p :: back)
  | delete (front : List Part) (p : Part) (back : List Part) (hp : p.IsSilent) :
    Rearranged (front ++ p :: back) (front ++ back)
  | trans {parts parts' parts'' : List Part} (h : Rearranged parts parts')
    (h' : Rearranged parts' parts'') : Rearranged parts parts''

section Values

variable {key : String} (hkey : key = idKey ∨ key = versionKey)
include hkey

theorem Part.IsSilent.key_ne {p : Part} (hp : p.IsSilent) : p.key ≠ key.toList := by
  rcases hkey with rfl | rfl
  · exact hp.1
  · exact hp.2

theorem valuesOf_silent {p : Part} (hp : p.IsSilent) (front back : List Part) :
    valuesOf key (front ++ p :: back) = valuesOf key (front ++ back) := by
  unfold valuesOf
  rw [List.filter_append, List.filter_append,
    List.filter_cons_of_neg (by simpa using hp.key_ne hkey)]

/-- A query that is arranged anew has the same values, in some order. -/
theorem Rearranged.perm_valuesOf {parts parts' : List Part} (h : Rearranged parts parts') :
    (valuesOf key parts).Perm (valuesOf key parts') := by
  induction h with
  | reorder h => exact (h.filter _).map _
  | insert front p back hp => rw [valuesOf_silent hkey hp]
  | delete front p back hp => rw [valuesOf_silent hkey hp]
  | trans _ _ ih ih' => exact ih.trans ih'

/-- Where the key is not repeated there is only one order. -/
theorem Rearranged.valuesOf_eq {parts parts' : List Part} (h : Rearranged parts parts')
    (honce : (valuesOf key parts).length ≤ 1) : valuesOf key parts = valuesOf key parts' := by
  have hperm := h.perm_valuesOf hkey
  cases hvalues : valuesOf key parts with
  | nil =>
    rw [hvalues] at hperm
    exact hperm.nil_eq
  | cons v vs =>
    rw [hvalues, List.length_cons] at honce
    have hnil : vs = [] := List.length_eq_zero_iff.1 (by omega)
    subst hnil
    rw [hvalues] at hperm
    exact (List.perm_singleton.1 hperm.symm).symm

end Values

/-! ## What is recognised -/

/-- The topic with a query behind a path. -/
def queried (s : TopicScheme) (f : Family) (parts : List Part) : String :=
  String.ofList (s.below f ('/' :: '?' :: joined parts))

/-- Two topics that say the same, or are both refused. -/
def Agree (s : TopicScheme) (topic topic' : String) : Prop :=
  (∃ r, s.classify topic = .ok (some r) ∧ s.classify topic' = .ok (some r)) ∨
    ∃ fault fault', s.classify topic = .error (.invalidTopic fault) ∧
      s.classify topic' = .error (.invalidTopic fault')

variable (s : TopicScheme) (f : Family) {parts parts' : List Part}

theorem toList_queried (parts : List Part) :
    (s.queried f parts).toList = s.below f ('/' :: '?' :: joined parts) := String.toList_ofList

theorem classify_queried_iff {r : Response} : s.classify (s.queried f parts) = .ok (some r) ↔
    ∃ q : Query, q.FromParts parts ∧ f.Gives q r := by
  have hquery : queryPart ('/' :: '?' :: joined parts) = joined parts := rfl
  rw [classify_ok_iff rfl s (toList_queried s f parts), hquery]
  simp only [Query.fromText_joined]

/-- What is recognised hangs on the values of the two keys alone. -/
theorem classify_agrees (hid : valuesOf idKey parts = valuesOf idKey parts')
    (hversion : valuesOf versionKey parts = valuesOf versionKey parts') :
    s.Agree (s.queried f parts) (s.queried f parts') := by
  have hsame : ∀ r, s.classify (s.queried f parts) = .ok (some r) ↔
      s.classify (s.queried f parts') = .ok (some r) := by
    intro r
    rw [classify_queried_iff, classify_queried_iff]
    simp only [Query.fromParts_congr hid hversion]
  rcases classify_cases rfl s (toList_queried s f parts) with ⟨r, hr⟩ | ⟨fault, hfault⟩
  · exact .inl ⟨r, hr, (hsame r).1 hr⟩
  · rcases classify_cases rfl s (toList_queried s f parts')
      with ⟨r, hr⟩ | ⟨fault', hfault'⟩
    · rw [(hsame r).2 hr] at hfault
      cases hfault
    · exact .inr ⟨fault, fault', hfault, hfault'⟩

/-- Where neither key is repeated an arrangement of the query is as good as any other. The parts may
be put into any order, and silent parts may be put in and taken out at any places: the topic says the
same, or it is refused as before. -/
theorem classify_of_rearranged (h : Rearranged parts parts')
    (hid : (valuesOf idKey parts).length ≤ 1)
    (hversion : (valuesOf versionKey parts).length ≤ 1) :
    s.Agree (s.queried f parts) (s.queried f parts') :=
  classify_agrees s f (h.valuesOf_eq (.inl rfl) hid) (h.valuesOf_eq (.inr rfl) hversion)

/-- An id, with a value that looks like another part. -/
def idPart : Part :=
  ⟨"$rid".toList, some "$version=a".toList, by decide, by decide, by rintro v ⟨⟩; decide⟩

def versionPart : Part :=
  ⟨"$version".toList, some "-7".toList, by decide, by decide, by rintro v ⟨⟩; decide⟩

/-- A part that looks like the end of a path. -/
def markPart : Part :=
  ⟨"/?x".toList, some "$rid".toList, by decide, by decide, by rintro v ⟨⟩; decide⟩

theorem amp_not_mem_none : ∀ v ∈ (none : Option (List Char)), '&' ∉ v := by
  rintro v ⟨⟩

def emptyPart : Part := ⟨"".toList, none, by decide, by decide, amp_not_mem_none⟩

/-- The path of an answer whose status is written with a zero in front. -/
def paddedAnswer : Family := .answer "0200".toList (by simp [endsLevel])

theorem classify_of_rearranged_sample :
    (⟨"p"⟩ : TopicScheme).classify "p/twin/res/0200/?/?x=$rid&$version=-7&&$rid=$version=a"
      = .ok (some ⟨.documentGet, some "$version=a", some 200, some (-7)⟩) := by
  have h : Rearranged [idPart, versionPart] [markPart, versionPart, emptyPart, idPart] :=
    .trans (.reorder (.swap versionPart idPart []))
      (.trans (.insert [versionPart] emptyPart [idPart] ⟨by decide, by decide⟩)
        (.insert [] markPart [versionPart, emptyPart, idPart] ⟨by decide, by decide⟩))
  have hagree := classify_of_rearranged ⟨"p"⟩ paddedAnswer h (by decide) (by decide)
  have htopic : queried ⟨"p"⟩ paddedAnswer [idPart, versionPart]
      = "p/twin/res/0200/?$rid=$version=a&$version=-7" := by decide +kernel
  have htopic' : queried ⟨"p"⟩ paddedAnswer [markPart, versionPart, emptyPart, idPart]
      = "p/twin/res/0200/?/?x=$rid&$version=-7&&$rid=$version=a" := by decide +kernel
  have hclassify : (⟨"p"⟩ : TopicScheme).classify "p/twin/res/0200/?$rid=$version=a&$version=-7"
      = .ok (some ⟨.documentGet, some "$version=a", some 200, some (-7)⟩) := by decide +kernel
  rw [htopic, htopic'] at hagree
  rcases hagree with ⟨r, hr, hr'⟩ | ⟨fault, fault', hfault, -⟩
  · rw [hclassify] at hr
    cases hr
    exact hr'
  · rw [hclassify] at hfault
    cases hfault

/-- With two ids the order counts. -/
example : (⟨"p"⟩ : TopicScheme).classify "p/twin/res/200/?$rid=a&$rid=b"
    ≠ (⟨"p"⟩ : TopicScheme).classify "p/twin/res/200/?$rid=b&$rid=a" := by decide +kernel

end DeviceTwin.TopicScheme
