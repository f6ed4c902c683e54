import DeviceTwin.Proofs.Topic.Grammar
import DeviceTwin.Proofs.Topic.RoundTrip
import Mathlib.Data.List.TakeWhile

/-!
# Which topics are recognised

Two families of paths lie below the root: those of answers, which end with a level that is a status,
and the one of changes. What follows a path begins with a slash or a question mark. One of each is
dropped where it stands, in this order, and what is left is taken for a query. So the question mark
may be missing: further levels of a path are then taken for a key, and with them the first parameter
behind the question mark that they lead up to.

Results:
* `classify_ok_iff`: what is recognised behind a path is what the query says, as the path takes it.
* `classify_cases`: behind a path a topic is recognised, or it is refused.
* `exists_family`: what is recognised lies behind such a path.
* `classify_by_grammar`: the topics that are recognised where the query has its question mark.
* `classify_behind_path`: all topics that are recognised, and which parameter is lost.
* `version_behind_level_lost`: a version that is lost.
-/
namespace DeviceTwin.TopicScheme

/-! ## Paths -/

/-- A path behind which a query is read. -/
inductive Family where
  /-- The path of an answer, of which the last level is the status. -/
  | answer (level : List Char) (isLevel : ∀ c ∈ level, endsLevel c = false)
  /-- The path of changes. -/
  | change

namespace Family

def path : Family → List Char
  | answer level _ => "res/".toList ++ level
  | change => desiredPath.toList

def read (topic : String) : Family → List Char → Except TopicFault Response
  | answer level _, tail => readAnswer topic (level ++ tail)
  | change, tail => readPatch topic tail

/-- What a topic of the family says with a query. An answer has a status and a correlation id, and it
is one to a request for the document if its status is 200. -/
inductive Gives : Family → Query → Response → Prop
  | answer {level : List Char} {isLevel : ∀ c ∈ level, endsLevel c = false} {n : Nat} {q : Query}
    (inRange : n ≤ maxStatus) (isStatus : Integer.Denotes level n) (hasId : q.correlationId ≠ none) :
    Gives (answer level isLevel) q {
      kind := if n = Status.ok then .documentGet else .reportedAck
      correlationId := q.correlationId
      status := some n
      version := q.version }
  | change (q : Query) : Gives change q {
      kind := .desiredPatch
      correlationId := q.correlationId
      status := none
      version := q.version }

end Family

/-- The text of a topic that lies behind a path. -/
def below (s : TopicScheme) (f : Family) (tail : List Char) : List Char :=
  s.root.toList ++ "/twin/".toList ++ (f.path ++ tail)

/-! ## Reading behind a path -/

section Behind

variable {topic : String} {tail : List Char} (htail : tail.head?.all endsLevel = true)
  {r : Response}

include htail in
/-- The level of an answer ends where the tail begins. -/
theorem readAnswer_ok_iff {level : List Char} (isLevel : ∀ c ∈ level, endsLevel c = false) :
    readAnswer topic (level ++ tail) = .ok r ↔
      ∃ q : Query, q.FromText (queryPart tail) ∧ (Family.answer level isLevel).Gives q r := by
  have hlevel : ∀ c ∈ level, (!endsLevel c) = true := fun c hc => by simp [isLevel c hc]
  have htake : tail.takeWhile (fun c => !endsLevel c) = [] := by
    cases tail with
    | nil => rfl
    | cons c tail => exact List.takeWhile_cons_of_neg (by simpa using htail)
  have hdrop : tail.dropWhile (fun c => !endsLevel c) = tail := by
    cases tail with
    | nil => rfl
    | cons c tail => exact List.dropWhile_cons_of_neg (by simpa using htail)
  rw [readAnswer, List.takeWhile_append_of_pos hlevel, List.dropWhile_append_of_pos hlevel, htake,
    hdrop, List.append_nil]
  constructor
  · intro h
    split at h
    · cases h
    · next n hstatus =>
      obtain ⟨inRange, isStatus⟩ := Integer.readNatural_ok_iff.1 hstatus
      split at h
      · cases h
      · next q hquery =>
        split at h
        · cases h
        · next id hid =>
          cases h
          refine ⟨q, Query.read_ok_iff.1 hquery, ?_⟩
          rw [← hid]
          exact .answer inRange isStatus (by simp [hid])
  · rintro ⟨q, hquery, ⟨inRange, isStatus, hasId⟩⟩
    obtain ⟨id, hid⟩ := Option.ne_none_iff_exists'.1 hasId
    rw [Integer.readNatural_ok_iff.2 ⟨inRange, isStatus⟩]
    dsimp only
    rw [Query.read_ok_iff.2 hquery]
    simp only [hid]

theorem readPatch_ok_iff : readPatch topic tail = .ok r ↔
    ∃ q : Query, q.FromText (queryPart tail) ∧ Family.change.Gives q r := by
  rw [readPatch]
  constructor
  · intro h
    split at h
    · cases h
    · next q hquery =>
      cases h
      exact ⟨q, Query.read_ok_iff.1 hquery, .change q⟩
  · rintro ⟨q, hquery, ⟨⟩⟩
    rw [Query.read_ok_iff.2 hquery]

include htail in
theorem read_ok_iff {f : Family} :
    f.read topic tail = .ok r ↔ ∃ q : Query, q.FromText (queryPart tail) ∧ f.Gives q r := by
  cases f with
  | answer level isLevel => exact readAnswer_ok_iff htail isLevel
  | change => exact readPatch_ok_iff

variable (s : TopicScheme) {f : Family} (htopic : topic.toList = s.below f tail)
include htail htopic

/-- Behind a path all hangs on what follows it. -/
theorem classify_eq :
    s.classify topic = ((f.read topic tail).map some).mapError .invalidTopic := by
  cases f with
  | answer level isLevel =>
    refine classify_of_answer s ?_
    rw [htopic, below, Family.path, List.append_assoc "res/".toList]
  | change =>
    have hanswer : strip? "res/".toList (desiredPath.toList ++ tail) = none := rfl
    rw [classify, htopic, below, strip?_append]
    simp only [Family.path, hanswer, strip?_append, htail, if_true]
    rfl

/-- What is recognised behind a path is what the query says, as the path takes it. -/
theorem classify_ok_iff : s.classify topic = .ok (some r) ↔
    ∃ q : Query, q.FromText (queryPart tail) ∧ f.Gives q r := by
  rw [classify_eq htail s htopic, ← read_ok_iff htail]
  cases f.read topic tail with
  | error fault => simp [Except.map, Except.mapError]
  | ok r' => simp [Except.map, Except.mapError]

/-- Behind a path a topic is recognised, or it is refused. -/
theorem classify_cases : (∃ r, s.classify topic = .ok (some r)) ∨
    ∃ fault, s.classify topic = .error (.invalidTopic fault) := by
  rw [classify_eq htail s htopic]
  cases f.read topic tail with
  | error fault => exact .inr ⟨fault, rfl⟩
  | ok r => exact .inl ⟨r, rfl⟩

end Behind

/-- What is recognised lies behind a path, and goes on there with a slash or a question mark. -/
theorem exists_family {s : TopicScheme} {topic : String} {r : Response}
    (h : s.classify topic = .ok (some r)) : ∃ (f : Family) (tail : List Char),
      topic.toList = s.below f tail ∧ tail.head?.all endsLevel = true := by
  rw [classify] at h
  split at h
  · cases h
  · next rest hroot =>
    rw [strip?_eq_some_iff] at hroot
    split at h
    · next rest' hanswer =>
      rw [strip?_eq_some_iff] at hanswer
      -- The level is all that stands in front of the first slash or question mark.
      refine ⟨.answer (rest'.takeWhile fun c => !endsLevel c) ?_,
        rest'.dropWhile fun c => !endsLevel c, ?_, ?_⟩
      · intro c hc
        simpa using List.mem_takeWhile_imp hc
      · rw [hroot, hanswer, below, Family.path, List.append_assoc "res/".toList,
          List.takeWhile_append_dropWhile]
      · have hhead := List.head?_dropWhile_not (fun c => !endsLevel c) rest'
        cases hrest : (rest'.dropWhile fun c => !endsLevel c).head? with
        | none => rfl
        | some c => simpa [hrest] using hhead
    · split at h
      · cases h
      · next rest' hchange =>
        rw [strip?_eq_some_iff] at hchange
        split at h
        · next htail => exact ⟨.change, rest', by rw [hroot, hchange, below, Family.path], htail⟩
        · cases h

/-! ## Queries with their question mark -/

/-- The topics that are recognised where the query has its question mark. An answer is recognised if
its level is a status, no correlation id is empty, every version is one, and there is a correlation
id. What it says is its status, its last correlation id and its last version, where it has one, and
it answers a request for the document if its status is 200. A change is recognised if its query can
be read in the same way. All other topics of this shape are refused. -/
theorem classify_by_grammar (s : TopicScheme) (level query : String)
    (hlevel : ∀ c ∈ level.toList, c ≠ '/' ∧ c ≠ '?') :
    (∀ answer, answer = s.root ++ "/twin/res/" ++ level ++ "/?" ++ query →
      (∀ r, s.classify answer = .ok (some r) ↔
        ∃ (n : Nat) (q : Query), n ≤ maxStatus ∧ Integer.Denotes level.toList n ∧
          q.FromText query.toList ∧ q.correlationId ≠ none ∧ r = {
            kind := if n = Status.ok then .documentGet else .reportedAck
            correlationId := q.correlationId
            status := some n
            version := q.version }) ∧
      ((∃ r, s.classify answer = .ok (some r)) ∨
        ∃ fault, s.classify answer = .error (.invalidTopic fault))) ∧
    ∀ change, change = s.root ++ "/twin/PATCH/properties/desired/?" ++ query →
      (∀ r, s.classify change = .ok (some r) ↔
        ∃ q : Query, q.FromText query.toList ∧ r = {
          kind := .desiredPatch
          correlationId := q.correlationId
          status := none
          version := q.version }) ∧
      ((∃ r, s.classify change = .ok (some r)) ∨
        ∃ fault, s.classify change = .error (.invalidTopic fault)) := by
  have hquery : ∀ cs, queryPart ('/' :: '?' :: cs) = cs := fun _ => rfl
  constructor
  · rintro answer rfl
    have isLevel : ∀ c ∈ level.toList, endsLevel c = false := by
      intro c hc
      simp [endsLevel, hlevel c hc]
    have htopic : (s.root ++ "/twin/res/" ++ level ++ "/?" ++ query).toList
        = s.below (.answer level.toList isLevel) ('/' :: '?' :: query.toList) := by
      have hsplit : "/twin/res/".toList = "/twin/".toList ++ "res/".toList := rfl
      have hmark : "/?".toList = ['/', '?'] := rfl
      simp only [below, Family.path, String.toList_append, hsplit, hmark, List.append_assoc,
        List.cons_append, List.nil_append]
    refine ⟨fun r => ?_, classify_cases rfl s htopic⟩
    rw [classify_ok_iff rfl s htopic, hquery]
    constructor
    · rintro ⟨q, hq, ⟨inRange, isStatus, hasId⟩⟩
      exact ⟨_, q, inRange, isStatus, hq, hasId, rfl⟩
    · rintro ⟨n, q, inRange, isStatus, hq, hasId, rfl⟩
      exact ⟨q, hq, .answer inRange isStatus hasId⟩
  · rintro change rfl
    have htopic : (s.root ++ "/twin/PATCH/properties/desired/?" ++ query).toList
        = s.below .change ('/' :: '?' :: query.toList) := by
      have hsplit : "/twin/PATCH/properties/desired/?".toList
          = "/twin/".toList ++ (desiredPath.toList ++ ['/', '?']) := rfl
      simp only [below, Family.path, String.toList_append, hsplit, List.append_assoc,
        List.cons_append, List.nil_append]
    refine ⟨fun r => ?_, classify_cases rfl s htopic⟩
    rw [classify_ok_iff rfl s htopic, hquery]
    constructor
    · rintro ⟨q, hq, ⟨⟩⟩
      exact ⟨q, hq, rfl⟩
    · rintro ⟨q, hq, rfl⟩
      exact ⟨q, hq, .change q⟩

/-- Parts that name a version and two correlation ids, between others that say nothing. -/
def sampleParts : List Part :=
  [⟨"x?/".toList, none, by decide, by decide, by simp⟩,
    ⟨versionKey.toList, some "-009223372036854775808".toList, by decide, by decide, by simp⟩,
    ⟨idKey.toList, some "a".toList, by decide, by decide, by simp⟩,
    ⟨[], none, by decide, by decide, by simp⟩,
    ⟨idKey.toList, some "b=c".toList, by decide, by decide, by simp⟩]

theorem classify_by_grammar_sample :
    (⟨"p"⟩ : TopicScheme).classify
        "p/twin/res/+00200/?x?/&$version=-009223372036854775808&$rid=a&&$rid=b=c"
      = .ok (some ⟨.documentGet, some "b=c", some 200, some (-9223372036854775808)⟩) := by
  have hlevel : ∀ c ∈ "+00200".toList, c ≠ '/' ∧ c ≠ '?' := by simp
  have hstatus : Integer.Denotes "+00200".toList 200 :=
    ⟨"00200".toList, ⟨by decide, by simp⟩, .inr rfl, by decide +kernel⟩
  have hversion : IsVersion "-009223372036854775808".toList (-9223372036854775808) :=
    ⟨by decide, by decide,
      .inr ⟨"009223372036854775808".toList, ⟨by decide, by simp⟩, rfl, by decide +kernel⟩⟩
  have hquery : (⟨some "b=c", some (-9223372036854775808)⟩ : Query).FromText
      "x?/&$version=-009223372036854775808&$rid=a&&$rid=b=c".toList := by
    refine ⟨sampleParts, by decide +kernel, by decide +kernel, ?_, by decide +kernel, ?_⟩
    · intro v hv
      have honly : valuesOf versionKey sampleParts = ["-009223372036854775808".toList] := by
        decide +kernel
      rw [honly, List.mem_singleton] at hv
      exact ⟨_, hv ▸ hversion⟩
    · exact .some hversion
  obtain ⟨hanswer, -⟩ := classify_by_grammar ⟨"p"⟩ "+00200"
    "x?/&$version=-009223372036854775808&$rid=a&&$rid=b=c" hlevel
  exact ((hanswer _ rfl).1 _).2 ⟨200, _, by decide, hstatus, hquery, by simp, rfl⟩

/-! ## All topics -/

/-- What follows a path, and the query that it is taken for. -/
inductive Leads : (tail query : List Char) → Prop
  | nothing : Leads [] []
  | slash : Leads ['/'] []
  | mark (query : List Char) : Leads ('?' :: query) query
  | slashMark (query : List Char) : Leads ('/' :: '?' :: query) query
  /-- Further levels of the path, and what they lead up to. -/
  | levels (c : Char) (rest : List Char) (notMark : c ≠ '?') : Leads ('/' :: c :: rest) (c :: rest)

theorem leads_iff {tail query : List Char} :
    Leads tail query ↔ tail.head?.all endsLevel = true ∧ queryPart tail = query := by
  constructor
  · rintro (_ | _ | _ | _ | ⟨c, rest, notMark⟩)
    · exact ⟨rfl, rfl⟩
    · exact ⟨rfl, rfl⟩
    · exact ⟨rfl, rfl⟩
    · exact ⟨rfl, rfl⟩
    · refine ⟨rfl, ?_⟩
      simp [queryPart, dropStart, strip?, Ne.symm notMark]
  · rintro ⟨htail, rfl⟩
    cases tail with
    | nil => exact .nothing
    | cons c rest =>
      have hc : c = '/' ∨ c = '?' := by simpa [endsLevel] using htail
      rcases hc with rfl | rfl
      · cases rest with
        | nil => exact .slash
        | cons c rest =>
          by_cases hmark : c = '?'
          · subst hmark
            exact .slashMark rest
          · have hquery : queryPart ('/' :: c :: rest) = c :: rest := by
              simp [queryPart, dropStart, strip?, Ne.symm hmark]
            rw [hquery]
            exact .levels c rest hmark
      · exact .mark rest

/-- Levels in front of a question mark make a key of their own out of what follows it. -/
theorem fromText_levels {q : Query} {levels lost : List Char} (params : List (List Char))
    (hlevels : '=' ∉ levels) (hlevels' : '&' ∉ levels) (hlost : '&' ∉ lost) :
    q.FromText (['&'].intercalate ((levels ++ '?' :: lost) :: params))
      ↔ q.FromText (['&'].intercalate params) := by
  obtain ⟨p, hp⟩ : ∃ p : Part, p.text = levels ++ '?' :: lost :=
    Part.exists_text (by simp [hlevels', hlost])
  have hmark : '?' ∈ p.key := by
    have hkey := congrArg Prod.fst p.keyValue_text
    have hfront : ∀ c ∈ levels, (decide (c ≠ '=')) = true := by
      intro c hc
      exact decide_eq_true fun he => hlevels (he ▸ hc)
    rw [hp, keyValue, List.takeWhile_append_of_pos hfront,
      List.takeWhile_cons_of_pos (by decide)] at hkey
    dsimp only at hkey
    rw [← hkey]
    simp
  rw [← hp, Query.fromText_cons]
  · intro he
    exact absurd (he ▸ hmark) (by decide)
  · intro he
    exact absurd (he ▸ hmark) (by decide)

/-- All topics that are recognised. They lie behind a path, and what follows it is nothing, a slash,
or a query with or without a slash in front of its question mark, of which all parameters count. But
it may also be a slash and anything else that does not begin with a question mark, and then all of it
is taken for a query. So further levels in front of a question mark do not keep a topic from being
recognised: the first parameter behind the question mark is lost, whatever it is, and the others
count as they would without the levels. -/
theorem classify_behind_path (s : TopicScheme) (topic : String) :
    (∀ r, s.classify topic = .ok (some r) ↔
      ∃ (f : Family) (tail query : List Char) (q : Query), topic.toList = s.below f tail ∧
        Leads tail query ∧ q.FromText query ∧ f.Gives q r) ∧
    ∀ (f : Family) (levels lost : List Char) (params : List (List Char)) (topic' : String),
      levels ≠ [] → (∀ c ∈ levels, c ∉ ['=', '&', '?']) → '&' ∉ lost →
      topic.toList = s.below f ('/' :: ['&'].intercalate ((levels ++ '?' :: lost) :: params)) →
      topic'.toList = s.below f ('/' :: '?' :: ['&'].intercalate params) →
      ∀ r, s.classify topic = .ok (some r) ↔ s.classify topic' = .ok (some r) := by
  constructor
  · intro r
    constructor
    · intro h
      obtain ⟨f, tail, htopic, htail⟩ := exists_family h
      obtain ⟨q, hq, hgives⟩ := (classify_ok_iff htail s htopic).1 h
      exact ⟨f, tail, _, q, htopic, leads_iff.2 ⟨htail, rfl⟩, hq, hgives⟩
    · rintro ⟨f, tail, query, q, htopic, hleads, hq, hgives⟩
      obtain ⟨htail, rfl⟩ := leads_iff.1 hleads
      exact (classify_ok_iff htail s htopic).2 ⟨q, hq, hgives⟩
  · intro f levels lost params topic' hne hlevels hlost htopic htopic' r
    have hequals : '=' ∉ levels := fun h => hlevels _ h (by decide)
    have hamp : '&' ∉ levels := fun h => hlevels _ h (by decide)
    have hmark : levels.head? ≠ some '?' := by
      intro h
      exact hlevels _ (List.mem_of_head? h) (by decide)
    have hquery : queryPart ('/' :: ['&'].intercalate ((levels ++ '?' :: lost) :: params))
        = ['&'].intercalate ((levels ++ '?' :: lost) :: params) := by
      cases levels with
      | nil => contradiction
      | cons c levels =>
        have hc : c ≠ '?' := by simpa using hmark
        cases params <;> simp [queryPart, dropStart, strip?, Ne.symm hc]
    have hquery' : queryPart ('/' :: '?' :: ['&'].intercalate params) = ['&'].intercalate params :=
      rfl
    rw [classify_ok_iff rfl s htopic, classify_ok_iff rfl s htopic', hquery, hquery']
    simp only [fromText_levels params hequals hamp hlost]

theorem classify_behind_path_sample :
    (⟨standardRoot⟩ : TopicScheme).classify
        "$iothub/twin/PATCH/properties/desired/extra/?$version=7&$rid=1"
      = .ok (some ⟨.desiredPatch, some "1", none, none⟩) := by
  have hwithout : (⟨standardRoot⟩ : TopicScheme).classify
      "$iothub/twin/PATCH/properties/desired/?$rid=1"
        = .ok (some ⟨.desiredPatch, some "1", none, none⟩) := by decide +kernel
  refine ((classify_behind_path ⟨standardRoot⟩ _).2 .change "extra/".toList "$version=7".toList
    ["$rid=1".toList] _ ?_ ?_ ?_ ?_ ?_ _).2 hwithout
  · decide
  · simp
  · decide
  · decide +kernel
  · decide +kernel

/-- A level behind the path of changes is taken for a key, and the version that it leads up to is
lost. -/
theorem version_behind_level_lost :
    (⟨standardRoot⟩ : TopicScheme).classify "$iothub/twin/PATCH/properties/desired/extra/?$version=7"
        = .ok (some ⟨.desiredPatch, none, none, none⟩) ∧
    ¬ ∀ (s : TopicScheme) (topic : String) (r : Response) (f : Family) (tail : List Char),
      s.classify topic = .ok (some r) → topic.toList = s.below f tail →
      tail.head?.all endsLevel = true →
      tail = [] ∨ tail = ['/'] ∨ ∃ query, tail = '?' :: query ∨ tail = '/' :: '?' :: query := by
  have hclassify : (⟨standardRoot⟩ : TopicScheme).classify
      "$iothub/twin/PATCH/properties/desired/extra/?$version=7"
        = .ok (some ⟨.desiredPatch, none, none, none⟩) := by decide +kernel
  refine ⟨hclassify, fun hclaim => ?_⟩
  have htopic : "$iothub/twin/PATCH/properties/desired/extra/?$version=7".toList
      = below ⟨standardRoot⟩ .change "/extra/?$version=7".toList := by decide +kernel
  obtain h | h | ⟨query, h | h⟩ := hclaim _ _ _ _ _ hclassify htopic rfl
  · exact absurd h (by decide)
  · exact absurd h (by decide)
  · cases h
  · cases h

end DeviceTwin.TopicScheme
