import DeviceTwin.Proofs.Session.Pending

/-!
# The books of a device

A device keeps book of its requests: a counter for their numbers, and the requests that wait. Its
entries come from what was published, and they leave by an answer, by the answer to a later patch,
or for want of room. Here the books are compared with the note of what was published, over all runs
and all transports.

Results:
* `kept_of_reachable`: the books agree with what was published.
* `pending_after`: a call matches its message with the requests that wait, and then adds one request
  at most.
* `not_mem_pending_after`: a request that waited leaves by the message or for want of room.
* `waitingAfter_of_settled`: the answer to a patch removes all patches up to it, and nothing else.
* `absent_of_leads`: a number that has left the books never returns.
* `requests_of_run`: what the books are worth in any run.
-/
namespace DeviceTwin

open Attempt (final)

/-! ## What was sent -/

structure Sent where
  number : Nat
  request : Request
  payload : Bytes
  deriving DecidableEq, Repr

namespace Sent

def entry (x : Sent) : Nat × Request := (x.number, x.request)

def note (scheme : TopicScheme) (x : Sent) : String × Bytes × QoS :=
  (scheme.numbered x.request x.number, x.payload, .atLeastOnce)

end Sent

/-- The books of a device agree with the requests that were sent, in their order. -/
structure Device.Keeps (d : Device) (published : List (String × Bytes × QoS)) (sent : List Sent) :
    Prop where
  increasing : sent.Pairwise fun x y => x.number < y.number
  published : published = sent.map (Sent.note d.scheme)
  counted : ∀ x ∈ sent, x.number < d.nextRequest
  outgoing : ∀ x ∈ sent, TopicScheme.isSent x.request = true
  waiting : ∀ e ∈ d.pending, ∃ x ∈ sent, x.entry = e
  bounded : d.pending.length ≤ Pending.maxSize

namespace Device.Keeps

variable {d : Device} {published : List (String × Bytes × QoS)} {sent : List Sent}

theorem fewer {pending : Pending} (h : d.Keeps published sent) (hsub : pending.Sublist d.pending)
    (store : Store) : (d.waiting pending store).Keeps published sent where
  increasing := h.increasing
  published := h.published
  counted := h.counted
  outgoing := h.outgoing
  waiting e he := h.waiting e (hsub.subset he)
  bounded := Nat.le_trans hsub.length_le h.bounded

theorem append {request : Request} (h : d.Keeps published sent) (payload : Bytes)
    (hsent : TopicScheme.isSent request = true) :
    Device.Keeps { d with
        nextRequest := d.nextRequest + 1
        pending := (d.pending ++ [(d.nextRequest, request)]).trim }
      (published ++ [(d.scheme.numbered request d.nextRequest, payload, .atLeastOnce)])
      (sent ++ [⟨d.nextRequest, request, payload⟩]) where
  increasing := by
    refine List.pairwise_append.2 ⟨h.increasing, List.pairwise_singleton _ _, fun x hx y hy => ?_⟩
    rw [List.mem_singleton.1 hy]
    exact h.counted x hx
  published := by
    rw [List.map_append, ← h.published]
    rfl
  counted x hx := by
    rcases List.mem_append.1 hx with hx | hx
    · exact Nat.lt_succ_of_lt (h.counted x hx)
    · rw [List.mem_singleton.1 hx]
      exact Nat.lt_succ_self _
  outgoing x hx := by
    rcases List.mem_append.1 hx with hx | hx
    · exact h.outgoing x hx
    · rw [List.mem_singleton.1 hx]
      exact hsent
  waiting e he := by
    rcases List.mem_append.1 (List.mem_of_mem_drop he) with he | he
    · obtain ⟨x, hx, heq⟩ := h.waiting e he
      exact ⟨x, List.mem_append_left _ hx, heq⟩
    · exact ⟨_, List.mem_append_right _ (List.mem_singleton.2 rfl), (List.mem_singleton.1 he).symm⟩
  bounded := Pending.length_trim_le _

theorem publishes {d' : Device} {published' : List (String × Bytes × QoS)}
    (h : d.Keeps published sent) (hstep : Publishes d published d' published') :
    ∃ sent', d'.Keeps published' sent' := by
  cases hstep with
  | silent => exact ⟨sent, h⟩
  | lost => exact ⟨sent, { h with counted := fun x hx => Nat.lt_succ_of_lt (h.counted x hx) }⟩
  | sent payload hsent => exact ⟨_, h.append payload hsent⟩

end Device.Keeps

theorem TopicScheme.eq_of_isSent {request : Request} (h : isSent request = true) :
    request = .documentGet ∨ request = .reportedPatch := by
  cases request with
  | documentGet => exact .inl rfl
  | reportedPatch => exact .inr rfl
  | response status version => cases h

namespace Device

variable {d : Device} {m : Message} {r : Nat}

theorem answered?_of_classify {response : Response}
    (h : d.scheme.classify m.topic = .ok (some response)) :
    d.answered? m = response.correlationId.bind number? := by
  rw [answered?, h]

theorem answered?_eq_some : d.answered? m = some r ↔ ∃ response,
    d.scheme.classify m.topic = .ok (some response) ∧
      response.correlationId.bind number? = some r := by
  rw [answered?]
  cases d.scheme.classify m.topic with
  | error e => simp
  | ok response => cases response <;> simp

/-- A message that names a patch which waits is its answer, unless it is a patch itself. -/
theorem settled?_eq_some {response : Response}
    (hclassify : d.scheme.classify m.topic = .ok (some response))
    (hkind : response.kind ≠ .desiredPatch) : d.settled? m = some r ↔
      response.correlationId.bind number? = some r ∧ d.pending.get? r = some .reportedPatch := by
  have hanswered := answered?_of_classify hclassify
  constructor
  · intro h
    rw [settled?] at h
    split at h
    · next hpatch =>
      rw [h, Option.bind_some] at hpatch
      exact ⟨hanswered ▸ h, hpatch.2⟩
    · cases h
  · rintro ⟨hnumber, hpatch⟩
    have hroute : d.route? m = some .reportedAck := by
      rw [route?, hclassify]
      dsimp only
      rw [hnumber, Option.bind_some, hpatch, effectiveKind]
      cases hk : response.kind with
      | documentGet => simp
      | desiredPatch => exact absurd hk hkind
      | reportedAck => simp
    rw [settled?, hanswered, hnumber, Option.bind_some, if_pos ⟨hroute, hpatch⟩]

/-- A request goes on waiting unless the message answers it, or answers a later patch and it is a
patch itself. -/
theorem mem_waitingAfter_iff {e : Nat × Request} : e ∈ d.waitingAfter m ↔
    e ∈ d.pending ∧ d.answered? m ≠ some e.1 ∧
      ∀ k, d.settled? m = some k → k < e.1 ∨ e.2 ≠ .reportedPatch := by
  have hunanswered : e ∈ (d.answered? m).elim d.pending d.pending.erase ↔
      e ∈ d.pending ∧ d.answered? m ≠ some e.1 := by
    cases d.answered? m with
    | none => simp
    | some k => simp [Pending.erase, @eq_comm _ k]
  rw [waitingAfter]
  cases d.settled? m with
  | none => simp [hunanswered]
  | some k => simp [Pending.forgetPatches, hunanswered, and_assoc]

/-- The answer to a patch removes all patches up to it, and nothing else. -/
theorem waitingAfter_of_settled (ho : d.Ordered) (hmem : (r, .reportedPatch) ∈ d.pending)
    (hanswered : d.answered? m = some r) (hsettled : d.settled? m = some r) :
    d.waitingAfter m = d.pending.filter fun e => !(e.2 = .reportedPatch && e.1 ≤ r) := by
  rw [waitingAfter, hanswered, hsettled, Option.elim_some, Option.elim_some, Pending.forgetPatches,
    Pending.erase, List.filter_filter]
  refine List.filter_congr fun e he => ?_
  obtain ⟨n, request⟩ := e
  by_cases hn : n = r
  · -- The only request of this number is the patch.
    subst hn
    have hpatch := ((Pending.get?_eq_some_iff ho.1).2 hmem).symm.trans
      ((Pending.get?_eq_some_iff ho.1).2 he)
    cases hpatch
    simp
  · by_cases hpatch : request = .reportedPatch
    · subst hpatch
      have hlater : decide (r < n) = !decide (n ≤ r) := by
        rw [← decide_not]
        exact decide_eq_decide.2 Nat.not_le.symm
      simp [hn, hlater]
    · simp [hn, hpatch]

end Device

namespace Session

variable {τ : Type} [Transport τ]

/-! ## Single calls -/

/-- Whether a request was given up for one that a call has published: as many wait as may, all of
them later. -/
structure GivesUp (request : Request) (s s' : Session (Noted τ)) (n : Nat) : Prop where
  published : ∃ payload, s'.transport.published = s.transport.published
    ++ [(s.device.scheme.numbered request s.device.nextRequest, payload, .atLeastOnce)]
  full : s'.device.pending.length = Pending.maxSize
  older : ∀ e ∈ s'.device.pending, n < e.1

/-- A call matches its message with the requests that wait, and then adds one request at most. -/
theorem pending_after (act : Act) (s : Session (Noted τ)) :
    let s' := after act s
    (s'.transport.published = s.transport.published ∧
      s'.device.pending = act.waitingAfter s) ∨
    ∃ request payload, TopicScheme.isSent request = true ∧
      s'.transport.published = s.transport.published
        ++ [(s.device.scheme.numbered request s.device.nextRequest, payload, .atLeastOnce)] ∧
      s'.device.pending = (act.waitingAfter s ++ [(s.device.nextRequest, request)]).trim := by
  obtain ⟨store, hstep⟩ := publishes_after act s
  generalize after act s = s' at hstep
  obtain ⟨d', t', w'⟩ := s'
  obtain ⟨inner, published'⟩ := t'
  cases hstep with
  | silent => exact .inl ⟨rfl, rfl⟩
  | lost => exact .inl ⟨rfl, rfl⟩
  | sent payload hsent => exact .inr ⟨_, payload, hsent, rfl, rfl⟩

theorem after_of_message? {act : Act} {s : Session (Noted τ)} {m : Message}
    (h : act.message? s = some m) : ∃ t warnings, t.published = s.transport.published ∧
      after act s = { final (handle m { s with transport := t }) with warnings := warnings } := by
  cases act with
  | start | requestDocument => cases h
  | poll =>
    have hreceived := Noted.published_receive s.transport
    rw [Act.message?] at h
    rw [after_poll]
    cases hreceive : Transport.receive s.transport with
    | error e t => rw [hreceive] at h; cases h
    | ok received t =>
      rw [hreceive] at h hreceived
      dsimp only at h
      subst h
      obtain ⟨warnings, heq⟩ := handleOrWarn_final m { s with transport := t }
      exact ⟨t, warnings, hreceived, heq⟩

section Reachable

variable {scheme : TopicScheme} {registry : ComponentRegistry} {topicCapacity payloadCapacity : Nat}
  {s : Session (Noted τ)} (hs : Reachable scheme registry topicCapacity payloadCapacity s)

include hs

/-- The books agree with what was published. -/
theorem kept_of_reachable : ∃ sent, s.device.Keeps s.transport.published sent := by
  induction hs with
  | opened t =>
    exact ⟨[], List.Pairwise.nil, rfl, fun x hx => (nomatch hx),
      fun x hx => (nomatch hx), fun e he => (nomatch he), Nat.zero_le _⟩
  | @after s act _ ih =>
    obtain ⟨sent, hkept⟩ := ih
    obtain ⟨store, hstep⟩ := publishes_after act s
    exact (hkept.fewer (sublist_act_waitingAfter act s) store).publishes hstep
  | transported t _ ih => exact ih

/-- What a call publishes waits behind it, and only the oldest requests are given up for it. -/
theorem published_after (act : Act) :
    (after act s).transport.published = s.transport.published ∧
      (after act s).device.pending = act.waitingAfter s ∨
    ∃ (x : Sent) (evicted : Pending), x.number = s.device.nextRequest ∧
      (after act s).transport.published = s.transport.published ++ [x.note s.device.scheme] ∧
      x.entry ∈ (after act s).device.pending ∧
      act.waitingAfter s ++ [x.entry] = evicted ++ (after act s).device.pending ∧
      ∀ e ∈ evicted, GivesUp x.request s (after act s) e.1 := by
  rcases pending_after act s with hquiet | ⟨request, payload, -, hpublished, hpending⟩
  · exact .inl hquiet
  · let x : Sent := ⟨s.device.nextRequest, request, payload⟩
    have hordered : Pending.Ordered (act.waitingAfter s ++ [x.entry]) :=
      (((ordered_of_reachable hs).waiting (sublist_act_waitingAfter act s)
        s.device.store).append request).1
    refine .inr ⟨x, Pending.surplus (act.waitingAfter s ++ [x.entry]), rfl, hpublished, ?_, ?_,
      fun e he => ?_⟩
    · rw [hpending]
      exact Pending.mem_trim_concat _ _
    · rw [hpending]
      exact (Pending.surplus_append_trim _).symm
    · obtain ⟨hfull, holder⟩ := Pending.trim_of_mem_surplus hordered he
      exact ⟨⟨payload, hpublished⟩, hpending ▸ hfull, hpending ▸ holder⟩

/-- A request that waited leaves by the message of a call, or for want of room. -/
theorem not_mem_pending_after {act : Act} {e : Nat × Request} (he : e ∈ s.device.pending) :
    e ∉ (after act s).device.pending ↔
      e ∉ act.waitingAfter s ∨ ∃ request, GivesUp request s (after act s) e.1 := by
  constructor
  · intro hnot
    by_cases hwaits : e ∈ act.waitingAfter s
    · rcases published_after hs act with ⟨-, hpending⟩ | ⟨x, evicted, -, -, -, hsplit, hgiven⟩
      · rw [hpending] at hnot
        exact absurd hwaits hnot
      · have hmem : e ∈ act.waitingAfter s ++ [x.entry] := List.mem_append_left _ hwaits
        rw [hsplit] at hmem
        exact .inr ⟨x.request, hgiven e ((List.mem_append.1 hmem).resolve_right hnot)⟩
    · exact .inl hwaits
  · rintro (hnot | ⟨request, hgiven⟩) hmem
    · rcases published_after hs act with ⟨-, hpending⟩ | ⟨x, evicted, hnumber, -, -, hsplit, -⟩
      · exact hnot (hpending ▸ hmem)
      · -- What is new has a number that no request had before.
        have hnew : e ∈ act.waitingAfter s ++ [x.entry] := hsplit ▸ List.mem_append_right _ hmem
        have hx := List.mem_singleton.1 ((List.mem_append.1 hnew).resolve_left hnot)
        have hlt := (ordered_of_reachable hs).2 e he
        rw [hx, ← hnumber] at hlt
        exact Nat.lt_irrefl _ hlt
    · exact Nat.lt_irrefl _ (hgiven.older e hmem)

end Reachable

/-- What is taken for the answer to a patch publishes nothing, so that only the message removes
requests. -/
theorem pending_after_of_settled {act : Act} {s : Session (Noted τ)} {m : Message} {r : Nat}
    (hm : act.message? s = some m) (hsettled : s.device.settled? m = some r) :
    (after act s).device.pending = s.device.waitingAfter m := by
  have hroute : s.device.route? m = some .reportedAck := by
    rw [Device.settled?] at hsettled
    split at hsettled
    · next h => exact h.1
    · cases hsettled
  have hquiet : (after act s).transport.published = s.transport.published := by
    obtain ⟨t, warnings, ht, heq⟩ := after_of_message? hm
    rw [heq, ← ht]
    exact (quiet_of_answer (s := { s with transport := t }) hroute).2
  rcases pending_after act s with ⟨-, heq⟩ | ⟨request, payload, -, hpublished, -⟩
  · rw [heq, Act.waitingAfter, hm, Option.elim_some]
  · rw [hquiet] at hpublished
    simp at hpublished

/-! ## Later sessions -/

theorem nextRequest_le_after (act : Act) (s : Session (Noted τ)) :
    s.device.nextRequest ≤ (after act s).device.nextRequest := by
  obtain ⟨k, pending, hk, heq⟩ := becomes_after act s
  rw [heq]
  exact hk

/-- What a session becomes by calls, and by changes of its transport between them. -/
inductive Leads (s : Session (Noted τ)) : Session (Noted τ) → Prop where
  | refl : Leads s s
  | after {t : Session (Noted τ)} (act : Act) (h : Leads s t) : Leads s (after act t)
  | transported {t : Session (Noted τ)} (inner : τ) (h : Leads s t) :
      Leads s { t with transport := { t.transport with inner := inner } }

/-- Whether a number was taken and no request of that number waits. -/
def Absent (s : Session (Noted τ)) (n : Nat) : Prop :=
  n < s.device.nextRequest ∧ ∀ e ∈ s.device.pending, e.1 ≠ n

theorem Absent.after {s : Session (Noted τ)} {n : Nat} (h : s.Absent n) (act : Act) :
    (after act s).Absent n := by
  refine ⟨Nat.lt_of_lt_of_le h.1 (nextRequest_le_after act s), fun e he => ?_⟩
  have hold : ∀ e ∈ act.waitingAfter s, e.1 ≠ n := fun e he =>
    h.2 e ((sublist_act_waitingAfter act s).subset he)
  rcases pending_after act s with ⟨-, hpending⟩ | ⟨request, payload, -, -, hpending⟩
  · exact hold e (hpending ▸ he)
  · rw [hpending] at he
    rcases List.mem_append.1 (List.mem_of_mem_drop he) with he | he
    · exact hold e he
    · rw [List.mem_singleton.1 he]
      exact Nat.ne_of_gt h.1

/-- A number that has left the books never returns. -/
theorem absent_of_leads {s t : Session (Noted τ)} {n : Nat} (h : s.Absent n) (hlater : Leads s t) :
    t.Absent n := by
  induction hlater with
  | refl => exact h
  | after act _ ih => exact ih.after act
  | transported inner _ ih => exact ih

/-! ## Runs -/

/-- The books of a device in any run, over any transport. What was published has increasing
numbers. At most 32 requests wait, each for the document or a patch, and each was published under
its number. What a call publishes waits behind the call, and only the oldest requests are given up
for it. A number that has left never returns. A request for the document leaves by a message that
names it, or for want of room. The answer to a patch that waits removes all patches up to it, and
nothing else. -/
theorem requests_of_run {scheme : TopicScheme} {registry : ComponentRegistry}
    {topicCapacity payloadCapacity : Nat} {s : Session (Noted τ)}
    (hs : Reachable scheme registry topicCapacity payloadCapacity s) :
    (∃ sent : List Sent, (sent.Pairwise fun x y => x.number < y.number) ∧
      s.transport.published = sent.map (Sent.note scheme) ∧
      s.device.pending.Ordered ∧ s.device.pending.length ≤ Pending.maxSize ∧
      ∀ e ∈ s.device.pending, e.1 < s.device.nextRequest ∧
        (e.2 = .documentGet ∨ e.2 = .reportedPatch) ∧ ∃ x ∈ sent, x.entry = e) ∧
    ∀ act, let s' := after act s
      (s'.transport.published = s.transport.published ∧
          s'.device.pending = act.waitingAfter s ∨
        ∃ (x : Sent) (evicted : Pending), x.number = s.device.nextRequest ∧
          s'.transport.published = s.transport.published ++ [x.note scheme] ∧
          x.entry ∈ s'.device.pending ∧
          act.waitingAfter s ++ [x.entry] = evicted ++ s'.device.pending ∧
          ∀ e ∈ evicted, GivesUp x.request s s' e.1) ∧
      (∀ e ∈ s.device.pending, (∀ e' ∈ s'.device.pending, e'.1 ≠ e.1) →
        ∀ t, Leads s' t → ∀ e' ∈ t.device.pending, e'.1 ≠ e.1) ∧
      (∀ n, (n, .documentGet) ∈ s.device.pending → (n, .documentGet) ∉ s'.device.pending →
        (∃ m response, act.message? s = some m ∧
          scheme.classify m.topic = .ok (some response) ∧
          response.correlationId.bind Device.number? = some n) ∨
        ∃ request, GivesUp request s s' n) ∧
      ∀ m response r, act.message? s = some m → scheme.classify m.topic = .ok (some response) →
        response.kind ≠ .desiredPatch → response.correlationId.bind Device.number? = some r →
        (r, .reportedPatch) ∈ s.device.pending →
        s'.device.pending
          = s.device.pending.filter fun e => !(e.2 = .reportedPatch && e.1 ≤ r) := by
  have ho := ordered_of_reachable hs
  obtain ⟨hscheme, -⟩ := settings_of_reachable hs
  obtain ⟨sent, hkept⟩ := kept_of_reachable hs
  subst hscheme
  refine ⟨⟨sent, hkept.increasing, hkept.published, ho.1, hkept.bounded, fun e he => ?_⟩,
    fun act => ⟨published_after hs act, fun e he hgone t hlater => ?_, fun n hmem hgone => ?_,
      fun m response r hm hclassify hkind hnumber hpatch => ?_⟩⟩
  · obtain ⟨x, hx, rfl⟩ := hkept.waiting e he
    exact ⟨ho.2 _ he, TopicScheme.eq_of_isSent (hkept.outgoing x hx), x, hx, rfl⟩
  · have habsent : (after act s).Absent e.1 :=
      ⟨Nat.lt_of_lt_of_le (ho.2 e he) (nextRequest_le_after act s), hgone⟩
    exact (absent_of_leads habsent hlater).2
  · -- A request for the document is no patch, so no later answer takes it away.
    refine ((not_mem_pending_after hs hmem).1 hgone).imp_left fun hnot => ?_
    cases hm : act.message? s with
    | none =>
      rw [Act.waitingAfter, hm] at hnot
      exact absurd hmem hnot
    | some m =>
      rw [Act.waitingAfter, hm, Option.elim_some, Device.mem_waitingAfter_iff] at hnot
      have hanswered : s.device.answered? m = some n := by
        by_contra hne
        exact hnot ⟨hmem, hne, fun k _ => .inr (by simp)⟩
      obtain ⟨response, hclassify, hnumber⟩ := Device.answered?_eq_some.1 hanswered
      exact ⟨m, response, rfl, hclassify, hnumber⟩
  · have hget := (Pending.get?_eq_some_iff ho.1).2 hpatch
    have hsettled := (Device.settled?_eq_some hclassify hkind).2 ⟨hnumber, hget⟩
    have hanswered := Device.answered?_eq_some.2 ⟨response, hclassify, hnumber⟩
    rw [pending_after_of_settled hm hsettled]
    exact Device.waitingAfter_of_settled ho hpatch hanswered hsettled

/-- A device in front of two patches and the answer to what it sends for the second. -/
def bookedRun : Session (Noted Loopback) :=
  opened ⟨TopicScheme.standardRoot⟩ .empty 64 256 (Noted.fresh {
    Loopback.empty with
    inbound := [patchOf [("fan", .bool true), ("$version", .number (.integer 1))],
      patchOf [("fan", .bool false), ("$version", .number (.integer 2))],
      ⟨"$iothub/twin/res/204/?$rid=3", []⟩] })

theorem requests_of_run_sample :
    let s := afterAll [.start, .poll, .poll] bookedRun
    s.device.pending = [(1, .documentGet), (2, .reportedPatch), (3, .reportedPatch)] ∧
      (after .poll s).device.pending = [(1, .documentGet)] ∧
      ∀ t, Leads (after .poll s) t → ∀ e ∈ t.device.pending, e.1 ≠ 2 := by
  intro s
  have hs : Reachable ⟨TopicScheme.standardRoot⟩ .empty 64 256 s :=
    reachable_afterAll (Reachable.opened _) _
  have hpending : s.device.pending
      = [(1, .documentGet), (2, .reportedPatch), (3, .reportedPatch)] := by decide +kernel
  obtain ⟨-, hcalls⟩ := requests_of_run hs
  obtain ⟨-, habsent, -, hsettles⟩ := hcalls .poll
  have hbehind : (after .poll s).device.pending = [(1, .documentGet)] := by
    rw [hsettles ⟨"$iothub/twin/res/204/?$rid=3", []⟩ ⟨.reportedAck, some "3", some 204, none⟩ 3
      (by decide +kernel) (by decide +kernel) (by decide) (by decide +kernel) (by simp [hpending]),
      hpending]
    decide
  refine ⟨hpending, hbehind, habsent (2, .reportedPatch) (by simp [hpending]) ?_⟩
  intro e he
  rw [hbehind] at he
  rw [List.mem_singleton.1 he]
  decide

end Session
end DeviceTwin
