import DeviceTwin.Proofs.Session.Publications

/-!
# The requests that wait, step by step

A request begins to wait when it is sent. It waits no longer when a message answers it, when a later
patch is answered, or when too many wait. Here each call of a run is told by what it does to the
requests that wait and to the note of what was published, and by nothing else.

Results:
* `publishes_after`: a call takes up its message and then publishes one request at most.
* `ordered_of_reachable`: the requests that wait stand in the order of their numbers, all of which
  were taken.
* `waits_of_published`: a request that was just published waits.
* `waits_afterAll`: a patch goes on waiting until it is answered, a later patch is, or 32 numbers
  were taken behind it.
-/
namespace DeviceTwin

open Attempt (final)

/-! ## Lists of requests in the order of their numbers -/

namespace Pending

/-- Whether requests stand in the order of their numbers, no number twice. -/
def Ordered (pending : Pending) : Prop := pending.Pairwise fun a b => a.1 < b.1

variable {pending : Pending} {n : Nat} {request : Request}

theorem get?_eq_some_iff (h : pending.Ordered) :
    pending.get? n = some request ↔ (n, request) ∈ pending := by
  induction pending with
  | nil => simp [get?]
  | cons e pending ih =>
    obtain ⟨k, r⟩ := e
    obtain ⟨hk, hrest⟩ := List.pairwise_cons.1 h
    rw [get?, List.lookup_cons]
    by_cases he : n = k
    · subst he
      have hnot : (n, request) ∉ pending := fun hmem => Nat.lt_irrefl n (hk _ hmem)
      simp [hnot, eq_comm]
    · rw [beq_eq_false_iff_ne.2 he]
      simp [← ih hrest, get?, he]

/-- Numbers that all differ and lie between two bounds are no more than these are apart. -/
theorem length_le_of_ordered {low high : Nat} (h : pending.Ordered)
    (hbounds : ∀ e ∈ pending, low ≤ e.1 ∧ e.1 < high) : pending.length ≤ high - low := by
  induction pending generalizing low with
  | nil => exact Nat.zero_le _
  | cons e pending ih =>
    obtain ⟨he, hrest⟩ := List.pairwise_cons.1 h
    have hfirst := hbounds e List.mem_cons_self
    have htail : pending.length ≤ high - (e.1 + 1) := ih hrest fun a ha =>
      ⟨he a ha, (hbounds a (List.mem_cons_of_mem _ ha)).2⟩
    rw [List.length_cons]
    omega

/-- Where a request is given up, as many wait on as may, all of them later. -/
theorem trim_of_mem_surplus {e : Nat × Request} (h : pending.Ordered) (he : e ∈ pending.surplus) :
    pending.trim.length = maxSize ∧ ∀ e' ∈ pending.trim, e.1 < e'.1 := by
  refine ⟨?_, fun e' he' => ?_⟩
  · have hpos : 0 < pending.surplus.length := List.length_pos_of_mem he
    simp only [surplus, trim, List.length_take, List.length_drop] at hpos ⊢
    omega
  · rw [Ordered, ← surplus_append_trim pending] at h
    exact (List.pairwise_append.1 h).2.2 e he e' he'

theorem mem_trim_concat (pending : Pending) (e : Nat × Request) : e ∈ trim (pending ++ [e]) := by
  have hlength : (pending ++ [e]).length - maxSize ≤ pending.length := by simp [maxSize]
  rw [trim, List.drop_append_of_le_length hlength]
  exact List.mem_append_right _ (List.mem_singleton.2 rfl)

/-- A request is given up only where at least 32 later ones wait. -/
theorem mem_trim {high : Nat} (h : pending.Ordered) (hhigh : ∀ e ∈ pending, e.1 < high)
    (hmem : (n, request) ∈ pending) (hroom : high ≤ n + maxSize) :
    (n, request) ∈ pending.trim := by
  rw [← surplus_append_trim pending] at hmem
  refine (List.mem_append.1 hmem).resolve_left fun hsurplus => ?_
  obtain ⟨hfull, hlater⟩ := trim_of_mem_surplus h hsurplus
  have hlength : pending.trim.length ≤ high - (n + 1) := by
    refine length_le_of_ordered (h.sublist (List.drop_sublist _ _)) fun e he =>
      ⟨hlater e he, hhigh e ?_⟩
    exact List.mem_of_mem_drop he
  have hmax : 0 < maxSize := by decide
  omega

end Pending

namespace Device

variable (d : Device) (m : Message)

/-! ## What a message says about the requests that wait -/

/-- The number of the patch that a message answers, if it is taken for no document. -/
def settled? : Option Nat :=
  if d.route? m = some .reportedAck ∧ (d.answered? m).bind d.pending.get? = some .reportedPatch then
    d.answered? m
  else none

/-- The requests that wait behind a message, before anything is published for it. -/
def waitingAfter : Pending :=
  let unanswered := (d.answered? m).elim d.pending d.pending.erase
  (d.settled? m).elim unanswered unanswered.forgetPatches

def waiting (pending : Pending) (store : Store) : Device :=
  { d with pending := pending, store := store }

/-- All requests that wait have numbers that were taken, in their order. -/
def Ordered : Prop := d.pending.Ordered ∧ ∀ e ∈ d.pending, e.1 < d.nextRequest

variable {d m} {n : Nat} {request : Request}

theorem sublist_waitingAfter : (d.waitingAfter m).Sublist d.pending := by
  have hunanswered : ((d.answered? m).elim d.pending d.pending.erase).Sublist d.pending := by
    cases d.answered? m with
    | none => exact List.Sublist.refl _
    | some k => exact List.filter_sublist
  rw [waitingAfter]
  cases d.settled? m with
  | none => exact hunanswered
  | some k => exact List.filter_sublist.trans hunanswered

/-- A patch goes on waiting unless the message answers it or settles a later one. -/
theorem mem_waitingAfter (hmem : (n, request) ∈ d.pending) (hanswered : d.answered? m ≠ some n)
    (hsettled : ∀ k, d.settled? m = some k → k < n) : (n, request) ∈ d.waitingAfter m := by
  have hunanswered : (n, request) ∈ (d.answered? m).elim d.pending d.pending.erase := by
    cases hk : d.answered? m with
    | none => exact hmem
    | some k =>
      refine List.mem_filter.2 ⟨hmem, ?_⟩
      have hne : n ≠ k := fun he => hanswered (he ▸ hk)
      simpa using hne
  rw [waitingAfter]
  cases hk : d.settled? m with
  | none => exact hunanswered
  | some k =>
    refine List.mem_filter.2 ⟨hunanswered, ?_⟩
    simp [hsettled k hk]

theorem Ordered.waiting {pending : Pending} (h : d.Ordered) (hsub : pending.Sublist d.pending)
    (store : Store) : (d.waiting pending store).Ordered :=
  ⟨h.1.sublist hsub, fun e he => h.2 e (hsub.subset he)⟩

theorem Ordered.append (h : d.Ordered) (request : Request) :
    Pending.Ordered (d.pending ++ [(d.nextRequest, request)]) ∧
      ∀ e ∈ d.pending ++ [(d.nextRequest, request)], e.1 < d.nextRequest + 1 := by
  refine ⟨List.pairwise_append.2 ⟨h.1, List.pairwise_singleton _ _, fun a ha b hb => ?_⟩,
    fun e he => ?_⟩
  · rw [List.mem_singleton.1 hb]
    exact h.2 a ha
  · rcases List.mem_append.1 he with he | he
    · exact Nat.lt_succ_of_lt (h.2 e he)
    · rw [List.mem_singleton.1 he]
      exact Nat.lt_succ_self _

/-- Where the message is taken for an answer, it settles the patch that it answers. -/
theorem settled?_of_route {kind : ResponseKind} (h : d.route? m = some kind) :
    d.settled? m = if kind = .reportedAck ∧
        (d.answered? m).bind d.pending.get? = some .reportedPatch then d.answered? m else none := by
  rw [settled?, h]
  simp

end Device

/-! ## Publishing -/

/-- All that publishing can do to a device and to the note of what was published. -/
inductive Publishes (d : Device) (published : List (String × Bytes × QoS)) :
    Device → List (String × Bytes × QoS) → Prop where
  | silent : Publishes d published d published
  /-- A number was taken, and the request was lost. -/
  | lost : Publishes d published { d with nextRequest := d.nextRequest + 1 } published
  | sent {request : Request} (payload : Bytes) (hsent : TopicScheme.isSent request = true) :
    Publishes d published
      { d with
        nextRequest := d.nextRequest + 1
        pending := (d.pending ++ [(d.nextRequest, request)]).trim }
      (published ++ [(d.scheme.numbered request d.nextRequest, payload, .atLeastOnce)])

namespace Publishes

variable {d d' : Device} {published published' : List (String × Bytes × QoS)} {n : Nat}
  {request : Request} (h : Publishes d published d' published')

include h

theorem ordered (ho : d.Ordered) : d'.Ordered := by
  cases h with
  | silent => exact ho
  | lost => exact ⟨ho.1, fun e he => Nat.lt_succ_of_lt (ho.2 e he)⟩
  | @sent request payload hsent =>
    obtain ⟨hall, hbound⟩ := ho.append request
    exact ⟨List.Pairwise.sublist (List.drop_sublist _ _) hall, fun e he =>
      hbound e (List.mem_of_mem_drop he)⟩

/-- A request waits on while fewer than 32 numbers were taken behind it. -/
theorem mem_pending (ho : d.Ordered) (hmem : (n, request) ∈ d.pending)
    (hroom : d'.nextRequest ≤ n + Pending.maxSize) : (n, request) ∈ d'.pending := by
  cases h with
  | silent => exact hmem
  | lost => exact hmem
  | @sent request' payload hsent =>
    obtain ⟨hall, hbound⟩ := ho.append request'
    exact Pending.mem_trim hall hbound (List.mem_append_left _ hmem) hroom

theorem mem_of_published {topic : String} {payload : Bytes} {qos : QoS}
    (hpublished : published' = published ++ [(topic, payload, qos)]) :
    ∃ n request, topic = d.scheme.numbered request n ∧ TopicScheme.isSent request = true ∧
      (n, request) ∈ d'.pending := by
  cases h with
  | silent | lost => simp at hpublished
  | @sent request payload' hsent =>
    have htopic := List.append_cancel_left hpublished
    simp only [List.cons.injEq, Prod.mk.injEq, and_true] at htopic
    refine ⟨d.nextRequest, request, htopic.1.symm, hsent, ?_⟩
    exact Pending.mem_trim_concat _ _

end Publishes

namespace Session

open Acknowledgement (Accepted)

variable {τ : Type} [Transport τ]

/-! ## Single steps -/

theorem publishes_publish {request : Request} (hsent : TopicScheme.isSent request = true)
    (payload : Bytes) (s : Session (Noted τ)) :
    Publishes s.device s.transport.published (final (publish request payload s)).device
      (final (publish request payload s)).transport.published := by
  by_cases hfits : s.TopicFits request
  · rw [publish_eq, if_pos hfits]
    cases hsend : Transport.publish (s.nextTopic request) payload .atLeastOnce
        s.transport.inner with
    | ok _ t =>
      rw [Noted.publish_ok hsend]
      exact Publishes.sent payload hsent
    | error e t =>
      rw [Noted.publish_error hsend]
      exact Publishes.lost
  · rw [publish_eq, if_neg hfits]
    exact Publishes.lost

theorem publishes_acknowledge (version : Int) (accepted : List Accepted) (s : Session (Noted τ)) :
    Publishes s.device s.transport.published (final (acknowledge version accepted s)).device
      (final (acknowledge version accepted s)).transport.published := by
  rcases acknowledge_cases version accepted s with heq | ⟨required, available, heq⟩ | heq <;>
    rw [heq]
  · exact Publishes.silent
  · exact Publishes.silent
  · exact publishes_publish rfl _ _

theorem publishes_takeDocument {kind : ResponseKind} (hk : kind.hasDocument = true)
    (payload : Bytes) (s : Session (Noted τ)) :
    ∃ store, Publishes (s.device.waiting s.device.pending store) s.transport.published
      (final (takeDocument kind payload s)).device
      (final (takeDocument kind payload s)).transport.published := by
  cases hversion : Document.payloadVersion kind payload with
  | error e =>
    rw [takeDocument_error s hversion]
    exact ⟨s.device.store, Publishes.silent⟩
  | ok version =>
    obtain ⟨r, hr, -⟩ := Document.revision?_of_payloadVersion s.device.registry hversion
    rw [takeDocument_ok s hk hr]
    exact ⟨s.device.store.absorb r, publishes_acknowledge r.version (s.device.fresh r)
      (s.holding (s.device.store.absorb r))⟩

/-- A message is matched with the requests that wait; then one request is published at most. -/
theorem publishes_handle (m : Message) (s : Session (Noted τ)) :
    ∃ store, Publishes (s.device.waiting (s.device.waitingAfter m) store) s.transport.published
      (final (handle m s)).device (final (handle m s)).transport.published := by
  cases hroute : s.device.route? m with
  | none =>
    have hanswered : s.device.answered? m = none := by
      unfold Device.route? at hroute
      unfold Device.answered?
      split at hroute <;> simp_all
    have hwaiting : s.device.waitingAfter m = s.device.pending := by
      simp [Device.waitingAfter, Device.settled?, hanswered]
    refine ⟨s.device.store, ?_⟩
    rw [hwaiting]
    unfold Device.route? at hroute
    cases hclassify : s.device.scheme.classify m.topic with
    | error e => rw [handle_error m s hclassify]; exact Publishes.silent
    | ok response =>
      cases response with
      | none => rw [handle_none m s hclassify]; exact Publishes.silent
      | some response => rw [hclassify] at hroute; cases hroute
  | some kind =>
    obtain ⟨response, heq⟩ := handle_route m s hroute
    have hsettled := Device.settled?_of_route hroute
    cases hk : kind.hasDocument with
    | true =>
      -- A document settles no patch: it only takes the request away that it answers.
      have hnone : s.device.settled? m = none := by
        rw [hsettled, if_neg]
        rintro ⟨rfl, -⟩
        cases hk
      rw [hk, if_pos rfl] at heq
      rw [heq, Device.waitingAfter, hnone]
      exact publishes_takeDocument hk m.payload
        (s.answered ((s.device.answered? m).elim s.device.pending s.device.pending.erase)
          s.warnings)
    | false =>
      have hack : kind = .reportedAck := by
        cases kind with
        | reportedAck => rfl
        | documentGet | desiredPatch => cases hk
      rw [hk, if_neg Bool.false_ne_true] at heq
      obtain ⟨warnings, hanswer⟩ := takeAnswer_ok response (s.device.answered? m)
        ((s.device.answered? m).bind s.device.pending.get?)
        (s.answered ((s.device.answered? m).elim s.device.pending s.device.pending.erase)
          s.warnings)
      rw [heq, hanswer]
      refine ⟨s.device.store, ?_⟩
      have hwaiting : s.device.waitingAfter m
          = (if (s.device.answered? m).bind s.device.pending.get? = some .reportedPatch then
              s.device.answered? m else none).elim
            ((s.device.answered? m).elim s.device.pending s.device.pending.erase)
            ((s.device.answered? m).elim s.device.pending s.device.pending.erase).forgetPatches := by
        rw [Device.waitingAfter, hsettled, hack]
        simp
      rw [hwaiting]
      exact Publishes.silent

theorem quiet_of_answer {m : Message} {s : Session (Noted τ)}
    (h : s.device.route? m = some .reportedAck) :
    (final (handle m s)).device.store = s.device.store ∧
      (final (handle m s)).transport.published = s.transport.published := by
  obtain ⟨pending, warnings, heq⟩ := handle_answer m s h
  rw [heq]
  exact ⟨rfl, rfl⟩

def Act.waitingAfter (act : Act) (s : Session (Noted τ)) : Pending :=
  (act.message? s).elim s.device.pending s.device.waitingAfter

/-- A call takes up its message and then publishes one request at most. -/
theorem publishes_after (act : Act) (s : Session (Noted τ)) :
    ∃ store, Publishes (s.device.waiting (act.waitingAfter s) store) s.transport.published
      (after act s).device (after act s).transport.published := by
  cases act with
  | start =>
    refine ⟨s.device.store, ?_⟩
    obtain ⟨t, t', rfl, rfl, hcases⟩ := start_cases s
    have hanswers := Noted.published_subscribe s.device.scheme.responseFilter .atLeastOnce
      s.transport
    have hpatches := (Noted.published_subscribe s.device.scheme.desiredPatchFilter .atLeastOnce
      _).trans hanswers
    show Publishes s.device s.transport.published (final (start s)).device
      (final (start s)).transport.published
    rcases hcases with ⟨e, heq⟩ | ⟨e, heq⟩ | heq <;> rw [heq]
    · rw [Attempt.final_error, hanswers]
      exact Publishes.silent
    · rw [Attempt.final_error, hpatches]
      exact Publishes.silent
    · have hsent := publishes_publish (show TopicScheme.isSent .documentGet = true from rfl) []
        { s with transport := final (Transport.subscribe s.device.scheme.desiredPatchFilter
          .atLeastOnce (final (Transport.subscribe s.device.scheme.responseFilter .atLeastOnce
            s.transport))) }
      rwa [hpatches] at hsent
  | requestDocument => exact ⟨s.device.store, publishes_publish rfl [] s⟩
  | poll =>
    have hreceived := Noted.published_receive s.transport
    rw [after_poll, Act.waitingAfter, Act.message?]
    cases hreceive : Transport.receive s.transport with
    | error e t =>
      rw [hreceive] at hreceived
      refine ⟨s.device.store, ?_⟩
      rw [← hreceived]
      exact Publishes.silent
    | ok m t =>
      rw [hreceive, Attempt.final_ok] at hreceived
      cases m with
      | none =>
        refine ⟨s.device.store, ?_⟩
        rw [← hreceived]
        exact Publishes.silent
      | some m =>
        obtain ⟨warnings, heq⟩ := handleOrWarn_final m { s with transport := t }
        obtain ⟨store, hhandle⟩ := publishes_handle m { s with transport := t }
        refine ⟨store, ?_⟩
        dsimp only
        rw [heq, ← hreceived]
        exact hhandle

theorem sublist_act_waitingAfter (act : Act) (s : Session (Noted τ)) :
    (act.waitingAfter s).Sublist s.device.pending := by
  rw [Act.waitingAfter]
  cases act.message? s with
  | none => exact List.Sublist.refl _
  | some m => exact Device.sublist_waitingAfter

/-! ## Runs -/

section Reachable

variable {scheme : TopicScheme} {registry : ComponentRegistry} {topicCapacity payloadCapacity : Nat}
  {s : Session (Noted τ)} (hs : Reachable scheme registry topicCapacity payloadCapacity s)

include hs

/-- The requests that wait stand in the order of their numbers, all of which were taken. -/
theorem ordered_of_reachable : s.device.Ordered := by
  induction hs with
  | opened t => exact ⟨List.Pairwise.nil, fun e he => nomatch he⟩
  | @after s act _ ih =>
    obtain ⟨store, hstep⟩ := publishes_after act s
    exact hstep.ordered (ih.waiting (sublist_act_waitingAfter act s) store)
  | transported t _ ih => exact ih

theorem reachable_afterAll (acts : List Act) :
    Reachable scheme registry topicCapacity payloadCapacity (afterAll acts s) := by
  induction acts generalizing s with
  | nil => exact hs
  | cons act acts ih => exact ih (Reachable.after act hs)

theorem waits_of_published {act : Act} {request : Request} {n : Nat} {payload : Bytes} {qos : QoS}
    (hsent : TopicScheme.isSent request = true)
    (hpublished : (after act s).transport.published
      = s.transport.published ++ [(scheme.numbered request n, payload, qos)]) :
    (n, request) ∈ (after act s).device.pending := by
  obtain ⟨store, hstep⟩ := publishes_after act s
  obtain ⟨k, request', htopic, hsent', hmem⟩ := hstep.mem_of_published hpublished
  obtain ⟨rfl, -⟩ := settings_of_reachable hs
  obtain rfl := TopicScheme.numbered_unique hsent htopic
  rwa [TopicScheme.request_unique hsent htopic]

/-- A request goes on waiting as long as no message answers it or settles a later patch and fewer
than 32 numbers are taken behind it. -/
theorem waits_afterAll {n : Nat} {request : Request} {acts : List Act}
    (hmem : (n, request) ∈ s.device.pending)
    (hnone : ∀ a ∈ arrivals acts s, a.2.answered? a.1 ≠ some n ∧
      ∀ k, a.2.settled? a.1 = some k → k < n)
    (hroom : (afterAll acts s).device.nextRequest ≤ n + Pending.maxSize) :
    (n, request) ∈ (afterAll acts s).device.pending := by
  induction acts generalizing s with
  | nil => exact hmem
  | cons act acts ih =>
    have hreach := Reachable.after act hs
    obtain ⟨store, hstep⟩ := publishes_after act s
    have hleft : (n, request) ∈ act.waitingAfter s := by
      rw [Act.waitingAfter]
      cases hm : act.message? s with
      | none => exact hmem
      | some m =>
        have ha : (m, s.device) ∈ arrivals (act :: acts) s := by
          rw [arrivals, hm]
          exact List.mem_cons_self
        exact Device.mem_waitingAfter hmem (hnone _ ha).1 (hnone _ ha).2
    have hlater : (after act s).device.nextRequest
        ≤ (afterAll acts (after act s)).device.nextRequest := by
      obtain ⟨k, pending, hk, heq⟩ := becomes_afterAll acts (after act s)
      rw [heq]
      exact hk
    refine ih hreach ?_ (fun a ha => hnone a (List.mem_append_right _ ha)) hroom
    refine hstep.mem_pending ?_ hleft (Nat.le_trans hlater hroom)
    exact (ordered_of_reachable hs).waiting (sublist_act_waitingAfter act s) store

end Reachable

end Session
end DeviceTwin
