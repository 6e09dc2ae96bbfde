import PaymentsService.Pipeline.Settlement
import PaymentsService.Pipeline.Relays

/-!
# Draining the pipeline settles every order

The laws of `Pipeline.Settlement` are safety laws: they hold of every schedule,
the one that never delivers anything included.  This module proves the progress
law that goes with them.  From every reachable state, one fault-free schedule,
`drain`, leaves no order in `NEW`.  `drain` is what the running services do once
the brokers and databases stay up:
* each publisher's ticker fires with a batch that covers its unsent rows;
* each consumer reads its topic to the end.

## Main definitions

* `Payload.eventId?` — the `event_id` an event record carries.
* `Orders.RequestsValid` — every record of the Orders outbox passes the Payments
  consumer's checks; `Payments.ResultsValid` of `Pipeline.Settlement` is the
  other direction.
* `Pipeline.Settled` — an order none of whose rows is `NEW`.
* `Pipeline.InboxSettled` — each event in the Orders inbox is a result on the
  topic, and that result's order is settled.
* `publishRequests`, `deliverRequests`, `publishResults`, `deliverResults` — the
  schedule's steps; `drainRequests`, `drainResults` — its two halves; `drain`.

## Main results

* `Orders.handleMessage_none`, `Payments.handleMessage_none` — with no fault, a
  delivery of a valid record commits: the first delivery applies the event, a
  redelivery changes nothing.
* `Reachable.inboxSettled` — the invariant over every reachable state.
* `settled_deliver` — delivering a result that is on the topic settles the
  result's order, whether the delivery is the first or a redelivery.
* `exists_result` — once every request is in the Payments inbox, every order has
  a result in the Payments outbox.
* `exec_drainRequests`, `exec_drainResults` — what each half of `drain` does:
  the first puts every request's event in the Payments inbox, the second
  settles the order of every result in the Payments outbox.
* `Reachable.result_of_settled` — a settled order has exactly one result, on the
  topic, and carries the status that result says.
* `drain_settles_every_order` — after `drain`, the orders are the ones there were,
  none of them is `NEW`, and each is settled by exactly one result.

## Design notes

**Why the event ids have to be distinct.**  Both consumers deduplicate on the
event id alone (`inbox.message_id`).  If two `PaymentRequested` events share an
id, Payments drops the second order's request.  If two results share an id,
Orders drops the second result.  Either way that order stays `NEW` whatever is
delivered later.  The code relies on `uuid.NewString()` for distinct ids.  The
theorem takes it as hypotheses: on the ids already in the outboxes, and on the
fresh ids the schedule hands the Payments consumer.

**The schedule reads the state.**  Each publisher runs with the configured batch,
any positive size below `2 ^ 31` — `publishOnce` passes `int32(p.batch)` to
`LockUnsentOutbox`, so a larger one locks another number of rows or none — and
makes as many passes as its outbox has rows.  A clean pass
sends the oldest `batch` unsent rows (`Relay.run_clean`), so these passes put the
whole outbox on the topic.  The records delivered next are those of the outbox.
The second half of `drain` depends on what the first half enqueued, so `drain`
computes the intermediate state to choose it.
-/

namespace PaymentsService

/-- The `event_id` an event record carries.  Not a function of the source: it is
the field each consumer reads first after `proto.Unmarshal`. -/
def Payload.eventId? : Payload → Option String
  | .paymentRequested ev => some ev.eventId
  | .paymentResult ev => some ev.eventId
  | .undecodable => none

/-! ## Deliveries with no fault -/

namespace Orders

/-- **A fault-free delivery of a valid result commits**: the first delivery
applies the result, and a redelivery finds the event in the inbox and changes
nothing. -/
theorem handleMessage_none {m : KafkaMessage} {ev : PaymentResult} {msgId orderId : Uuid}
    (hv : validResult? m = some (ev, msgId, orderId)) (db : Db) :
    (handleMessage Faults.none m db).1 =
      if db.seen msgId then db else db.applyResult msgId orderId (newStatus ev.status) := by
  unfold handleMessage
  rw [hv]
  cases hs : db.seen msgId <;>
    simp [Faults.none, withTx, handleMessageTx, Queries.insertInboxCheck, Queries.updateOrderStatusIfNew, hs,
      Db.applyResult, Db.setStatusIfNew]

end Orders

namespace Payments

/-- **A fault-free delivery of a valid request commits**: the first delivery
applies the request, and a redelivery finds the event in the inbox and changes
nothing. -/
theorem handleMessage_none {m : KafkaMessage} {ev : PaymentRequested} {msgId orderId : Uuid}
    (hv : validRequest? m = some (ev, msgId, orderId)) (e : Uuid) (db : Db) :
    (handleMessage Faults.none e m db).1 =
      if db.seen msgId then db else db.applyRequest e ev msgId orderId := by
  unfold handleMessage
  rw [hv]
  cases hs : db.seen msgId
  · have hs' : db.inbox.any (·.messageId = msgId) = false := hs
    cases hd : db.canDeduct orderId ev.userId ev.amount <;>
      simp [Faults.none, withTx, handleMessageTx, Queries.insertInboxCheck, Queries.tryDeductOnce,
        Queries.accountExists, Queries.insertOutbox, hs', hd, Db.applyRequest, resultFor, classify,
        Db.deduct, Db.addBalance]
  · have hs' : db.inbox.any (·.messageId = msgId) = true := hs
    simp [Faults.none, withTx, handleMessageTx, Queries.insertInboxCheck, hs']

end Payments

/-! ## Every outbox record passes the other side's checks -/

namespace Orders

/-- Every record of the Orders outbox passes the Payments consumer's checks. -/
def RequestsValid (db : Db) : Prop := ∀ m ∈ db.outbox.messages, (Payments.validRequest? m).isSome

/-- `CreateOrder` validates the user and the amount before it enqueues the event,
and the ids it writes are `uuid` strings. -/
theorem requestsValid_step {st : State} (h : RequestsValid st.db) (op : Op) :
    RequestsValid (step st op).1.db := by
  cases op with
  | createOrder req f o t e =>
    rcases createOrder_cases f req o t e st with ⟨_, hc⟩ | ⟨hu, ha, -, -, -, hc⟩ | ⟨-, _, -, -, -, hc⟩ <;>
      simp only [step, hc]
    · exact h
    · intro m hm
      simp only [Db.insertOrder, Outbox.messages_insertOutbox, List.mem_append, List.mem_singleton] at hm
      rcases hm with hm | rfl
      · exact h m hm
      · simp [Payments.validRequest?, Payload.unmarshalPaymentRequested, CreateOrderRequest.row, hu,
          not_le.2 ha]
    · exact h
  | getOrder req f => simpa [step] using h
  | handleMessage m f =>
    rcases handleMessage_cases f m st.db with hc | ⟨_, _, _, -, -, hc⟩ <;> simp only [step, hc] <;> exact h
  | publishOnce batch oc => simpa [RequestsValid, step, publishOnce_messages] using h
  | expireOrder o => exact h

theorem Reachable.requestsValid {st : State} (h : Reachable st) : RequestsValid st.db := by
  induction h with
  | init => intro _ h; cases h
  | step op _ ih => exact requestsValid_step ih op

end Orders

namespace Payments

/-- **A valid result in the outbox is keyed by its order.** -/
theorem InboxInv.key_of_validResult {db : Db} (hi : InboxInv db) (hrv : ResultsValid db) {m : KafkaMessage}
    (hm : m ∈ db.outbox.messages) {ev : PaymentResult} {msgId orderId : Uuid}
    (hv : Orders.validResult? m = some (ev, msgId, orderId)) : m.key = orderId.text := by
  obtain ⟨res, hres, hk⟩ := hi.results_decode m hm
  obtain ⟨h1, -, h3⟩ := Orders.validResult?_eq_some hv
  have hc := (hrv m hm).2
  rw [hres] at h1 hc
  cases h1
  simp only [Payload.idsCanonical, Bool.and_eq_true] at hc
  exact hk.symm.trans (eq_text_of_uuidParse hc.2 h3)

end Payments

/-! ## Event ids -/

theorem eventId?_of_validResult {m : KafkaMessage} (hc : m.value.idsCanonical = true) {ev : PaymentResult}
    {x o : Uuid} (hv : Orders.validResult? m = some (ev, x, o)) : m.value.eventId? = some x.text := by
  obtain ⟨h1, h2, -⟩ := Orders.validResult?_eq_some hv
  rw [Payload.eq_of_unmarshalPaymentResult h1] at hc ⊢
  simp only [Payload.idsCanonical, Bool.and_eq_true] at hc
  rw [Payload.eventId?, eq_text_of_uuidParse hc.1 h2]

theorem eventId?_of_validRequest {m : KafkaMessage} (hc : m.value.idsCanonical = true) {ev : PaymentRequested}
    {x o : Uuid} (hv : Payments.validRequest? m = some (ev, x, o)) : m.value.eventId? = some x.text := by
  obtain ⟨h1, h2, -⟩ := Payments.validRequest?_eq_some hv
  cases hval : m.value <;> simp only [hval, Payload.unmarshalPaymentRequested, reduceCtorEq] at h1
  cases h1
  simp only [hval, Payload.idsCanonical, Bool.and_eq_true] at hc
  rw [Payload.eventId?, eq_text_of_uuidParse hc.1 h2]

/-- **Records with distinct event ids are told apart by their event.** -/
theorem eq_of_eventId? {l : List KafkaMessage} (hids : (l.map (·.value.eventId?)).Nodup)
    {m m' : KafkaMessage} (hm : m ∈ l) (hm' : m' ∈ l) {x : String}
    (h : m.value.eventId? = some x) (h' : m'.value.eventId? = some x) : m = m' :=
  List.inj_on_of_nodup_map hids hm hm' (h.trans h'.symm)

namespace Pipeline

/-! ## Settled orders -/

/-- Order `o` is settled: none of its rows is `NEW`. -/
def Settled (db : Orders.Db) (o : Uuid) : Prop := ∀ r ∈ db.orders, r.orderId = o → r.status ≠ .new

section Settled

variable {db : Orders.Db} {o : Uuid}

/-- `UpdateOrderStatusIfNew` never moves an order back to `NEW`. -/
theorem Settled.setStatusIfNew (h : Settled db o) (o' : Uuid) (s : Orders.OrderStatus) :
    Settled (db.setStatusIfNew o' s) o := by
  intro r hr hro
  obtain ⟨r₀, hr₀, rfl⟩ := List.mem_map.1 hr
  by_cases hc : r₀.orderId = o' ∧ r₀.status = .new
  · rw [if_pos hc] at hro
    exact absurd hc.2 (h r₀ hr₀ hro)
  · rw [if_neg hc] at hro ⊢
    exact h r₀ hr₀ hro

/-- `UpdateOrderStatusIfNew` to a status other than `NEW` settles its order. -/
theorem settled_setStatusIfNew (db : Orders.Db) (o : Uuid) {s : Orders.OrderStatus} (hs : s ≠ .new) :
    Settled (db.setStatusIfNew o s) o := by
  intro r hr hro
  obtain ⟨r₀, hr₀, rfl⟩ := List.mem_map.1 hr
  by_cases hc : r₀.orderId = o ∧ r₀.status = .new
  · rw [if_pos hc]
    exact hs
  · rw [if_neg hc] at hro ⊢
    exact fun hn => hc ⟨hro, hn⟩

theorem Settled.insertOrder (h : Settled db o) {row : Orders.OrderRow} (hne : row.orderId ≠ o) (e : Uuid) :
    Settled (db.insertOrder row e) o := by
  intro r hr hro
  rcases List.mem_append.1 hr with hr | hr
  · exact h r hr hro
  · exact absurd (List.mem_singleton.1 hr ▸ hro) hne

theorem mem_ids_dbStep {db' : Orders.Db} (h : Orders.DbStep db db') (ho : o ∈ db.orders.map (·.orderId)) :
    o ∈ db'.orders.map (·.orderId) := by
  cases h with
  | same => exact ho
  | create => exact List.mem_map.2 (let ⟨r, hr, e⟩ := List.mem_map.1 ho; ⟨r, List.mem_append_left _ hr, e⟩)
  | result => rwa [Orders.Db.applyResult, Orders.map_setStatusIfNew _ _ _ (·.orderId) fun _ _ => rfl]
  | publish => exact ho

/-- **A settled order of the store stays settled** over any step of the Orders
service: no step inserts a second row under an existing id. -/
theorem Settled.dbStep {db' : Orders.Db} (h : Orders.DbStep db db') (hs : Settled db o)
    (ho : o ∈ db.orders.map (·.orderId)) : Settled db' o := by
  cases h with
  | same => exact hs
  | create _ hn _ => exact hs.insertOrder (fun heq => Orders.Db.order?_eq_none_iff.1 hn (heq ▸ ho)) _
  | result => exact hs.setStatusIfNew _ _
  | publish => exact hs

end Settled

theorem settled_step {s : State} {o : Uuid}
    (h : Settled s.orders.db o ∧ o ∈ s.orders.db.orders.map (·.orderId)) (op : Op) :
    Settled (step s op).orders.db o ∧ o ∈ (step s op).orders.db.orders.map (·.orderId) := by
  cases op with
  | orders op =>
    rw [step_orders_orders]
    split
    · exact ⟨h.1.dbStep (Orders.step_dbStep _ op) h.2, mem_ids_dbStep (Orders.step_dbStep _ op) h.2⟩
    · exact h
  | payments op => rw [step_payments_orders]; exact h

theorem settled_exec {s : State} {o : Uuid}
    (h : Settled s.orders.db o ∧ o ∈ s.orders.db.orders.map (·.orderId)) :
    ∀ ops, Settled (exec s ops).orders.db o ∧ o ∈ (exec s ops).orders.db.orders.map (·.orderId)
  | [] => h
  | op :: ops => settled_exec (settled_step h op) ops

/-! ## The settled inbox -/

/-- Each event of the Orders inbox is that of a valid result on `results` whose
order is settled. -/
def InboxSettled (results : List KafkaMessage) (db : Orders.Db) : Prop :=
  ∀ x ∈ db.inbox, ∃ m ∈ results, ∃ ev o, Orders.validResult? m = some (ev, x, o) ∧ Settled db o

theorem InboxSettled.mono {R R' : List KafkaMessage} {db : Orders.Db} (h : InboxSettled R db)
    (hR : ∀ m ∈ R, m ∈ R') : InboxSettled R' db := fun x hx =>
  let ⟨m, hm, rest⟩ := h x hx
  ⟨m, hR m hm, rest⟩

/-- **An Orders step keeps the inbox settled**, when every result on the topic is
for an existing order. -/
theorem InboxSettled.ordersStep {R : List KafkaMessage} {st : Orders.State} (h : InboxSettled R st.db)
    (hex : ∀ m ∈ R, ∀ {ev x o}, Orders.validResult? m = some (ev, x, o) → o ∈ st.db.orders.map (·.orderId))
    (op : Orders.Op) (hop : onTopic R op.delivered = true) : InboxSettled R (Orders.step st op).1.db := by
  cases op with
  | createOrder req f oid t e =>
    rcases Orders.createOrder_cases f req oid t e st with ⟨_, hc⟩ | ⟨-, -, -, hn, -, hc⟩ | ⟨-, _, -, -, -, hc⟩ <;>
      simp only [Orders.step, hc]
    · exact h
    · intro x hx
      obtain ⟨m, hm, ev, o, hv, hset⟩ := h x hx
      refine ⟨m, hm, ev, o, hv, hset.insertOrder (fun heq => ?_) e⟩
      exact Orders.Db.order?_eq_none_iff.1 hn (by rw [show oid = o from heq]; exact hex m hm hv)
    · exact h
  | getOrder req f => simpa [Orders.step] using h
  | handleMessage m f =>
    rcases Orders.handleMessage_cases f m st.db with hc | ⟨ev, x', o', hv', -, hc⟩ <;>
      simp only [Orders.step, hc]
    · exact h
    · intro x hx
      rcases List.mem_append.1 hx with hx | hx
      · obtain ⟨m₀, hm₀, ev₀, o, hv, hset⟩ := h x hx
        exact ⟨m₀, hm₀, ev₀, o, hv, hset.setStatusIfNew o' _⟩
      · rw [List.mem_singleton.1 hx]
        exact ⟨m, onTopic_iff.1 hop m rfl, ev, o', hv',
          settled_setStatusIfNew _ _ (Orders.newStatus_ne_new _)⟩
  | publishOnce batch oc => exact h
  | expireOrder o => exact h

/-- **Every valid result on the topic is for an existing order**: its key counts
an inbox row of the order, which came from the order's own request. -/
theorem Reachable.result_order {s : State} (hs : Reachable s) {m : KafkaMessage} (hm : m ∈ s.results)
    {ev : PaymentResult} {x o : Uuid} (hv : Orders.validResult? m = some (ev, x, o)) :
    o ∈ s.orders.db.orders.map (·.orderId) := by
  have hi := hs.settlementInv
  have hp := hs.payments.inboxInv
  have hm' := hi.results_sub m hm
  have hpos : 0 < (s.payments.db.inbox.filter (·.orderId = o)).length := by
    rw [← hp.results_count o]
    exact List.length_pos_of_mem
      (List.mem_filter.2 ⟨hm', by simp [hp.key_of_validResult hs.payments.resultsValid hm' hv]⟩)
  obtain ⟨row, hrow⟩ := List.exists_mem_of_length_pos hpos
  obtain ⟨hrow, hro⟩ := List.mem_filter.1 hrow
  obtain ⟨m', hm'', ev', hv'⟩ := hi.inbox_requested row hrow
  obtain ⟨-, r, hr, hro', -⟩ := request_of_mem hs.orders.ordersInv hm'' hv'
  exact List.mem_map.2 ⟨r, hr, hro'.trans (of_decide_eq_true hro)⟩

theorem inboxSettled_step {s : State} (hs : Reachable s) (h : InboxSettled s.results s.orders.db) (op : Op) :
    InboxSettled (step s op).results (step s op).orders.db := by
  cases op with
  | orders op =>
    dsimp only [step]
    split
    · exact h.ordersStep (fun _ hm _ _ _ hv => hs.result_order hm hv) op ‹_›
    · exact h
  | payments op =>
    dsimp only [step]
    split
    · exact h.mono fun _ hm => List.mem_append_left _ hm
    · exact h

theorem Reachable.inboxSettled {s : State} (h : Reachable s) : InboxSettled s.results s.orders.db := by
  induction h with
  | init => intro _ h; cases h
  | step op hs ih => exact inboxSettled_step hs ih op

/-- **A delivered result settles its order.**  Delivering, with no fault, a
record of `payments.payment_result.v1` to the Orders consumer leaves the record's
order out of `NEW`: a first delivery applies the result, and a redelivery finds
the event in the inbox, put there by this same record since event ids are
distinct. -/
theorem settled_deliver {s : State} (hs : Reachable s)
    (hids : (s.payments.db.outbox.messages.map (·.value.eventId?)).Nodup)
    {m : KafkaMessage} (hm : m ∈ s.results) {ev : PaymentResult} {x o : Uuid}
    (hv : Orders.validResult? m = some (ev, x, o)) :
    Settled (step s (.orders (.handleMessage m Orders.Faults.none))).orders.db o := by
  rw [step_orders_orders, if_pos (onTopic_iff.2 fun _ h => Option.some.inj h ▸ hm)]
  show Settled (Orders.handleMessage Orders.Faults.none m s.orders.db).1 o
  rw [Orders.handleMessage_none hv]
  split
  · next hseen =>
    obtain ⟨m', hm', ev', o', hv', hset⟩ := hs.inboxSettled x (by simpa [Orders.Db.seen] using hseen)
    have hsub := hs.settlementInv.results_sub
    have hc : ∀ m ∈ s.results, m.value.idsCanonical = true := fun m hm =>
      (hs.payments.resultsValid m (hsub m hm)).2
    obtain rfl := eq_of_eventId? hids (hsub m' hm') (hsub m hm) (eventId?_of_validResult (hc m' hm') hv')
      (eventId?_of_validResult (hc m hm) hv)
    rw [hv, Option.some.injEq, Prod.mk.injEq, Prod.mk.injEq] at hv'
    rw [hv'.2.2]
    exact hset
  · exact settled_setStatusIfNew _ _ (Orders.newStatus_ne_new _)

/-! ## Publishing everything -/

theorem exec_append (s : State) (ops₁ ops₂ : List Op) : exec s (ops₁ ++ ops₂) = exec (exec s ops₁) ops₂ := by
  induction ops₁ generalizing s with
  | nil => rfl
  | cons op ops ih => exact ih (step s op)

/-- `n` passes of the Orders publisher with batch `batch`, nothing failing. -/
def publishRequests (n batch now : Nat) : List Op := List.replicate n (.orders (.publishOnce batch (.clean now)))

/-- `n` passes of the Payments publisher with batch `batch`, nothing failing. -/
def publishResults (n batch now : Nat) : List Op := List.replicate n (.payments (.publishOnce batch (.clean now)))

/-- Passes of the Orders publisher are a relay run of the Orders outbox and touch
nothing else the drain reads. -/
theorem exec_publishRequests (s : State) (batch now : Nat) : ∀ n,
    let s' := exec s (publishRequests n batch now)
    s'.ordersRelay = s.ordersRelay.run (List.replicate n (.publish batch (.clean now))) ∧
      s'.orders.db.orders = s.orders.db.orders ∧ s'.payments = s.payments ∧ s'.results = s.results
  | 0 => ⟨rfl, rfl, rfl, rfl⟩
  | n + 1 => exec_publishRequests (step s (.orders (.publishOnce batch (.clean now)))) batch now n

/-- Passes of the Payments publisher are a relay run of the Payments outbox and
touch nothing else the drain reads. -/
theorem exec_publishResults (s : State) (batch now : Nat) : ∀ n,
    let s' := exec s (publishResults n batch now)
    s'.paymentsRelay = s.paymentsRelay.run (List.replicate n (.publish batch (.clean now))) ∧
      s'.orders = s.orders ∧ s'.requested = s.requested
  | 0 => ⟨rfl, rfl, rfl⟩
  | n + 1 => exec_publishResults (step s (.payments (.publishOnce batch (.clean now)))) batch now n

/-! ## Delivering every request -/

/-- The Payments deliveries of `drain`: each record of `msgs` handed to the
Payments consumer with the next fresh id for its result, and no fault. -/
def deliverRequests : List KafkaMessage → List Uuid → List Op
  | m :: msgs, e :: fresh => .payments (.handleMessage m e Payments.Faults.none) :: deliverRequests msgs fresh
  | _, _ => []

/-- A delivery to the Payments consumer touches neither Orders nor the topics. -/
theorem step_deliverRequest_frame (s : State) (m : KafkaMessage) (e : Uuid) (f : Payments.Faults) :
    let s' := step s (.payments (.handleMessage m e f))
    s'.orders = s.orders ∧ s'.requested = s.requested ∧ s'.results = s.results := by
  dsimp only [step]
  split <;> simp [Payments.step, Payments.Reply.written]

theorem deliverRequests_frame : ∀ (msgs : List KafkaMessage) (fresh : List Uuid) (s : State),
    let s' := exec s (deliverRequests msgs fresh)
    s'.orders = s.orders ∧ s'.requested = s.requested ∧ s'.results = s.results
  | m :: msgs, e :: fresh, s => by
      obtain ⟨h1, h2, h3⟩ := step_deliverRequest_frame s m e Payments.Faults.none
      obtain ⟨h1', h2', h3'⟩ := deliverRequests_frame msgs fresh (step s _)
      exact ⟨h1'.trans h1, h2'.trans h2, h3'.trans h3⟩
  | [], _, _ | _ :: _, [], _ => ⟨rfl, rfl, rfl⟩

/-- Once in the Payments inbox, an event stays there. -/
theorem seen_exec {s : State} {x : Uuid} (h : s.payments.db.seen x = true) :
    ∀ ops, (exec s ops).payments.db.seen x = true
  | [] => h
  | op :: ops => by
      refine seen_exec ?_ ops
      cases op with
      | orders op => rwa [step_orders_payments]
      | payments op =>
        rw [step_payments_payments]
        split
        · exact Payments.seen_dbStep (Payments.step_dbStep _ op) h
        · exact h

/-- **A fault-free delivery of a request on the topic leaves its event in the
Payments inbox.** -/
theorem seen_deliverRequest {s : State} {m : KafkaMessage} (hm : m ∈ s.requested) (e : Uuid)
    {ev : PaymentRequested} {x o : Uuid} (hv : Payments.validRequest? m = some (ev, x, o)) :
    (step s (.payments (.handleMessage m e Payments.Faults.none))).payments.db.seen x = true := by
  rw [step_payments_payments, if_pos (onTopic_iff.2 fun _ h => Option.some.inj h ▸ hm)]
  show (Payments.handleMessage Payments.Faults.none e m s.payments.db).1.seen x = true
  rw [Payments.handleMessage_none hv]
  split
  · next h => exact h
  · simp [Payments.Db.seen]

/-- **Every request delivered is in the Payments inbox afterwards.** -/
theorem seen_deliverRequests : ∀ (msgs : List KafkaMessage) (fresh : List Uuid) (s : State),
    (∀ m ∈ msgs, m ∈ s.requested) → ∀ m ∈ msgs.take fresh.length, ∀ {ev x o},
      Payments.validRequest? m = some (ev, x, o) → (exec s (deliverRequests msgs fresh)).payments.db.seen x = true
  | m' :: msgs, e :: fresh, s, hon, m, hm, ev, x, o, hv => by
      have hon' : ∀ m ∈ msgs, m ∈ (step s (.payments (.handleMessage m' e Payments.Faults.none))).requested :=
        fun m h => (step_deliverRequest_frame s m' e _).2.1 ▸ hon m (List.mem_cons_of_mem _ h)
      rcases List.mem_cons.1 hm with rfl | hm
      · exact seen_exec (seen_deliverRequest (hon m (List.mem_cons_self _ _)) e hv) _
      · exact seen_deliverRequests msgs fresh _ hon' m hm hv
  | [], _, _, _, _, hm, _, _, _, _ | _ :: _, [], _, _, _, hm, _, _, _, _ => by simp at hm

/-- A delivery to the Payments consumer enqueues at most one record, and that
record carries the result id the delivery was given. -/
theorem eventIds_deliverRequest (s : State) (m : KafkaMessage) (e : Uuid) (f : Payments.Faults) :
    (step s (.payments (.handleMessage m e f))).payments.db.outbox.messages.map (·.value.eventId?) =
        s.payments.db.outbox.messages.map (·.value.eventId?) ∨
      (step s (.payments (.handleMessage m e f))).payments.db.outbox.messages.map (·.value.eventId?) =
        s.payments.db.outbox.messages.map (·.value.eventId?) ++ [some e.text] := by
  rw [step_payments_payments]
  split
  · rcases Payments.handleMessage_cases f e m s.payments.db with h | ⟨ev, x, o, -, -, h⟩
    · exact .inl (by simp only [Payments.step, h])
    · refine .inr ?_
      simp [Payments.step, h, Payload.eventId?, Payments.resultFor]
  · exact .inl rfl

/-- **The deliveries enqueue results under fresh ids only**, each at most once
and in the order the ids were handed out. -/
theorem eventIds_deliverRequests : ∀ (msgs : List KafkaMessage) (fresh : List Uuid) (s : State),
    ∃ l : List Uuid, l.Sublist fresh ∧
      (exec s (deliverRequests msgs fresh)).payments.db.outbox.messages.map (·.value.eventId?) =
        s.payments.db.outbox.messages.map (·.value.eventId?) ++ l.map fun e => some e.text
  | m :: msgs, e :: fresh, s => by
      obtain ⟨l, hl, h⟩ := eventIds_deliverRequests msgs fresh (step s (.payments (.handleMessage m e
        Payments.Faults.none)))
      rcases eventIds_deliverRequest s m e Payments.Faults.none with h1 | h1
      · exact ⟨l, hl.cons e, h.trans (by rw [h1])⟩
      · exact ⟨e :: l, hl.cons₂ e, h.trans (by rw [h1]; simp)⟩
  | [], _, _ | _ :: _, [], _ => ⟨[], List.nil_sublist _, by simp [deliverRequests]⟩

/-- **Once every request is in the Payments inbox, every order has a valid result
in the Payments outbox**, when the requests' event ids are distinct: the inbox row
of the order's event was put there by the order's own request. -/
theorem exists_result {s : State} (hs : Reachable s)
    (hreq : (s.orders.db.outbox.messages.map (·.value.eventId?)).Nodup)
    (hseen : ∀ m ∈ s.orders.db.outbox.messages, ∀ {ev x o}, Payments.validRequest? m = some (ev, x, o) →
      s.payments.db.seen x = true)
    {r : Orders.OrderRow} (hr : r ∈ s.orders.db.orders) :
    ∃ m ∈ s.payments.db.outbox.messages, ∃ ev x, Orders.validResult? m = some (ev, x, r.orderId) := by
  have ho := hs.orders.ordersInv
  have hp := hs.payments.inboxInv
  obtain ⟨mr, hmr, hkey, -⟩ := Orders.exists_of_mem_forall₂ ho.requests.flip hr
  obtain ⟨⟨ev, x, o⟩, hv⟩ := Option.isSome_iff_exists.1 (hs.orders.requestsValid mr hmr)
  obtain rfl : o = r.orderId := Uuid.text_injective ((request_of_mem ho hmr hv).1.symm.trans hkey)
  obtain ⟨row, hrow, hx⟩ := List.any_eq_true.1 (hseen mr hmr hv)
  obtain ⟨m', hm', ev', hv'⟩ := hs.settlementInv.inbox_requested row hrow
  rw [of_decide_eq_true hx] at hv'
  obtain rfl := eq_of_eventId? hreq hm' hmr (eventId?_of_validRequest (ho.idsCanonical hm') hv')
    (eventId?_of_validRequest (ho.idsCanonical hmr) hv)
  rw [hv, Option.some.injEq, Prod.mk.injEq, Prod.mk.injEq] at hv'
  have hpos : 0 < (s.payments.db.outbox.messages.filter (·.key = r.orderId.text)).length := by
    rw [hp.results_count]
    exact List.length_pos_of_mem (List.mem_filter.2 ⟨hrow, by simp [hv'.2.2]⟩)
  obtain ⟨mres, hmres⟩ := List.exists_mem_of_length_pos hpos
  obtain ⟨hmres, hk⟩ := List.mem_filter.1 hmres
  obtain ⟨⟨res, y, o⟩, hvr⟩ := Option.isSome_iff_exists.1 (hs.payments.resultsValid mres hmres).1
  obtain rfl : o = r.orderId := Uuid.text_injective
    ((hp.key_of_validResult hs.payments.resultsValid hmres hvr).symm.trans (of_decide_eq_true hk))
  exact ⟨mres, hmres, res, y, hvr⟩

/-! ## Delivering every result -/

/-- The Orders deliveries of `drain`: each record of `msgs` handed to the Orders
consumer, with no fault. -/
def deliverResults (msgs : List KafkaMessage) : List Op :=
  msgs.map fun m => .orders (.handleMessage m Orders.Faults.none)

/-- A delivery to the Orders consumer keeps the order ids, Payments and the
results topic. -/
theorem step_deliverResult_frame (s : State) (m : KafkaMessage) (f : Orders.Faults) :
    let s' := step s (.orders (.handleMessage m f))
    s'.orders.db.orders.map (·.orderId) = s.orders.db.orders.map (·.orderId) ∧
      s'.payments = s.payments ∧ s'.results = s.results := by
  dsimp only [step]
  split
  · refine ⟨?_, rfl, rfl⟩
    rcases Orders.handleMessage_cases f m s.orders.db with h | ⟨_, _, _, -, -, h⟩ <;>
      simp only [Orders.step, h]
    exact Orders.map_setStatusIfNew _ _ _ (·.orderId) fun _ _ => rfl
  · exact ⟨rfl, rfl, rfl⟩

theorem deliverResults_frame : ∀ (msgs : List KafkaMessage) (s : State),
    let s' := exec s (deliverResults msgs)
    s'.orders.db.orders.map (·.orderId) = s.orders.db.orders.map (·.orderId) ∧
      s'.payments = s.payments ∧ s'.results = s.results
  | [], _ => ⟨rfl, rfl, rfl⟩
  | m :: msgs, s => by
      obtain ⟨h1, h2, h3⟩ := step_deliverResult_frame s m Orders.Faults.none
      obtain ⟨h1', h2', h3'⟩ := deliverResults_frame msgs (step s _)
      exact ⟨h1'.trans h1, h2'.trans h2, h3'.trans h3⟩

/-- **Delivering every result settles the order of each.** -/
theorem settled_deliverResults : ∀ (msgs : List KafkaMessage) (s : State), Reachable s →
    (s.payments.db.outbox.messages.map (·.value.eventId?)).Nodup → (∀ m ∈ msgs, m ∈ s.results) →
    ∀ m ∈ msgs, ∀ {ev x o}, Orders.validResult? m = some (ev, x, o) →
      o ∈ s.orders.db.orders.map (·.orderId) → Settled (exec s (deliverResults msgs)).orders.db o
  | [], _, _, _, _, _, hm, _, _, _, _, _ => by cases hm
  | m' :: msgs, s, hs, hids, hon, m, hm, ev, x, o, hv, ho => by
      obtain ⟨hids', hpay, hres⟩ := step_deliverResult_frame s m' Orders.Faults.none
      have ho' : o ∈ (step s (.orders (.handleMessage m' Orders.Faults.none))).orders.db.orders.map (·.orderId) := by
        rwa [hids']
      rcases List.mem_cons.1 hm with rfl | hm
      · exact (settled_exec ⟨settled_deliver hs hids (hon m (List.mem_cons_self _ _)) hv, ho'⟩ _).1
      · exact settled_deliverResults msgs _ (hs.step _) (by rwa [hpay])
          (fun m h => hres ▸ hon m (List.mem_cons_of_mem _ h)) m hm hv ho'

/-! ## The drain -/

/-- The first half of `drain`: passes of the Orders publisher with batch `batch`,
as many as the Orders outbox has rows, then every record of the Orders outbox
delivered to the Payments consumer, the `i`-th with result id `fresh[i]`. -/
def drainRequests (s : State) (fresh : List Uuid) (batch now : Nat) : List Op :=
  publishRequests s.orders.db.outbox.rows.length batch now ++ deliverRequests s.orders.db.outbox.messages fresh

/-- The second half of `drain`: passes of the Payments publisher with batch
`batch`, as many as the Payments outbox has rows, then every record of the
Payments outbox delivered to the Orders consumer. -/
def drainResults (s : State) (batch now : Nat) : List Op :=
  publishResults s.payments.db.outbox.rows.length batch now ++ deliverResults s.payments.db.outbox.messages

/-- **The drain schedule**, a run of the pipeline in which nothing fails: the
requests are published and delivered, then the results they produced. -/
def drain (s : State) (fresh : List Uuid) (batch now : Nat) : List Op :=
  drainRequests s fresh batch now ++ drainResults (exec s (drainRequests s fresh batch now)) batch now

/-- **The first half of `drain` puts every request's event in the Payments
inbox**, leaves the orders and their requests as they were, and adds results
under fresh ids only. -/
theorem exec_drainRequests {s : State} (hs : Reachable s) {fresh : List Uuid}
    (hlen : s.orders.db.orders.length ≤ fresh.length) {batch : Nat} (hb : 0 < batch) (hb' : batch < 2 ^ 31)
    (now : Nat) :
    let s' := exec s (drainRequests s fresh batch now)
    s'.orders.db.orders = s.orders.db.orders ∧ s'.orders.db.outbox.messages = s.orders.db.outbox.messages ∧
      (∀ m ∈ s'.orders.db.outbox.messages, ∀ {ev x o},
        Payments.validRequest? m = some (ev, x, o) → s'.payments.db.seen x = true) ∧
      ∃ l : List Uuid, l.Sublist fresh ∧ s'.payments.db.outbox.messages.map (·.value.eventId?) =
        s.payments.db.outbox.messages.map (·.value.eventId?) ++ l.map fun e => some e.text := by
  intro s'
  set s₁ := exec s (publishRequests s.orders.db.outbox.rows.length batch now)
  obtain ⟨hrel, hord, hpay, -⟩ := exec_publishRequests s batch now s.orders.db.outbox.rows.length
  have hmsgs₁ : s₁.orders.db.outbox.messages = s.orders.db.outbox.messages :=
    (congrArg (·.outbox.messages) hrel).trans (Relay.run_clean hs.relays_inv.1.wellFormed hb' now _).1
  have hon : ∀ m ∈ s.orders.db.outbox.messages, m ∈ s₁.requested := by
    rw [show s₁.requested = _ from congrArg Relay.topic hrel]
    exact hs.relays_inv.1.run_clean_written hb' now (Nat.le_mul_of_pos_right _ hb)
  have hs' : s' = exec s₁ (deliverRequests s.orders.db.outbox.messages fresh) := exec_append _ _ _
  obtain ⟨ho, -, -⟩ := deliverRequests_frame s.orders.db.outbox.messages fresh s₁
  rw [← hs'] at ho
  have hmsgs : s'.orders.db.outbox.messages = s.orders.db.outbox.messages := by rw [ho, hmsgs₁]
  have htake : s.orders.db.outbox.messages.take fresh.length = s.orders.db.outbox.messages :=
    List.take_of_length_le (hs.orders.ordersInv.requests.length_eq.trans_le hlen)
  obtain ⟨l, hl, hids⟩ := eventIds_deliverRequests s.orders.db.outbox.messages fresh s₁
  rw [← hs', hpay] at hids
  refine ⟨by rw [ho, hord], hmsgs, fun m hm _ _ _ hv => ?_, l, hl, hids⟩
  rw [hs']
  exact seen_deliverRequests _ fresh s₁ hon m (by rwa [htake, ← hmsgs]) hv

/-- **The second half of `drain` settles the order of every valid result of the
Payments outbox**, when result ids are distinct, and keeps the order ids. -/
theorem exec_drainResults {s : State} (hs : Reachable s)
    (hids : (s.payments.db.outbox.messages.map (·.value.eventId?)).Nodup) {batch : Nat} (hb : 0 < batch)
    (hb' : batch < 2 ^ 31) (now : Nat) :
    let s' := exec s (drainResults s batch now)
    s'.orders.db.orders.map (·.orderId) = s.orders.db.orders.map (·.orderId) ∧
      ∀ m ∈ s.payments.db.outbox.messages, ∀ {ev x o}, Orders.validResult? m = some (ev, x, o) →
        o ∈ s.orders.db.orders.map (·.orderId) → Settled s'.orders.db o := by
  intro s'
  set s₁ := exec s (publishResults s.payments.db.outbox.rows.length batch now)
  obtain ⟨hrel, hord, -⟩ := exec_publishResults s batch now s.payments.db.outbox.rows.length
  have hmsgs : s₁.payments.db.outbox.messages = s.payments.db.outbox.messages :=
    (congrArg (·.outbox.messages) hrel).trans (Relay.run_clean hs.relays_inv.2.wellFormed hb' now _).1
  have hon : ∀ m ∈ s.payments.db.outbox.messages, m ∈ s₁.results := by
    rw [show s₁.results = _ from congrArg Relay.topic hrel]
    exact hs.relays_inv.2.run_clean_written hb' now (Nat.le_mul_of_pos_right _ hb)
  have hs' : s' = exec s₁ (deliverResults s.payments.db.outbox.messages) := exec_append _ _ _
  rw [hs', (deliverResults_frame _ s₁).1, hord]
  exact ⟨rfl, fun m hm _ _ _ hv ho => settled_deliverResults _ s₁ (hs.exec _) (by rwa [hmsgs]) hon m hm hv
    (by rwa [hord])⟩

/-- After `drain`, the orders are the ones there were and none of them is `NEW`. -/
theorem drain_settles (s : State) (hs : Reachable s)
    (hreq : (s.orders.db.outbox.messages.map (·.value.eventId?)).Nodup)
    (hres : (s.payments.db.outbox.messages.map (·.value.eventId?)).Nodup)
    {fresh : List Uuid} (hfresh : fresh.Nodup)
    (hnew : ∀ e ∈ fresh, some e.text ∉ s.payments.db.outbox.messages.map (·.value.eventId?))
    (hlen : s.orders.db.orders.length ≤ fresh.length) {batch : Nat} (hb : 0 < batch) (hb' : batch < 2 ^ 31)
    (now : Nat) :
    (exec s (drain s fresh batch now)).orders.db.orders.map (·.orderId) = s.orders.db.orders.map (·.orderId) ∧
      ∀ r ∈ (exec s (drain s fresh batch now)).orders.db.orders, r.status ≠ .new := by
  set s₂ := exec s (drainRequests s fresh batch now)
  have hs₂ : Reachable s₂ := hs.exec _
  obtain ⟨hord, hmsgs, hseen, l, hl, hids⟩ := exec_drainRequests hs hlen hb hb' now
  have hnodup : (s₂.payments.db.outbox.messages.map (·.value.eventId?)).Nodup := by
    rw [hids]
    refine List.nodup_append.2 ⟨hres, (hfresh.sublist hl).map fun _ _ h => Uuid.text_injective (Option.some.inj h),
      fun a ha hb => ?_⟩
    obtain ⟨e, he, rfl⟩ := List.mem_map.1 hb
    exact hnew e (hl.subset he) ha
  obtain ⟨hids', hsettled⟩ := exec_drainResults hs₂ hnodup hb hb' now
  have hexec : exec s (drain s fresh batch now) = exec s₂ (drainResults s₂ batch now) := exec_append _ _ _
  rw [hexec, hids', hord]
  refine ⟨rfl, fun r hr => ?_⟩
  have hmem : r.orderId ∈ s₂.orders.db.orders.map (·.orderId) := hids' ▸ List.mem_map_of_mem _ hr
  obtain ⟨r₀, hr₀₂, hro⟩ := List.mem_map.1 hmem
  obtain ⟨m, hm, ev, x, hv⟩ := exists_result hs₂ (by rwa [hmsgs]) hseen hr₀₂
  exact hsettled m hm hv (List.mem_map_of_mem _ hr₀₂) r hr hro.symm

/-- An element of a list of length at most one is the whole list. -/
theorem eq_singleton_of_mem_of_length_le_one {α : Type} :
    ∀ {l : List α}, l.length ≤ 1 → ∀ {a : α}, a ∈ l → l = [a]
  | [], _, _, ha => by cases ha
  | [_], _, _, ha => by rw [List.mem_singleton.1 ha]
  | _ :: _ :: _, h, _, _ => by simp at h

/-- **A settled order has exactly one result**, on the topic, and its status is
the one that result says. -/
theorem Reachable.result_of_settled {s : State} (hs : Reachable s) {r : Orders.OrderRow}
    (hr : r ∈ s.orders.db.orders) (hn : r.status ≠ .new) :
    ∃ m ∈ s.results, ∃ res, s.payments.db.outbox.messages.filter (·.key = r.orderId.text) = [m] ∧
      m.value = .paymentResult res ∧ r.status = Orders.newStatus res.status := by
  have hi := hs.settlementInv
  have hp := hs.payments.inboxInv
  obtain ⟨m, hm, res, hv, hid, hst⟩ := hi.status_result r hr hn
  have hm' := hi.results_sub m hm
  obtain ⟨res', hres', hk⟩ := hp.results_decode m hm'
  rw [hv, Payload.paymentResult.injEq] at hres'
  subst hres'
  have hkey : m.key = r.orderId.text := hk.symm.trans hid
  have hle : (s.payments.db.outbox.messages.filter (·.key = r.orderId.text)).length ≤ 1 :=
    hp.results_count r.orderId ▸ length_filter_le_one_of_nodup_map hi.inbox_orders_nodup r.orderId
  exact ⟨m, hm, res, eq_singleton_of_mem_of_length_le_one hle (List.mem_filter.2 ⟨hm', by simp [hkey]⟩),
    hv, hst⟩

/-- **Draining the pipeline settles every order, each by exactly one result.**
Start from a reachable state in which the event ids of each outbox are distinct.
Run `drain` with any positive batch size that `int32(p.batch)` keeps, and with
fresh, distinct result ids, at least one per order.  Then the orders are the ones there were, and none of them is
`NEW`.  Each order has exactly one `PaymentResult` in the Payments outbox.  That
result is on `payments.payment_result.v1`, and the order's status is the one the
result says: `FINISHED` for `SUCCESS`, `CANCELLED` otherwise. -/
theorem drain_settles_every_order (s : State) (hs : Reachable s)
    (hreq : (s.orders.db.outbox.messages.map (·.value.eventId?)).Nodup)
    (hres : (s.payments.db.outbox.messages.map (·.value.eventId?)).Nodup)
    {fresh : List Uuid} (hfresh : fresh.Nodup)
    (hnew : ∀ e ∈ fresh, some e.text ∉ s.payments.db.outbox.messages.map (·.value.eventId?))
    (hlen : s.orders.db.orders.length ≤ fresh.length) {batch : Nat} (hb : 0 < batch) (hb' : batch < 2 ^ 31)
    (now : Nat) :
    let s' := exec s (drain s fresh batch now)
    s'.orders.db.orders.map (·.orderId) = s.orders.db.orders.map (·.orderId) ∧
      ∀ r ∈ s'.orders.db.orders, r.status ≠ .new ∧ ∃ m ∈ s'.results, ∃ res,
        s'.payments.db.outbox.messages.filter (·.key = r.orderId.text) = [m] ∧
        m.value = .paymentResult res ∧ r.status = Orders.newStatus res.status := by
  intro s'
  obtain ⟨hids, hsettled⟩ := drain_settles s hs hreq hres hfresh hnew hlen hb hb' now
  exact ⟨hids, fun r hr => ⟨hsettled r hr, (hs.exec _).result_of_settled hr (hsettled r hr)⟩⟩

theorem drain_settles_two_orders :
    let e₁ : Uuid := ⟨"00000000-0000-0000-0000-000000000001", by decide⟩
    let e₂ : Uuid := ⟨"00000000-0000-0000-0000-000000000002", by decide⟩
    let o₁ : Uuid := ⟨"00000000-0000-0000-0000-00000000000a", by decide⟩
    let o₂ : Uuid := ⟨"00000000-0000-0000-0000-00000000000b", by decide⟩
    let r₁ : Uuid := ⟨"00000000-0000-0000-0000-0000000000c1", by decide⟩
    let r₂ : Uuid := ⟨"00000000-0000-0000-0000-0000000000c2", by decide⟩
    let s := exec (State.init false false)
      [.payments (.createAccount ⟨"u", ""⟩ Payments.Faults.none),
        .payments (.topUp ⟨"u", 50, ""⟩ Payments.Faults.none),
        .orders (.createOrder ⟨"u", 10, "book", ""⟩ Orders.Faults.none o₁ 0 e₁),
        .orders (.createOrder ⟨"v", 5, "pen", ""⟩ Orders.Faults.none o₂ 1 e₂)]
    Reachable s ∧ (s.orders.db.outbox.messages.map (·.value.eventId?)).Nodup ∧
      (s.payments.db.outbox.messages.map (·.value.eventId?)).Nodup ∧ [r₁, r₂].Nodup ∧
      (∀ e ∈ [r₁, r₂], some e.text ∉ s.payments.db.outbox.messages.map (·.value.eventId?)) ∧
      s.orders.db.orders.length ≤ [r₁, r₂].length ∧
      0 < 1 ∧ 1 < 2 ^ 31 ∧
      let s' := exec s (drain s [r₁, r₂] 1 0)
      s'.orders.db.orders.map (·.orderId) = s.orders.db.orders.map (·.orderId) ∧
        ∀ r ∈ s'.orders.db.orders, r.status ≠ .new ∧ ∃ m ∈ s'.results, ∃ res,
          s'.payments.db.outbox.messages.filter (·.key = r.orderId.text) = [m] ∧
          m.value = .paymentResult res ∧ r.status = Orders.newStatus res.status := by
  intro e₁ e₂ o₁ o₂ r₁ r₂ s
  have hs : Reachable s := (Reachable.init false false).exec _
  have hreq : (s.orders.db.outbox.messages.map (·.value.eventId?)).Nodup := by decide
  have hres : (s.payments.db.outbox.messages.map (·.value.eventId?)).Nodup := by decide
  have hfresh : [r₁, r₂].Nodup := by decide
  have hnew : ∀ e ∈ [r₁, r₂], some e.text ∉ s.payments.db.outbox.messages.map (·.value.eventId?) := by decide
  have hlen : s.orders.db.orders.length ≤ [r₁, r₂].length := by decide
  exact ⟨hs, hreq, hres, hfresh, hnew, hlen, Nat.one_pos, by decide,
    drain_settles_every_order s hs hreq hres hfresh hnew hlen Nat.one_pos (by decide) 0⟩

end Pipeline

end PaymentsService
