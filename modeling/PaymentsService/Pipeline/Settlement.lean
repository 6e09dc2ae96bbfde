import PaymentsService.Pipeline.System
import PaymentsService.Orders.Requests
import PaymentsService.Payments.Inbox

/-!
# Settlement: an order's final status matches its debit

An order is `FINISHED` only when Payments debited its account by its amount, once,
and `CANCELLED` only when Payments debited nothing for it; Payments debits
nothing for an order that does not exist.  Nothing in either service checks this
directly: it follows from how the events travel.  Every `PaymentRequested` on the
topic is the one event its order's transaction enqueued, so an order is applied
by Payments at most once; that one application both debits or not and enqueues
the one result saying so; and the Orders consumer moves an order out of `NEW` only
as a result on the topic says.

## Main definitions

* `SettledBy` — an order left `NEW` as some result record for it says.
* `ResultsExact` — every result row says `SUCCESS` exactly when its order was
  debited.
* `SettlementInv` — the invariant linking the two stores and the two topics.
* `OrdersMove` — what an Orders step may do, as `SettlementInv` sees it.

## Main results

* `ordersMove_step`, `Payments.step_events` — what one step of each service does
  to the rows the invariant reads.
* `Payments.ResultsValid` — every record of the Payments outbox passes the Orders
  consumer's checks and carries canonical identifiers, so the order a result
  names is the order it is keyed by.
* `ResultsExact.applyRequest` — the first application of an order that has no
  inbox row and no operation keeps the result rows exact.
* `SettlementInv.ordersMove`, `SettlementInv.paymentsQuiet`,
  `SettlementInv.applyRequest` — each kind of step keeps the invariant;
  `settlementInv_step` assembles them and `Reachable.settlementInv` runs them.
* `order_status_matches_debit` — in every state reached from empty stores, a
  `FINISHED` order has exactly one operation, carrying its user and amount, a
  `CANCELLED` one has none, and every operation belongs to an order.
* `one_result_per_order` — Payments applies each order at most once, so it
  emits at most one `PaymentResult` per order.

## Design notes

**The one application per order.**  `applyRequest` needs the order it debits to
have no inbox row yet, since otherwise a second event for one order would find
the first one's operation, fail `TryDeductOnce` and report a failure for an order
that was paid.  The event ids alone do not give this: two orders may be handed
the same fresh id.  What gives it is that every inbox row comes from a record of
the Orders outbox (`inbox_requested`), that the Orders outbox holds one record
per order (`OrdersInv.outbox_keys_nodup`), and that the inbox check rejects that
record's second delivery.

**What is load-bearing in the invariant.**  `ops_inbox` rules out an operation
left behind by an earlier application; `ResultsExact` is the exact link between
a result row and the table of operations, and stays exact because no result row
for the order being applied exists yet (`InboxInv.key_ne`).
-/

namespace PaymentsService

/-! ## What a step does to the rows settlement reads -/

namespace Payments

/-- **What a Payments step does to the inbox, the operations and the outbox**:
nothing, or it is the first delivery of a valid `PaymentRequested`, which
commits `Db.applyRequest`. -/
theorem step_events (st : State) (op : Op) :
    let db' := (step st op).1.db
    (db'.inbox = st.db.inbox ∧ db'.paymentOperations = st.db.paymentOperations ∧
      db'.outbox.messages = st.db.outbox.messages) ∨
    ∃ m e f ev msgId orderId, op = .handleMessage m e f ∧ validRequest? m = some (ev, msgId, orderId) ∧
      st.db.seen msgId = false ∧ db' = st.db.applyRequest e ev msgId orderId := by
  cases op with
  | createAccount req f =>
    rcases createAccount_cases f req st with ⟨_, h⟩ | ⟨_, -, h⟩ | ⟨-, -, h⟩ <;> simp [step, h]
  | topUp req f =>
    rcases topUp_cases f req st with ⟨_, h⟩ | ⟨-, _, -, -, h⟩ | ⟨-, -, _, -, -, _, ⟨-, rfl⟩ | ⟨-, -, rfl⟩, h⟩ <;>
      simp [step, h]
  | getBalance req f => simp [step]
  | handleMessage m e f =>
    rcases handleMessage_cases f e m st.db with h | ⟨ev, msgId, orderId, hv, hs, h⟩
    · simp [step, h]
    · exact .inr ⟨m, e, f, ev, msgId, orderId, rfl, hv, hs, h⟩
  | publishOnce batch oc => simp [step, publishOnce_messages]
  | expireBalance u => simp [step]

/-- Every record of the Payments outbox passes the Orders consumer's checks, and
carries canonical identifiers. -/
def ResultsValid (db : Db) : Prop :=
  ∀ m ∈ db.outbox.messages, (Orders.validResult? m).isSome ∧ m.value.idsCanonical

/-- A result names the event id the consumer drew and the order it parsed. -/
theorem resultsValid_dbStep {db db' : Db} (h : ResultsValid db) (hs : DbStep db db') : ResultsValid db' := by
  cases hs with
  | same => exact h
  | openAccount | credit | creditKeyed => simpa [ResultsValid] using h
  | @request e _ _ orderId _ _ _ _ _ =>
    intro m hm
    simp only [applyRequest_outbox, Outbox.messages_insertOutbox, List.mem_append, List.mem_singleton] at hm
    rcases hm with hm | rfl
    · exact h m hm
    · simp [Orders.validResult?, Payload.unmarshalPaymentResult, resultFor, Payload.idsCanonical, e.canonical,
        orderId.canonical]
  | publish hm => simpa [ResultsValid, hm] using h

theorem Reachable.resultsValid {st : State} (h : Reachable st) : ResultsValid st.db := by
  induction h with
  | init => intro _ h; cases h
  | step op _ ih => exact resultsValid_dbStep ih (step_dbStep _ op)

end Payments

namespace Pipeline

/-- Order `r` left `NEW` as a record of `payments.payment_result.v1` for it says:
its status is the one the consumer writes for that result. -/
def SettledBy (results : List KafkaMessage) (r : Orders.OrderRow) : Prop :=
  ∃ m ∈ results, ∃ res, m.value = .paymentResult res ∧ res.orderId = r.orderId.text ∧
    r.status = Orders.newStatus res.status

theorem SettledBy.mono {results results' : List KafkaMessage} {r : Orders.OrderRow}
    (h : SettledBy results r) (hs : ∀ m ∈ results, m ∈ results') : SettledBy results' r :=
  let ⟨m, hm, rest⟩ := h
  ⟨m, hs m hm, rest⟩

/-- **What an Orders step may do, as settlement sees it**: keep every outbox
record, keep every order with its id, user and amount, and move an order out of
`NEW` only as a result record on the topic says. -/
structure OrdersMove (results : List KafkaMessage) (db db' : Orders.Db) : Prop where
  outbox : db.outbox.messages <+: db'.outbox.messages
  keeps : ∀ r ∈ db.orders, ∃ r' ∈ db'.orders,
    r'.orderId = r.orderId ∧ r'.userId = r.userId ∧ r'.amount = r.amount
  settles : ∀ r' ∈ db'.orders, r'.status ≠ .new → r' ∈ db.orders ∨ SettledBy results r'

section OrdersMove

variable {results : List KafkaMessage}

theorem OrdersMove.of_orders_eq {db db' : Orders.Db} (ho : db'.orders = db.orders)
    (hm : db.outbox.messages <+: db'.outbox.messages) : OrdersMove results db db' :=
  ⟨hm, fun r hr => ⟨r, ho ▸ hr, rfl, rfl, rfl⟩, fun _ hr _ => .inl (ho ▸ hr)⟩

theorem OrdersMove.refl (db : Orders.Db) : OrdersMove results db db :=
  .of_orders_eq rfl (List.prefix_refl _)

theorem OrdersMove.insertOrder (db : Orders.Db) {row : Orders.OrderRow} (e : Uuid)
    (hn : row.status = .new) : OrdersMove results db (db.insertOrder row e) := by
  refine ⟨?_, fun r hr => ⟨r, List.mem_append_left _ hr, rfl, rfl, rfl⟩, fun r hr hs => ?_⟩
  · simp only [Orders.Db.insertOrder, Outbox.messages_insertOutbox]
    exact List.prefix_append _ _
  · rcases List.mem_append.1 hr with h | h
    · exact .inl h
    · exact absurd (List.mem_singleton.1 h ▸ hn) hs

theorem OrdersMove.applyResult {m : KafkaMessage} (hm : m ∈ results) (hc : m.value.idsCanonical = true)
    {ev : PaymentResult} {msgId orderId : Uuid} (hv : Orders.validResult? m = some (ev, msgId, orderId))
    (db : Orders.Db) : OrdersMove results db (db.applyResult msgId orderId (Orders.newStatus ev.status)) := by
  obtain ⟨h1, -, h3⟩ := Orders.validResult?_eq_some hv
  have hval := Payload.eq_of_unmarshalPaymentResult h1
  have hto : ev.orderId = orderId.text := by
    rw [hval] at hc
    simp only [Payload.idsCanonical, Bool.and_eq_true] at hc
    exact eq_text_of_uuidParse hc.2 h3
  refine ⟨List.prefix_refl _, fun r hr => ⟨_, List.mem_map_of_mem _ hr, ?_⟩, fun r' hr' _ => ?_⟩
  · split <;> exact ⟨rfl, rfl, rfl⟩
  · obtain ⟨r, hr, rfl⟩ := List.mem_map.1 hr'
    split
    · rename_i hsel
      exact .inr ⟨m, hm, ev, hval, hto.trans (congrArg Uuid.text hsel.1.symm), rfl⟩
    · exact .inl hr

/-- **Every Orders step whose delivery, if any, is of a record on the topic is a
settlement move.** -/
theorem ordersMove_step (st : Orders.State) (op : Orders.Op) (hop : onTopic results op.delivered = true)
    (hcan : ∀ m ∈ results, m.value.idsCanonical = true) :
    OrdersMove results st.db (Orders.step st op).1.db := by
  cases op with
  | createOrder req f o t e =>
    rcases Orders.createOrder_cases f req o t e st with ⟨_, h⟩ | ⟨-, -, -, -, -, h⟩ | ⟨-, _, -, -, -, h⟩ <;>
      simp only [Orders.step, h]
    · exact .refl _
    · exact .insertOrder _ _ rfl
    · exact .refl _
  | getOrder req f => simpa [Orders.step] using .refl _
  | handleMessage m f =>
    rcases Orders.handleMessage_cases f m st.db with h | ⟨ev, msgId, orderId, hv, -, h⟩ <;>
      simp only [Orders.step, h]
    · exact .refl _
    · exact .applyResult (onTopic_iff.1 hop m rfl) (hcan m (onTopic_iff.1 hop m rfl)) hv _
  | publishOnce batch oc =>
    refine .of_orders_eq rfl ?_
    simp only [Orders.step, publishOnce_messages]
    exact List.prefix_refl _
  | expireOrder o => exact .refl _

end OrdersMove

/-! ## The invariant -/

/-- Every result row of the Payments outbox says `SUCCESS` exactly when its order
has an operation. -/
def ResultsExact (db : Payments.Db) : Prop :=
  ∀ m ∈ db.outbox.messages, ∀ res, m.value = .paymentResult res →
    (res.status = .success ↔ ∃ p ∈ db.paymentOperations, p.orderId.text = res.orderId)

/-- **The settlement invariant.**  The topics hold records of the outboxes; every
Payments inbox row is a valid request of the Orders outbox, and no two are for
one order; every operation has the inbox row of its order and the order's user
and amount; a result row says `SUCCESS` exactly when its order has an operation;
and an order out of `NEW` is so as a result record on the topic says. -/
structure SettlementInv (s : State) : Prop where
  requested_sub : ∀ m ∈ s.requested, m ∈ s.orders.db.outbox.messages
  results_sub : ∀ m ∈ s.results, m ∈ s.payments.db.outbox.messages
  inbox_requested : ∀ row ∈ s.payments.db.inbox, ∃ m ∈ s.orders.db.outbox.messages, ∃ ev,
    Payments.validRequest? m = some (ev, row.messageId, row.orderId)
  inbox_orders_nodup : (s.payments.db.inbox.map (·.orderId)).Nodup
  ops_inbox : ∀ p ∈ s.payments.db.paymentOperations, ∃ row ∈ s.payments.db.inbox,
    row.orderId = p.orderId
  ops_order : ∀ p ∈ s.payments.db.paymentOperations, ∃ r ∈ s.orders.db.orders,
    r.orderId = p.orderId ∧ r.userId = p.userId ∧ r.amount = p.amount
  result_status : ResultsExact s.payments.db
  status_result : ∀ r ∈ s.orders.db.orders, r.status ≠ .new → SettledBy s.results r

theorem SettlementInv.init (ordersCache paymentsCache : Bool) :
    SettlementInv (State.init ordersCache paymentsCache) := by
  refine ⟨?_, ?_, ?_, List.nodup_nil, ?_, ?_, ?_, ?_⟩ <;> intro _ h <;> cases h

/-- **A valid request on the Orders outbox is its order's event.** -/
theorem request_of_mem {db : Orders.Db} (hi : Orders.OrdersInv db) {m : KafkaMessage}
    (hm : m ∈ db.outbox.messages) {ev : PaymentRequested} {msgId orderId : Uuid}
    (hv : Payments.validRequest? m = some (ev, msgId, orderId)) :
    m.key = orderId.text ∧
      ∃ r ∈ db.orders, r.orderId = orderId ∧ r.userId = ev.userId ∧ r.amount = ev.amount := by
  obtain ⟨r, hr, hk, e, hval⟩ := Orders.exists_of_mem_forall₂ hi.requests hm
  obtain ⟨h1, -, h3, -, -⟩ := Payments.validRequest?_eq_some hv
  rw [hval] at h1
  cases h1
  simp only [uuidParse_text, Option.some.injEq] at h3
  subst h3
  exact ⟨hk, r, hr, rfl, rfl, rfl⟩

/-- **A first application of an order with no inbox row and no operation keeps
the result rows exact**: its own row says `SUCCESS` exactly when it debited, and
no earlier row is about its order. -/
theorem ResultsExact.applyRequest {db : Payments.Db} (h : ResultsExact db) (hp : Payments.InboxInv db)
    {orderId : Uuid} (hfresh : ∀ row ∈ db.inbox, row.orderId ≠ orderId)
    (hnop : ∀ p ∈ db.paymentOperations, p.orderId ≠ orderId) (e : Uuid) (ev : PaymentRequested)
    (msgId : Uuid) : ResultsExact (db.applyRequest e ev msgId orderId) := by
  intro m hm res hres
  have hex : (∃ p ∈ (db.applyRequest e ev msgId orderId).paymentOperations, p.orderId.text = res.orderId) ↔
      (∃ p ∈ db.paymentOperations, p.orderId.text = res.orderId) ∨
        (db.canDeduct orderId ev.userId ev.amount = true ∧ orderId.text = res.orderId) := by
    simp only [Payments.mem_applyRequest_paymentOperations, or_and_right, exists_or, and_assoc,
      exists_and_left, exists_eq_left]
  rw [hex]
  simp only [Payments.applyRequest_outbox, Outbox.messages_insertOutbox, List.mem_append,
    List.mem_singleton] at hm
  rcases hm with hm | rfl
  · obtain ⟨res', hres', hk⟩ := hp.results_decode m hm
    rw [hres, Payload.paymentResult.injEq] at hres'
    subst hres'
    have hne : res.orderId ≠ orderId.text := hk ▸ hp.key_ne hfresh m hm
    simp only [hne.symm, and_false, or_false]
    exact h m hm res hres
  · cases hres
    have hno : ¬∃ p ∈ db.paymentOperations, p.orderId.text = orderId.text :=
      fun ⟨p, hp', h⟩ => hnop p hp' (Uuid.text_injective h)
    simp only [Payments.resultFor_status_eq_success, Payments.resultFor_orderId, hno, false_or, and_true]

section Request

variable {s : State} (hi : SettlementInv s) (ho : Orders.OrdersInv s.orders.db)
  {m : KafkaMessage} (hm : m ∈ s.requested) {ev : PaymentRequested} {msgId orderId : Uuid}
  (hv : Payments.validRequest? m = some (ev, msgId, orderId)) (hs : s.payments.db.seen msgId = false)
include hi ho hm hv hs

/-- **The first delivery of a request finds its order unapplied**: no inbox row
of the order exists, since the only request for it is the record delivered. -/
theorem SettlementInv.fresh : ∀ row ∈ s.payments.db.inbox, row.orderId ≠ orderId := by
  intro row hrow hro
  obtain ⟨m', hm', ev', hv'⟩ := hi.inbox_requested row hrow
  have hm0 := hi.requested_sub m hm
  have hk := ((request_of_mem ho hm' hv').1.trans (congrArg Uuid.text hro)).trans (request_of_mem ho hm0 hv).1.symm
  obtain rfl := List.inj_on_of_nodup_map ho.outbox_keys_nodup hm' hm0 hk
  rw [hv, Option.some.injEq, Prod.mk.injEq, Prod.mk.injEq] at hv'
  exact Payments.seen_eq_false_iff.1 hs (List.mem_map.2 ⟨row, hrow, hv'.2.1.symm⟩)

theorem SettlementInv.no_operation : ∀ p ∈ s.payments.db.paymentOperations, p.orderId ≠ orderId :=
  fun p hp h =>
    let ⟨row, hrow, hro⟩ := hi.ops_inbox p hp
    hi.fresh ho hm hv hs row hrow (hro.trans h)

/-- **The first delivery of a request keeps the invariant.** -/
theorem SettlementInv.applyRequest (hp : Payments.InboxInv s.payments.db) (e : Uuid) {st' : Payments.State}
    (hdb : st'.db = s.payments.db.applyRequest e ev msgId orderId) :
    SettlementInv { s with payments := st' } := by
  obtain ⟨-, r, hr, hro, hru, hra⟩ := request_of_mem ho (hi.requested_sub m hm) hv
  have hinbox : st'.db.inbox = s.payments.db.inbox ++ [⟨msgId, orderId⟩] := by rw [hdb]; rfl
  have hops : ∀ p, p ∈ st'.db.paymentOperations ↔ p ∈ s.payments.db.paymentOperations ∨
      (s.payments.db.canDeduct orderId ev.userId ev.amount = true ∧ p = ⟨orderId, ev.userId, ev.amount⟩) :=
    fun _ => hdb ▸ Payments.mem_applyRequest_paymentOperations _ _ _ _ _
  have hnodup : (st'.db.inbox.map (·.orderId)).Nodup := by
    rw [hinbox, List.map_append, List.map_singleton]
    exact List.nodup_append.2 ⟨hi.inbox_orders_nodup, List.nodup_singleton _,
      List.disjoint_singleton.2 (by simpa using hi.fresh ho hm hv hs)⟩
  refine ⟨hi.requested_sub, fun m' h => by rw [hdb]; simp [hi.results_sub m' h],
    fun row hrow => ?_, hnodup, fun p hp' => ?_, fun p hp' => ?_, hdb ▸ hi.result_status.applyRequest hp
      (hi.fresh ho hm hv hs) (hi.no_operation ho hm hv hs) e ev msgId, hi.status_result⟩
  · rw [hinbox, List.mem_append, List.mem_singleton] at hrow
    rcases hrow with h | rfl
    · exact hi.inbox_requested row h
    · exact ⟨m, hi.requested_sub m hm, ev, hv⟩
  · rw [hinbox]
    rcases (hops p).1 hp' with h | ⟨-, rfl⟩
    · obtain ⟨row, hrow, hro⟩ := hi.ops_inbox p h
      exact ⟨row, List.mem_append_left _ hrow, hro⟩
    · exact ⟨_, List.mem_append_right _ (List.mem_singleton_self _), rfl⟩
  · rcases (hops p).1 hp' with h | ⟨-, rfl⟩
    · exact hi.ops_order p h
    · exact ⟨r, hr, hro, hru, hra⟩

end Request

/-- **An Orders step that is a settlement move keeps the invariant.** -/
theorem SettlementInv.ordersMove {s : State} (hi : SettlementInv s) {st' : Orders.State}
    {written : List KafkaMessage} (hm : OrdersMove s.results s.orders.db st'.db)
    (hw : ∀ m ∈ written, m ∈ s.orders.db.outbox.messages) :
    SettlementInv { s with orders := st', requested := s.requested ++ written } := by
  have hsub : ∀ m ∈ s.orders.db.outbox.messages, m ∈ st'.db.outbox.messages :=
    fun _ h => hm.outbox.subset h
  refine ⟨fun m h => hsub m ((List.mem_append.1 h).elim (hi.requested_sub m) (hw m)), hi.results_sub,
    fun row hrow => ?_, hi.inbox_orders_nodup, hi.ops_inbox, fun p hp => ?_, hi.result_status,
    fun r hr hn => ?_⟩
  · obtain ⟨m, hm', ev, hv⟩ := hi.inbox_requested row hrow
    exact ⟨m, hsub m hm', ev, hv⟩
  · obtain ⟨r, hr, h1, h2, h3⟩ := hi.ops_order p hp
    obtain ⟨r', hr', h1', h2', h3'⟩ := hm.keeps r hr
    exact ⟨r', hr', h1'.trans h1, h2'.trans h2, h3'.trans h3⟩
  · exact (hm.settles r hr hn).elim (fun h => hi.status_result r h hn) id

/-- **A Payments step that leaves the event tables keeps the invariant.** -/
theorem SettlementInv.paymentsQuiet {s : State} (hi : SettlementInv s) {st' : Payments.State}
    {written : List KafkaMessage} (hin : st'.db.inbox = s.payments.db.inbox)
    (hops : st'.db.paymentOperations = s.payments.db.paymentOperations)
    (hout : st'.db.outbox.messages = s.payments.db.outbox.messages)
    (hw : ∀ m ∈ written, m ∈ s.payments.db.outbox.messages) :
    SettlementInv { s with payments := st', results := s.results ++ written } := by
  refine ⟨hi.requested_sub, fun m h => hout ▸ (List.mem_append.1 h).elim (hi.results_sub m) (hw m),
    ?_, ?_, ?_, ?_, ?_, fun r hr hn => (hi.status_result r hr hn).mono fun _ h => List.mem_append_left _ h⟩
  · rw [hin]; exact hi.inbox_requested
  · rw [hin]; exact hi.inbox_orders_nodup
  · rw [hin, hops]; exact hi.ops_inbox
  · rw [hops]; exact hi.ops_order
  · show ResultsExact st'.db
    unfold ResultsExact
    rw [hout, hops]
    exact hi.result_status

/-- **Every pipeline step keeps the invariant**, given the invariants each
service keeps on its own. -/
theorem settlementInv_step {s : State} (hi : SettlementInv s) (ho : Orders.OrdersInv s.orders.db)
    (hp : Payments.InboxInv s.payments.db) (hrv : Payments.ResultsValid s.payments.db) (op : Op) :
    SettlementInv (step s op) := by
  cases op with
  | orders op =>
    dsimp only [step]
    split
    · exact hi.ordersMove (ordersMove_step _ op ‹_› fun m hm => (hrv m (hi.results_sub m hm)).2)
        fun _ h => Orders.mem_written h
    · exact hi
  | payments op =>
    dsimp only [step]
    split
    · rename_i hg
      rcases Payments.step_events s.payments op with ⟨h1, h2, h3⟩ |
          ⟨m, e, f, ev, msgId, orderId, rfl, hv, hs, hdb⟩
      · exact hi.paymentsQuiet h1 h2 h3 fun _ h => Payments.mem_written h
      · have hw : (Payments.step s.payments (.handleMessage m e f)).2.written = [] := rfl
        rw [hw, List.append_nil]
        exact hi.applyRequest ho (onTopic_iff.1 hg m rfl) hv hs hp e hdb
    · exact hi

theorem Reachable.settlementInv {s : State} (h : Reachable s) : SettlementInv s := by
  induction h with
  | init => exact SettlementInv.init _ _
  | step op hr ih => exact settlementInv_step ih hr.orders.ordersInv hr.payments.inboxInv hr.payments.resultsValid op

/-! ## Settlement -/

/-- The one element of `l` with `f`-value `f a`, when `f` separates `l`. -/
theorem filter_eq_singleton_of_nodup_map {α β : Type} [DecidableEq β] {f : α → β} :
    ∀ {l : List α}, (l.map f).Nodup → ∀ {a : α}, a ∈ l → l.filter (fun b => f b = f a) = [a]
  | [], _, _, h => by cases h
  | b :: l, hnd, a, h => by
      rw [List.map_cons, List.nodup_cons] at hnd
      rcases List.mem_cons.1 h with rfl | h
      · have hl : l.filter (fun c => f c = f a) = [] :=
          List.filter_eq_nil_iff.2 fun c hc hfc => hnd.1 (of_decide_eq_true hfc ▸ List.mem_map_of_mem f hc)
        simp [hl]
      · have hne : f b ≠ f a := fun e => hnd.1 (e ▸ List.mem_map_of_mem f h)
        simp [hne, filter_eq_singleton_of_nodup_map hnd.2 h]

theorem length_filter_le_one_of_nodup_map {α β : Type} [DecidableEq β] {f : α → β} {l : List α}
    (h : (l.map f).Nodup) (b : β) : (l.filter (fun a => f a = b)).length ≤ 1 := by
  by_cases hb : ∃ a ∈ l, f a = b
  · obtain ⟨a, ha, rfl⟩ := hb
    rw [filter_eq_singleton_of_nodup_map h ha]
    rfl
  · rw [List.filter_eq_nil_iff.2 (by simpa using hb)]
    exact Nat.zero_le _

theorem eq_of_mem_of_length_le_one {α : Type} :
    ∀ {l : List α}, l.length ≤ 1 → ∀ {a b : α}, a ∈ l → b ∈ l → a = b
  | [], _, _, _, ha, _ => by cases ha
  | [_], _, _, _, ha, hb => (List.mem_singleton.1 ha).trans (List.mem_singleton.1 hb).symm
  | _ :: _ :: _, h, _, _, _, _ => by simp at h

section Settled

variable {s : State} (hi : SettlementInv s) {r : Orders.OrderRow} (hr : r ∈ s.orders.db.orders)
include hi hr

/-- An order out of `NEW` carries the status of a result that says `SUCCESS`
exactly when the order has an operation. -/
theorem SettlementInv.settled (hn : r.status ≠ .new) :
    ∃ res : PaymentResult, r.status = Orders.newStatus res.status ∧
      (res.status = .success ↔ ∃ p ∈ s.payments.db.paymentOperations, p.orderId = r.orderId) := by
  obtain ⟨m, hm, res, hv, hid, hst⟩ := hi.status_result r hr hn
  refine ⟨res, hst, (hi.result_status m (hi.results_sub m hm) res hv).trans ?_⟩
  simp only [hid, Uuid.text_inj]

theorem SettlementInv.debit_of_finished (ho : Orders.OrdersInv s.orders.db)
    (hp : Payments.InboxInv s.payments.db) (hf : r.status = .finished) :
    ∃ p, s.payments.db.paymentOperations.filter (·.orderId = r.orderId) = [p] ∧
      p.userId = r.userId ∧ p.amount = r.amount := by
  obtain ⟨res, hst, hiff⟩ := hi.settled hr (by rw [hf]; decide)
  obtain ⟨p, hp', hpo⟩ := hiff.1 (Orders.newStatus_eq_finished.1 (hst.symm.trans hf))
  obtain ⟨r', hr', ho', hu, ha⟩ := hi.ops_order p hp'
  obtain rfl := Orders.eq_of_mem_orders ho hr' hr (ho'.trans hpo)
  refine ⟨p, ?_, hu.symm, ha.symm⟩
  rw [ho']
  exact filter_eq_singleton_of_nodup_map hp.operations_nodup hp'

theorem SettlementInv.no_debit_of_cancelled (hc : r.status = .cancelled) :
    ∀ p ∈ s.payments.db.paymentOperations, p.orderId ≠ r.orderId := by
  obtain ⟨res, hst, hiff⟩ := hi.settled hr (by rw [hc]; decide)
  exact fun p hp hpo => Orders.newStatus_eq_cancelled.1 (hst.symm.trans hc) (hiff.2 ⟨p, hp, hpo⟩)

end Settled

/-- **Every order's final status matches its debit.**  In every state the
pipeline reaches from empty stores — any interleaving of both services' requests,
deliveries of any records of either topic in any order and any number of times,
publisher passes writing any record any number of times, and aborts at any round
trip — a `FINISHED` order has exactly one `payment_operations` row, and that row
carries the order's user and amount; a `CANCELLED` order has none; and every
`payment_operations` row belongs to an order. -/
theorem order_status_matches_debit (ordersCache paymentsCache : Bool) (ops : List Op) :
    let s := exec (State.init ordersCache paymentsCache) ops
    (∀ r ∈ s.orders.db.orders, r.status = .finished →
      ∃ p, s.payments.db.paymentOperations.filter (·.orderId = r.orderId) = [p] ∧
        p.userId = r.userId ∧ p.amount = r.amount) ∧
    (∀ r ∈ s.orders.db.orders, r.status = .cancelled →
      ∀ p ∈ s.payments.db.paymentOperations, p.orderId ≠ r.orderId) ∧
    ∀ p ∈ s.payments.db.paymentOperations, ∃ r ∈ s.orders.db.orders, r.orderId = p.orderId := by
  have hr := (Reachable.init ordersCache paymentsCache).exec ops
  have hi := hr.settlementInv
  exact ⟨fun r h hf => hi.debit_of_finished h hr.orders.ordersInv hr.payments.inboxInv hf,
    fun r h hc => hi.no_debit_of_cancelled h hc,
    fun p hp => let ⟨r, h, ho, _⟩ := hi.ops_order p hp; ⟨r, h, ho⟩⟩

/-- **Payments applies each order at most once.**  In every state the pipeline
reaches, the Payments inbox holds at most one row per order and the Payments
outbox at most one `PaymentResult` per order, so all the records of the result
topic for one order are copies of one result. -/
theorem one_result_per_order (ordersCache paymentsCache : Bool) (ops : List Op) (o : Uuid) :
    let s := exec (State.init ordersCache paymentsCache) ops
    (s.payments.db.inbox.filter (·.orderId = o)).length ≤ 1 ∧
    (s.payments.db.outbox.messages.filter (·.key = o.text)).length ≤ 1 ∧
    ∀ m ∈ s.results, ∀ m' ∈ s.results, m.key = o.text → m'.key = o.text → m = m' := by
  have hr := (Reachable.init ordersCache paymentsCache).exec ops
  have hi := hr.settlementInv
  have hin := length_filter_le_one_of_nodup_map hi.inbox_orders_nodup o
  have hout : (_ : List KafkaMessage).length ≤ 1 := hr.payments.inboxInv.results_count o ▸ hin
  refine ⟨hin, hout, fun m hm m' hm' hk hk' => eq_of_mem_of_length_le_one hout ?_ ?_⟩
  · exact List.mem_filter.2 ⟨hi.results_sub m hm, decide_eq_true hk⟩
  · exact List.mem_filter.2 ⟨hi.results_sub m' hm', decide_eq_true hk'⟩

/-- **In the pipeline no failure result is enqueued for a paid order.**  A record
of `payments.payment_requested.v1` is the one event its order's transaction
enqueued, so its first delivery finds no operation row for the order: the result
it enqueues says `FAIL_NOT_ENOUGH_FUNDS` only when the account held less than the
amount, and a result other than `SUCCESS` leaves the order with no operation
row. -/
theorem first_delivery_result_settled (s : State) (hs : Reachable s) {m : KafkaMessage} (hm : m ∈ s.requested)
    (f : Payments.Faults) (e : Uuid) {ev : PaymentRequested} {msgId orderId : Uuid}
    (hv : Payments.validRequest? m = some (ev, msgId, orderId))
    (hnew : (Payments.handleMessage f e m s.payments.db).1.inbox = s.payments.db.inbox ++ [⟨msgId, orderId⟩]) :
    ∃ res : PaymentResult, (Payments.handleMessage f e m s.payments.db).1.outbox.messages =
        s.payments.db.outbox.messages ++ [⟨orderId.text, .paymentResult res⟩] ∧
      (res.status = .failNotEnoughFunds → ∃ a, s.payments.db.account? ev.userId = some a ∧ a.balance < ev.amount) ∧
      (res.status ≠ .success →
        ∀ p ∈ (Payments.handleMessage f e m s.payments.db).1.paymentOperations, p.orderId ≠ orderId) := by
  obtain ⟨hseen, h⟩ := Payments.handleMessage_of_inbox hv hnew
  have hno := hs.settlementInv.no_operation hs.orders.ordersInv hm hv hseen
  rw [h]
  refine ⟨Payments.resultFor e orderId ev (s.payments.db.canDeduct orderId ev.userId ev.amount)
    (s.payments.db.hasAccount ev.userId), by simp, fun hf => ?_, fun hf p hp => ?_⟩
  · obtain ⟨hd, hx⟩ := (Payments.resultFor_status_eq_failNotEnoughFunds _ _ _ _ _).1 hf
    obtain ⟨a, ha⟩ := Option.isSome_iff_exists.1 hx
    exact ⟨a, ha, (Payments.Db.canDeduct_eq_false hd ha).resolve_right fun ⟨p, hp, hpo⟩ => hno p hp hpo⟩
  · rw [Ne, Payments.resultFor_status_eq_success, Bool.not_eq_true] at hf
    rw [Payments.applyRequest_paymentOperations, hf, if_neg Bool.false_ne_true] at hp
    exact hno p hp

theorem first_delivery_result_settled_after_publish :
    let o : Uuid := ⟨"00000000-0000-0000-0000-00000000000a", by decide⟩
    let e₁ : Uuid := ⟨"00000000-0000-0000-0000-000000000001", by decide⟩
    let r₁ : Uuid := ⟨"00000000-0000-0000-0000-000000000003", by decide⟩
    let s := exec (State.init false false)
      [.orders (.createOrder ⟨"u", 10, "d", ""⟩ Orders.Faults.none o 0 e₁),
        .orders (.publishOnce 50 ⟨false, false, fun _ => .ok, fun _ => false, false, 1⟩)]
    let m : KafkaMessage := ⟨o.text, .paymentRequested ⟨e₁.text, o.text, "u", 10⟩⟩
    Reachable s ∧ m ∈ s.requested ∧ Payments.validRequest? m = some (⟨e₁.text, o.text, "u", 10⟩, e₁, o) ∧
      (Payments.handleMessage Payments.Faults.none r₁ m s.payments.db).1.inbox = s.payments.db.inbox ++ [⟨e₁, o⟩] ∧
      ∃ res : PaymentResult, (Payments.handleMessage Payments.Faults.none r₁ m s.payments.db).1.outbox.messages =
          s.payments.db.outbox.messages ++ [⟨o.text, .paymentResult res⟩] ∧
        (res.status = .failNotEnoughFunds → ∃ a, s.payments.db.account? "u" = some a ∧ a.balance < 10) ∧
        (res.status ≠ .success →
          ∀ p ∈ (Payments.handleMessage Payments.Faults.none r₁ m s.payments.db).1.paymentOperations, p.orderId ≠ o) := by
  intro o e₁ r₁ s m
  have hs : Reachable s := (Reachable.init false false).exec _
  have hm : m ∈ s.requested := List.mem_singleton.2 rfl
  exact ⟨hs, hm, rfl, rfl,
    @first_delivery_result_settled s hs m hm Payments.Faults.none r₁ ⟨e₁.text, o.text, "u", 10⟩ e₁ o rfl rfl⟩

end Pipeline

end PaymentsService
