import PaymentsService.Orders.Service
import Mathlib.Data.List.Nodup
import Mathlib.Data.List.Forall2

/-!
# Every order has its `PaymentRequested`

`CreateOrder` inserts the order row and its `PaymentRequested` outbox row in one
transaction, and nothing else writes either table's rows except the consumer's
status update and the publisher's bookkeeping, which keep the fields the event
carries.  So the outbox's messages and the order rows are two lists of the same
length, matched position by position.

## Main results

* `OrdersInv` — order ids and `(user, key)` pairs are unique, and the outbox's
  messages are the orders' `PaymentRequested`s in order (`RequestFor`); kept by
  every `DbStep` (`ordersInv_dbStep`).
* `countP_key_eq_one`, `decodes_of_key` — each order has exactly one outbox row
  under its id, and it decodes to the order's event.
* `orders_outbox_one_to_one` — the one-to-one match over every run, and what a
  failing `CreateOrder` leaves: nothing, or, its commit reply lost, the order and
  its event (`createOrder_error_after_commit`).
-/

namespace PaymentsService.Orders

/-! ## Frames -/

theorem Db.order?_eq_none_iff {db : Db} {o : Uuid} :
    db.order? o = none ↔ o ∉ db.orders.map (·.orderId) := by
  simp [Db.order?]

theorem Db.byKey?_eq_none_iff {db : Db} {u k : String} :
    db.byKey? u k = none ↔ (u, k) ∉ db.orders.filterMap fun r => r.idempotencyKey.map (r.userId, ·) := by
  simp only [Db.byKey?, List.find?_eq_none, List.mem_filterMap, Option.map_eq_some', Prod.mk.injEq,
    decide_eq_true_eq, not_exists, not_and]
  constructor
  · rintro h r hr k' hk rfl rfl
    exact h r hr rfl hk
  · rintro h r hr rfl hk
    exact h r hr k hk rfl rfl

/-- `UpdateOrderStatusIfNew` changes statuses only: any view of a row that does
not read its status is the same after it. -/
theorem map_setStatusIfNew {α : Type} (db : Db) (o : Uuid) (s : OrderStatus) (g : OrderRow → α)
    (hg : ∀ r t, g { r with status := t } = g r) :
    (db.setStatusIfNew o s).orders.map g = db.orders.map g := by
  simp only [Db.setStatusIfNew, List.map_map]
  congr 1
  funext r
  by_cases h : r.orderId = o ∧ r.status = .new
  · simp only [Function.comp, if_pos h, hg]
  · simp only [Function.comp, if_neg h]

theorem filterMap_setStatusIfNew {α : Type} (db : Db) (o : Uuid) (s : OrderStatus) (g : OrderRow → Option α)
    (hg : ∀ r t, g { r with status := t } = g r) :
    (db.setStatusIfNew o s).orders.filterMap g = db.orders.filterMap g := by
  simp only [Db.setStatusIfNew, List.filterMap_map]
  congr 1
  funext r
  by_cases h : r.orderId = o ∧ r.status = .new
  · simp only [Function.comp, if_pos h, hg]
  · simp only [Function.comp, if_neg h]

/-! ## The invariant -/

/-- The outbox message of order `r`: keyed by the order, carrying a
`PaymentRequested` with a fresh event id for the order's id, user and amount. -/
def RequestFor (m : KafkaMessage) (r : OrderRow) : Prop :=
  m.key = r.orderId.text ∧ ∃ e : Uuid, m.value = .paymentRequested ⟨e.text, r.orderId.text, r.userId, r.amount⟩

/-- **The shape of the Orders store.** -/
structure OrdersInv (db : Db) : Prop where
  ids_nodup : (db.orders.map (·.orderId)).Nodup
  keys_nodup : (db.orders.filterMap fun r => r.idempotencyKey.map (r.userId, ·)).Nodup
  requests : List.Forall₂ RequestFor db.outbox.messages db.orders

theorem OrdersInv.empty : OrdersInv Db.empty := ⟨List.nodup_nil, List.nodup_nil, .nil⟩

theorem OrdersInv.insertOrder {db : Db} (hi : OrdersInv db) {row : OrderRow} (e : Uuid)
    (hn : db.order? row.orderId = none)
    (hb : ∀ k, row.idempotencyKey = some k → db.byKey? row.userId k = none) :
    OrdersInv (db.insertOrder row e) := by
  refine ⟨?_, ?_, ?_⟩
  · simpa [Db.insertOrder, List.nodup_append, Db.order?_eq_none_iff.1 hn] using hi.ids_nodup
  · simp only [Db.insertOrder, List.filterMap_append, List.filterMap_cons, List.filterMap_nil]
    cases hk : row.idempotencyKey with
    | none => simpa using hi.keys_nodup
    | some k =>
      simpa [List.nodup_append, Db.byKey?_eq_none_iff.1 (hb k hk)] using hi.keys_nodup
  · simp only [Db.insertOrder, Outbox.messages_insertOutbox]
    exact List.rel_append hi.requests (.cons ⟨rfl, _, rfl⟩ .nil)

theorem OrdersInv.applyResult {db : Db} (hi : OrdersInv db) (msgId o : Uuid) (s : OrderStatus) :
    OrdersInv (db.applyResult msgId o s) := by
  refine ⟨?_, ?_, ?_⟩
  · simpa [Db.applyResult, map_setStatusIfNew] using hi.ids_nodup
  · simpa [Db.applyResult, filterMap_setStatusIfNew] using hi.keys_nodup
  · simp only [Db.applyResult, Db.setStatusIfNew, List.forall₂_map_right_iff]
    refine hi.requests.imp fun m r hr => ?_
    split <;> exact hr

theorem ordersInv_dbStep {db db' : Db} (hi : OrdersInv db) (h : DbStep db db') : OrdersInv db' := by
  cases h with
  | same => exact hi
  | create _ hn hb => exact hi.insertOrder _ hn hb
  | result => exact hi.applyResult _ _ _
  | publish hm => exact ⟨hi.ids_nodup, hi.keys_nodup, hm ▸ hi.requests⟩

theorem Reachable.ordersInv {st : State} (h : Reachable st) : OrdersInv st.db := by
  induction h with
  | init => exact OrdersInv.empty
  | step op _ ih => exact ordersInv_dbStep ih (step_dbStep _ op)

/-! ## One outbox row per order -/

theorem Forall₂.countP_eq {α β : Type} {R : α → β → Prop} {p : α → Bool} {q : β → Bool}
    (hpq : ∀ a b, R a b → p a = q b) :
    ∀ {l₁ : List α} {l₂ : List β}, List.Forall₂ R l₁ l₂ → l₁.countP p = l₂.countP q
  | _, _, .nil => rfl
  | _, _, .cons h hs => by simp [List.countP_cons, hpq _ _ h, Forall₂.countP_eq hpq hs]

theorem exists_of_mem_forall₂ {α β : Type} {R : α → β → Prop} :
    ∀ {l₁ : List α} {l₂ : List β}, List.Forall₂ R l₁ l₂ → ∀ {a}, a ∈ l₁ → ∃ b ∈ l₂, R a b
  | _, _, .nil, _, h => by cases h
  | _, _, .cons hab hs, _, h => by
      rcases List.mem_cons.1 h with rfl | h
      · exact ⟨_, List.mem_cons_self _ _, hab⟩
      · obtain ⟨b, hb, h⟩ := exists_of_mem_forall₂ hs h
        exact ⟨b, List.mem_cons_of_mem _ hb, h⟩

theorem eq_of_mem_orders {db : Db} (hi : OrdersInv db) {r r' : OrderRow} (hr : r ∈ db.orders)
    (hr' : r' ∈ db.orders) (h : r.orderId = r'.orderId) : r = r' :=
  List.inj_on_of_nodup_map hi.ids_nodup hr hr' h

/-- **Each order has exactly one outbox row under its id.** -/
theorem countP_key_eq_one {db : Db} (hi : OrdersInv db) {r : OrderRow} (hr : r ∈ db.orders) :
    db.outbox.messages.countP (·.key = r.orderId.text) = 1 := by
  rw [Forall₂.countP_eq (q := fun r' => r'.orderId = r.orderId) (fun m r' h => by simp [h.1]) hi.requests]
  have := List.count_eq_one_of_mem hi.ids_nodup (List.mem_map_of_mem (·.orderId) hr)
  rwa [List.count, List.countP_map] at this

theorem Forall₂.map_eq {α β γ : Type} {R : α → β → Prop} {f : α → γ} {g : β → γ}
    (hfg : ∀ a b, R a b → f a = g b) :
    ∀ {l₁ : List α} {l₂ : List β}, List.Forall₂ R l₁ l₂ → l₁.map f = l₂.map g
  | _, _, .nil => rfl
  | _, _, .cons h hs => by rw [List.map_cons, List.map_cons, hfg _ _ h, Forall₂.map_eq hfg hs]

/-- **No two outbox rows share a key.** -/
theorem OrdersInv.outbox_keys_nodup {db : Db} (hi : OrdersInv db) : (db.outbox.messages.map (·.key)).Nodup := by
  rw [Forall₂.map_eq (g := fun r => r.orderId.text) (fun _ _ h => h.1) hi.requests]
  simpa [List.map_map] using hi.ids_nodup.map Uuid.text_injective

/-- **Every event of the Orders outbox carries canonical identifiers.** -/
theorem OrdersInv.idsCanonical {db : Db} (hi : OrdersInv db) {m : KafkaMessage} (hm : m ∈ db.outbox.messages) :
    m.value.idsCanonical = true := by
  obtain ⟨r, -, -, e, hv⟩ := exists_of_mem_forall₂ hi.requests hm
  simp [hv, Payload.idsCanonical, e.canonical, r.orderId.canonical]

/-- **The outbox row under an order's id carries that order's event.** -/
theorem decodes_of_key {db : Db} (hi : OrdersInv db) {r : OrderRow} (hr : r ∈ db.orders)
    {m : KafkaMessage} (hm : m ∈ db.outbox.messages) (hk : m.key = r.orderId.text) :
    ∃ ev, m.value.unmarshalPaymentRequested = some ev ∧
      ev.orderId = r.orderId.text ∧ ev.userId = r.userId ∧ ev.amount = r.amount := by
  obtain ⟨r', hr', hk', e, hv⟩ := exists_of_mem_forall₂ hi.requests hm
  obtain rfl := eq_of_mem_orders hi hr hr' (Uuid.text_injective (hk.symm.trans hk'))
  exact ⟨_, by rw [hv]; rfl, rfl, rfl, rfl⟩

/-- **A `CreateOrder` that returns an error has changed nothing, unless its
`COMMIT` went through**: when the reply of `COMMIT` is lost the call answers
`Internal` with the order and its event committed. -/
theorem createOrder_error_state {f : Faults} {req : CreateOrderRequest} {o : Uuid} {t : Nat} {e : Uuid}
    {st : State} {s : Status} (h : (createOrder f req o t e st).2 = .error s) :
    (createOrder f req o t e st).1 = st ∨
      f .commitAck = true ∧ s = ⟨.internal, "failed to create order"⟩ ∧
        (createOrder f req o t e st).1 = ⟨st.db.insertOrder (req.row o t) e, st.cache⟩ := by
  rcases createOrder_cases f req o t e st with ⟨_, h'⟩ | ⟨-, -, -, -, -, h'⟩ | ⟨-, _, -, -, -, h'⟩ <;>
    rw [h'] at h ⊢
  · exact .inl rfl
  · cases hc : f .commitAck <;> simp only [hc, if_true, if_false, reduceCtorEq, Except.error.injEq] at h
    exact .inr ⟨rfl, h.symm, rfl⟩
  · exact .inl rfl

/-- **Order rows and `PaymentRequested` outbox rows correspond one to one.**  After
any run from an empty store — creates with and without key, replayed, failing at
any round trip, result deliveries, publisher passes — the outbox's messages are
the orders' events position by position, order ids are unique, every order has
exactly one outbox row under its id and that row decodes to a `PaymentRequested`
for the order's id, user and amount.  A `CreateOrder` that returns an error
changes neither table, except one whose `COMMIT` took effect and whose reply was
lost: it answers `Internal` with the order and its event committed. -/
theorem orders_outbox_one_to_one (cacheEnabled : Bool) (ops : List Op) :
    let st := exec (State.init cacheEnabled) ops
    List.Forall₂ RequestFor st.db.outbox.messages st.db.orders ∧
    (st.db.orders.map (·.orderId)).Nodup ∧
    (∀ r ∈ st.db.orders, st.db.outbox.messages.countP (·.key = r.orderId.text) = 1 ∧
      ∀ m ∈ st.db.outbox.messages, m.key = r.orderId.text →
        ∃ ev, m.value.unmarshalPaymentRequested = some ev ∧
          ev.orderId = r.orderId.text ∧ ev.userId = r.userId ∧ ev.amount = r.amount) ∧
    ∀ f req o t e s, (createOrder f req o t e st).2 = .error s →
      (createOrder f req o t e st).1 = st ∨
        f .commitAck = true ∧ s = ⟨.internal, "failed to create order"⟩ ∧
          (createOrder f req o t e st).1 = ⟨st.db.insertOrder (req.row o t) e, st.cache⟩ := by
  have hi := ((Reachable.init cacheEnabled).exec ops).ordersInv
  exact ⟨hi.requests, hi.ids_nodup, fun r hr => ⟨countP_key_eq_one hi hr, fun m hm hk => decodes_of_key hi hr hm hk⟩,
    fun _ _ _ _ _ _ => createOrder_error_state⟩

/-- **A `CreateOrder` can fail with its order committed.**  On the empty store, a
`CreateOrder` whose `COMMIT` reply is lost answers `Internal "failed to create
order"`, while its order row and its `PaymentRequested` stand. -/
theorem createOrder_error_after_commit :
    let o : Uuid := ⟨"00000000-0000-0000-0000-00000000000a", by decide⟩
    let e : Uuid := ⟨"00000000-0000-0000-0000-000000000001", by decide⟩
    let r := createOrder (fun c => c == .commitAck) ⟨"u", 10, "book", ""⟩ o 0 e (State.init false)
    r.2 = .error ⟨.internal, "failed to create order"⟩ ∧ r.1.db.orders.map (·.orderId) = [o] ∧
      r.1.db.outbox.messages.map (·.key) = [o.text] :=
  ⟨rfl, rfl, rfl⟩

end PaymentsService.Orders
