import PaymentsService.Orders.Db
import PaymentsService.Cache

/-!
# The Orders gRPC handlers

`CreateOrder` and `GetOrder` of the Orders service's `Handlers`, each a function
from the service's committed state to the state it leaves and the reply it sends.

## Main definitions

* `Call`, `Faults` — the round trips of the Orders service the environment can
  make fail, and a choice of which do.
* `Order`, `OrderCache` — `ordersv1.Order` (and `cache.Order`, which has the same
  fields) and `cache.OrderCache` over `RedisCache`.
* `createOrderTx`, `createOrder` — the transaction of `CreateOrder` and the whole
  handler; `enqueuePaymentRequested` is the part both paths of the transaction
  share after the order row is written.
* `getOrder`, `readOrder` — `GetOrder` and its database path.

`ListOrders`, a read with no cache, is `PaymentsService.Orders.ListOrders`.

## Design notes

The replay path of a keyed `CreateOrder` returns from the closure before the
event is built, so it commits with no outbox row; the two insert paths fall
through to the same event, marshal and `InsertOutbox`.
-/

namespace PaymentsService.Orders

/-- The round trips of the Orders service: the statements of `Queries`, the two
ends of a transaction, `proto.Marshal`, and the two Redis calls.  `commitAck` is
the reply to `COMMIT`: when it fails, the server has committed and the caller
sees a driver error. -/
inductive Call
  | begin
  | commit
  | commitAck
  | createOrder
  | createOrderIdempotent
  | getOrderByIdempotency
  | marshal
  | insertOutbox
  | getOrder
  | listOrders
  | insertInboxCheck
  | updateOrderStatusIfNew
  | cacheGet
  | cacheSet
deriving DecidableEq, Repr

/-- Which round trips of one request fail. -/
abbrev Faults := Call → Bool

/-- No round trip fails. -/
def Faults.none : Faults := fun _ => false

/-- `ordersv1.Order`; `cache.Order` has the same fields, with the status as the
column's text, which `mapOrderStatus` turns back into the same value. -/
structure Order where
  orderId : String
  userId : String
  amount : Int
  description : String
  status : OrderStatus
  createdAt : Nat
deriving DecidableEq, Repr

/-- The `Order` a handler builds from a row. -/
def OrderRow.toOrder (r : OrderRow) : Order :=
  ⟨r.orderId.text, r.userId, r.amount, r.description, r.status, r.createdAt⟩

/-- `*cache.OrderCache`. -/
abbrev OrderCache := RedisCache Order

/-- `key(orderID)` of the order cache. -/
def OrderCache.key (orderId : String) : String := "orders:order:" ++ orderId

theorem OrderCache.key_injective : Function.Injective OrderCache.key := by
  intro a b h
  exact String.ext (List.append_cancel_left (congrArg String.data h))

@[simp] theorem OrderCache.key_inj {a b : String} : OrderCache.key a = OrderCache.key b ↔ a = b :=
  OrderCache.key_injective.eq_iff

/-- `h.cache.Set(ctx, order)`, under `key(order.OrderID)`. -/
def OrderCache.setOrder (c : OrderCache) (o : Order) (fails : Bool) : OrderCache :=
  c.set (OrderCache.key o.orderId) o fails

/-- The Orders service's state: its database and its cache handle. -/
structure State where
  db : Db
  cache : OrderCache

/-- `ordersv1.CreateOrderRequest`. -/
structure CreateOrderRequest where
  userId : String
  amount : Int
  description : String
  idempotencyKey : String
deriving DecidableEq, Repr

/-- `ordersv1.GetOrderRequest`. -/
structure GetOrderRequest where
  userId : String
  orderId : String
deriving DecidableEq, Repr

/-! ## `CreateOrder` -/

/-- **The tail of `CreateOrder`'s transaction after an insert**: build the
`PaymentRequested` of the new row (`eventId` is the `uuid.NewString()`), marshal
it, and append it to the outbox under the order's id. -/
def enqueuePaymentRequested (f : Faults) (req : CreateOrderRequest) (eventId : Uuid) (row : OrderRow)
    (db : Db) : Except TxError (Order × Db) := do
  let ev : PaymentRequested := ⟨eventId.text, row.orderId.text, req.userId, req.amount⟩
  if f .marshal then throw (.status ⟨.internal, "failed to marshal event"⟩)
  let (_, db) ← roundTrip (f .insertOutbox) (Queries.insertOutbox row.orderId.text (.paymentRequested ev)) db
  return (row.toOrder, db)

/-- **The closure of `CreateOrder`'s transaction.**  `orderId` and `createdAt` are
the values the column defaults produce, `eventId` the event's `uuid.NewString()`. -/
def createOrderTx (f : Faults) (req : CreateOrderRequest) (orderId : Uuid) (createdAt : Nat)
    (eventId : Uuid) (db : Db) : Except TxError (Order × Db) :=
  if req.idempotencyKey = "" then do
    let (row, db) ← roundTrip (f .createOrder)
      (Queries.createOrder orderId createdAt req.userId req.amount req.description) db
    enqueuePaymentRequested f req eventId row db
  else
    match roundTrip (f .createOrderIdempotent) (Queries.createOrderIdempotent orderId createdAt
        req.userId req.amount req.description req.idempotencyKey) db with
    | .ok (row, db) => enqueuePaymentRequested f req eventId row db
    | .error (.db .noRows) => do
      let (existing, db) ← roundTrip (f .getOrderByIdempotency)
        (Queries.getOrderByIdempotency req.userId req.idempotencyKey) db
      if existing.amount ≠ req.amount ∨ existing.description ≠ req.description then
        throw (.status ⟨.failedPrecondition, "idempotency key reuse with different parameters"⟩)
      return (existing.toOrder, db)
    | .error e => throw e

/-- **`Handlers.CreateOrder`.** -/
def createOrder (f : Faults) (req : CreateOrderRequest) (orderId : Uuid) (createdAt : Nat)
    (eventId : Uuid) (st : State) : State × Except Status Order :=
  if req.userId = "" then (st, .error (invalidArgument "user_id is required")) else
  if req.amount ≤ 0 then (st, .error (invalidArgument "amount must be > 0")) else
  if req.description = "" then (st, .error (invalidArgument "description is required")) else
  let (r, db) := withTx (f .begin) (f .commit) (f .commitAck) (createOrderTx f req orderId createdAt eventId) st.db
  match r with
  | .ok o => (⟨db, st.cache⟩, .ok o)
  | .error e => (⟨db, st.cache⟩, .error ((e.status?).getD ⟨.internal, "failed to create order"⟩))

/-! ## What `CreateOrder` can do -/

/-- **The state a fresh `CreateOrder` commits**: the order row and, in the same
transaction, its `PaymentRequested` keyed by the order. -/
def Db.insertOrder (db : Db) (row : OrderRow) (eventId : Uuid) : Db :=
  { db with
    orders := db.orders ++ [row]
    outbox := (db.outbox.insertOutbox row.orderId.text
      (.paymentRequested ⟨eventId.text, row.orderId.text, row.userId, row.amount⟩)).2 }

/-- The row a `CreateOrder` inserts. -/
def CreateOrderRequest.row (req : CreateOrderRequest) (orderId : Uuid) (createdAt : Nat) : OrderRow :=
  ⟨orderId, req.userId, req.amount, req.description, .new, createdAt,
    if req.idempotencyKey = "" then none else some req.idempotencyKey⟩

theorem enqueuePaymentRequested_eq_ok {f : Faults} {req : CreateOrderRequest} {e : Uuid} {row : OrderRow}
    {db db' : Db} {o : Order} (hu : row.userId = req.userId) (ha : row.amount = req.amount)
    (h : enqueuePaymentRequested f req e row db = .ok (o, db')) :
    o = row.toOrder ∧ db' = { db with outbox := (db.outbox.insertOutbox row.orderId.text
      (.paymentRequested ⟨e.text, row.orderId.text, row.userId, row.amount⟩)).2 } := by
  unfold enqueuePaymentRequested at h
  cases hm : f .marshal <;> cases ho : f .insertOutbox <;> simp [hm, ho, Queries.insertOutbox] at h
  obtain ⟨rfl, rfl⟩ := h
  simp [hu, ha]

/-- **A `CreateOrder` transaction commits in two ways**: the first use of the key
(or no key), which inserts the row and its event; or a replay whose amount and
description match the row of the key, which changes nothing. -/
theorem createOrderTx_eq_ok {f : Faults} {req : CreateOrderRequest} {orderId : Uuid} {createdAt : Nat}
    {e : Uuid} {db db' : Db} {o : Order} (h : createOrderTx f req orderId createdAt e db = .ok (o, db')) :
    (db.order? orderId = none ∧ (req.idempotencyKey ≠ "" → db.byKey? req.userId req.idempotencyKey = none) ∧
      o = (req.row orderId createdAt).toOrder ∧ db' = db.insertOrder (req.row orderId createdAt) e) ∨
    (req.idempotencyKey ≠ "" ∧ ∃ r, db.byKey? req.userId req.idempotencyKey = some r ∧
      r.amount = req.amount ∧ r.description = req.description ∧ o = r.toOrder ∧ db' = db) := by
  unfold createOrderTx at h
  by_cases hk : req.idempotencyKey = ""
  · simp only [hk, if_true] at h
    cases hc : f .createOrder
    · cases hn : db.order? orderId with
      | some _ => simp [hc, hn, Queries.createOrder] at h
      | none =>
        simp only [hc, hn, Queries.createOrder, roundTrip_false, Option.isSome_none,
          Bool.false_eq_true, if_false, except_ok_bind] at h
        obtain ⟨rfl, rfl⟩ := enqueuePaymentRequested_eq_ok rfl rfl h
        exact .inl ⟨rfl, fun h' => absurd hk h', by simp [CreateOrderRequest.row, hk],
          by simp [CreateOrderRequest.row, Db.insertOrder, hk]⟩
    · simp [hc] at h
  · simp only [hk, if_false] at h
    cases hc : f .createOrderIdempotent
    · cases hb : db.byKey? req.userId req.idempotencyKey with
      | some r =>
        simp only [hc, hb, Queries.createOrderIdempotent, roundTrip_false, Option.isSome_some,
          if_true] at h
        cases hg : f .getOrderByIdempotency
        · simp only [hg, hb, Queries.getOrderByIdempotency, roundTrip_false, except_ok_bind] at h
          split at h
          · simp at h
          · rename_i hne
            simp only [except_pure, Except.ok.injEq, Prod.mk.injEq] at h
            obtain ⟨rfl, rfl⟩ := h
            exact .inr ⟨hk, r, rfl, by tauto, by tauto, rfl, rfl⟩
        · simp [hg] at h
      | none =>
        cases hn : db.order? orderId with
        | some _ => simp [hc, hb, hn, Queries.createOrderIdempotent] at h
        | none =>
          simp only [hc, hb, hn, Queries.createOrderIdempotent, roundTrip_false, Option.isSome_none,
            Bool.false_eq_true, if_false] at h
          obtain ⟨rfl, rfl⟩ := enqueuePaymentRequested_eq_ok rfl rfl h
          exact .inl ⟨rfl, fun _ => rfl, by simp [CreateOrderRequest.row, hk],
            by simp [CreateOrderRequest.row, Db.insertOrder, hk]⟩
    · simp [hc] at h

/-- **Everything `CreateOrder` can do.**  It fails with the state unchanged; or
passes validation and inserts the row and its event; or replays a key whose row
has the same amount and description, changing nothing.  A committed call answers
`Internal` instead of the order when the reply of its `COMMIT` is lost. -/
theorem createOrder_cases (f : Faults) (req : CreateOrderRequest) (orderId : Uuid) (createdAt : Nat)
    (e : Uuid) (st : State) :
    (∃ s, createOrder f req orderId createdAt e st = (st, .error s)) ∨
    (req.userId ≠ "" ∧ 0 < req.amount ∧ req.description ≠ "" ∧ st.db.order? orderId = none ∧
      (req.idempotencyKey ≠ "" → st.db.byKey? req.userId req.idempotencyKey = none) ∧
      createOrder f req orderId createdAt e st =
        (⟨st.db.insertOrder (req.row orderId createdAt) e, st.cache⟩,
          if f .commitAck then .error ⟨.internal, "failed to create order"⟩
          else .ok (req.row orderId createdAt).toOrder)) ∨
    (req.idempotencyKey ≠ "" ∧ ∃ r, st.db.byKey? req.userId req.idempotencyKey = some r ∧
      r.amount = req.amount ∧ r.description = req.description ∧
      createOrder f req orderId createdAt e st =
        (st, if f .commitAck then .error ⟨.internal, "failed to create order"⟩ else .ok r.toOrder)) := by
  unfold createOrder
  by_cases hu : req.userId = ""
  · simp [hu]
  by_cases hp : req.amount ≤ 0
  · simp [hu, hp]
  by_cases hd : req.description = ""
  · simp [hu, hp, hd]
  simp only [hu, hp, hd, if_false]
  rcases withTx_cases (f .begin) (f .commit) (f .commitAck) (createOrderTx f req orderId createdAt e) st.db with
    ⟨err, h, -⟩ | ⟨o, db', -, -, htx, h⟩
  · exact .inl ⟨_, by rw [h]⟩
  · rw [h]
    rcases createOrderTx_eq_ok htx with ⟨hn, hb, rfl, rfl⟩ | ⟨hk, r, hr, ha, hdr, rfl, rfl⟩
    · exact .inr (.inl ⟨hu, by omega, hd, hn, hb, by cases f .commitAck <;> rfl⟩)
    · exact .inr (.inr ⟨hk, r, hr, ha, hdr, by cases f .commitAck <;> rfl⟩)

/-- **The errors a `CreateOrder` transaction throws**: the key reuse and the
failed marshal; every other error is a database error. -/
theorem enqueuePaymentRequested_eq_error {f : Faults} {req : CreateOrderRequest} {e : Uuid} {row : OrderRow}
    {db : Db} {err : TxError} (h : enqueuePaymentRequested f req e row db = .error err) :
    err = .status ⟨.internal, "failed to marshal event"⟩ ∨ ∃ d, err = .db d := by
  unfold enqueuePaymentRequested at h
  cases hr : roundTrip (f .insertOutbox) (Queries.insertOutbox row.orderId.text
      (.paymentRequested ⟨e.text, row.orderId.text, req.userId, req.amount⟩)) db <;>
    cases hm : f .marshal <;>
    simp only [hm, hr, Bool.false_eq_true, if_false, if_true, except_pure, except_ok_bind, except_error_bind,
      except_throw, Except.error.injEq, reduceCtorEq] at h
  · exact .inr (roundTrip_eq_error (h ▸ hr))
  all_goals exact .inl h.symm

theorem createOrderTx_eq_error {f : Faults} {req : CreateOrderRequest} {orderId : Uuid} {createdAt : Nat}
    {e : Uuid} {db : Db} {err : TxError} (h : createOrderTx f req orderId createdAt e db = .error err) :
    err = .status ⟨.failedPrecondition, "idempotency key reuse with different parameters"⟩ ∨
    err = .status ⟨.internal, "failed to marshal event"⟩ ∨ ∃ d, err = .db d := by
  unfold createOrderTx at h
  split_ifs at h
  · cases hr : roundTrip (f .createOrder)
      (Queries.createOrder orderId createdAt req.userId req.amount req.description) db with
    | error => simp only [hr, except_error_bind, Except.error.injEq] at h; exact .inr (.inr (roundTrip_eq_error (h ▸ hr)))
    | ok p => simp only [hr, except_ok_bind] at h; exact .inr (enqueuePaymentRequested_eq_error h)
  · split at h
    · exact .inr (enqueuePaymentRequested_eq_error h)
    · cases hr : roundTrip (f .getOrderByIdempotency) (Queries.getOrderByIdempotency req.userId req.idempotencyKey) db with
      | error => simp only [hr, except_error_bind, Except.error.injEq] at h; exact .inr (.inr (roundTrip_eq_error (h ▸ hr)))
      | ok p =>
        simp only [hr, except_ok_bind] at h
        split at h
        · exact .inl (Except.error.inj h).symm
        · cases h
    · rename_i h'
      obtain ⟨d, rfl⟩ := roundTrip_eq_error h'
      exact .inr (.inr ⟨d, (Except.error.inj h).symm⟩)
/-- **The errors of a `CreateOrder` that passes validation.** -/
theorem createOrder_eq_error {f : Faults} {req : CreateOrderRequest} {orderId : Uuid} {createdAt : Nat}
    {e : Uuid} {st : State} {s : Status} (hu : req.userId ≠ "") (hpos : 0 < req.amount)
    (hd : req.description ≠ "") (h : (createOrder f req orderId createdAt e st).2 = .error s) :
    s = ⟨.failedPrecondition, "idempotency key reuse with different parameters"⟩ ∨
    s = ⟨.internal, "failed to marshal event"⟩ ∨ s = ⟨.internal, "failed to create order"⟩ := by
  unfold createOrder at h
  simp only [hu, hd, Int.not_le.2 hpos, if_false] at h
  rcases withTx_cases (f .begin) (f .commit) (f .commitAck) (createOrderTx f req orderId createdAt e) st.db with
    ⟨err, hw, herr⟩ | ⟨o, db', -, -, -, hw⟩ <;> rw [hw] at h
  · replace h : (err.status?).getD ⟨.internal, "failed to create order"⟩ = s := Except.error.inj h
    rcases herr with h' | rfl
    · rcases createOrderTx_eq_error h' with rfl | rfl | ⟨d, rfl⟩
      exacts [.inl h.symm, .inr (.inl h.symm), .inr (.inr h.symm)]
    · exact .inr (.inr h.symm)
  · cases hc : f .commitAck <;> simp only [hc, if_true, if_false, Except.error.injEq, reduceCtorEq] at h
    exact .inr (.inr (by rw [← h]; rfl))

/-! ## `GetOrder` -/

/-- The database path of `GetOrder`: read the row of `(oid, userId)`, answer with
it and write it to the cache; any error of the read is `NotFound`. -/
def readOrder (f : Faults) (oid : Uuid) (userId : String) (st : State) : State × Except Status Order :=
  match roundTrip (f .getOrder) (Queries.getOrder oid userId) st.db with
  | .ok (r, _) => (⟨st.db, st.cache.setOrder r.toOrder (f .cacheSet)⟩, .ok r.toOrder)
  | .error _ => (st, .error ⟨.notFound, "order not found"⟩)

/-- **`Handlers.GetOrder`**: a cache hit for the requesting user answers with the
cached order; anything else reads the database. -/
def getOrder (f : Faults) (req : GetOrderRequest) (st : State) : State × Except Status Order :=
  if req.userId = "" ∨ req.orderId = "" then
    (st, .error (invalidArgument "user_id and order_id are required")) else
  match uuidParse req.orderId with
  | none => (st, .error (invalidArgument "invalid order_id"))
  | some oid =>
    match st.cache.get (OrderCache.key req.orderId) (f .cacheGet) with
    | .ok (some cached) => if cached.userId = req.userId then (st, .ok cached) else readOrder f oid req.userId st
    | _ => readOrder f oid req.userId st

/-- **The errors of `GetOrder`**, which leave the service as it was. -/
theorem getOrder_eq_error {f : Faults} {req : GetOrderRequest} {st : State} {s : Status}
    (h : (getOrder f req st).2 = .error s) :
    (getOrder f req st).1 = st ∧ (s = invalidArgument "user_id and order_id are required" ∨
      s = invalidArgument "invalid order_id" ∨ s = ⟨.notFound, "order not found"⟩) := by
  have hread : ∀ oid, (readOrder f oid req.userId st).2 = .error s →
      (readOrder f oid req.userId st).1 = st ∧ s = ⟨.notFound, "order not found"⟩ := fun oid h => by
    unfold readOrder at h ⊢
    split at h
    · cases h
    · rename_i hr; exact ⟨by simp only [hr], (Except.error.inj h).symm⟩
  revert h
  unfold getOrder
  split_ifs
  · exact fun h => ⟨rfl, .inl (Except.error.inj h).symm⟩
  split
  · exact fun h => ⟨rfl, .inr (.inl (Except.error.inj h).symm)⟩
  split
  · split_ifs
    · intro h; cases h
    · exact fun h => (hread _ h).imp_right (.inr ∘ .inr)
  · exact fun h => (hread _ h).imp_right (.inr ∘ .inr)
end PaymentsService.Orders
