import PaymentsService.Orders.Consumer

/-!
# The Orders service as a transition system

Everything the Orders service does to its state is one of five steps: the two
RPCs, one delivery of a `PaymentResult` record to the consumer, one pass of the
outbox publisher, and the expiry of a cache entry.  `step` is deterministic; the
environment's choices — which request arrives, which record the consumer fetched,
which round trips fail, the values of the column defaults and of
`uuid.NewString` — are the arguments of the `Op`.

## Main definitions

* `Op`, `Reply`, `step`, `State.init`, `Reachable`, `exec`.
* `DbStep`, `step_dbStep` — the four things a step can do to the database.
-/

namespace PaymentsService.Orders

/-- One step of the Orders service. -/
inductive Op
  | createOrder (req : CreateOrderRequest) (f : Faults) (orderId : Uuid) (createdAt : Nat) (eventId : Uuid)
  | getOrder (req : GetOrderRequest) (f : Faults)
  | handleMessage (m : KafkaMessage) (f : Faults)
  | publishOnce (batch : Nat) (oc : PublishOutcomes)
  | expireOrder (orderId : String)

/-- What a step answers: the RPC reply, the handler's error for `Run`, the
records a publisher pass wrote to `payments.payment_requested.v1`. -/
inductive Reply
  | order (r : Except Status Order)
  | handled (r : Except TxError Unit)
  | published (written : List KafkaMessage)
  | expired

/-- **One step of the Orders service.** -/
def step (st : State) : Op → State × Reply
  | .createOrder req f o t e => let p := createOrder f req o t e st; (p.1, .order p.2)
  | .getOrder req f => let p := getOrder f req st; (p.1, .order p.2)
  | .handleMessage m f => let p := handleMessage f m st.db; (⟨p.1, st.cache⟩, .handled p.2)
  | .publishOnce batch oc =>
      let p := publishOnce batch oc st.db.outbox
      (⟨{ st.db with outbox := p.1 }, st.cache⟩, .published p.2)
  | .expireOrder o => (⟨st.db, st.cache.expire (OrderCache.key o)⟩, .expired)

/-- The service before any request: empty tables, and an empty Redis keyspace
when a cache address is configured. -/
def State.init (cacheEnabled : Bool) : State :=
  ⟨Db.empty, if cacheEnabled then some fun _ => none else none⟩

/-- The states the service can reach. -/
inductive Reachable : State → Prop
  | init (cacheEnabled : Bool) : Reachable (State.init cacheEnabled)
  | step {st : State} (op : Op) : Reachable st → Reachable (step st op).1

/-- The state after running `ops` in order. -/
def exec (st : State) : List Op → State
  | [] => st
  | op :: ops => exec (step st op).1 ops

@[simp] theorem exec_nil (st : State) : exec st [] = st := rfl

@[simp] theorem exec_cons (st : State) (op : Op) (ops : List Op) :
    exec st (op :: ops) = exec (step st op).1 ops := rfl

theorem Reachable.exec {st : State} (h : Reachable st) :
    ∀ ops, Reachable (PaymentsService.Orders.exec st ops)
  | [] => h
  | op :: ops => (h.step op).exec ops

@[simp] theorem readOrder_db (f : Faults) (oid : Uuid) (u : String) (st : State) :
    (readOrder f oid u st).1.db = st.db := by
  unfold readOrder; split <;> rfl

@[simp] theorem getOrder_db (f : Faults) (req : GetOrderRequest) (st : State) :
    (getOrder f req st).1.db = st.db := by
  unfold getOrder
  split
  · rfl
  · split
    · rfl
    · split
      · split <;> simp
      · simp

/-! ## What a step does to the database -/

/-- **What one step can do to the Orders database**: nothing; insert an order in
`NEW` under a free id (and a free key, if it has one) with its
`PaymentRequested`; apply the first delivery of a valid `PaymentResult`; or, for
a publisher pass, rewrite the outbox with the same keys and payloads. -/
inductive DbStep : Db → Db → Prop
  | same (db : Db) : DbStep db db
  | create {db : Db} {row : OrderRow} {e : Uuid} :
      row.status = .new → db.order? row.orderId = none →
      (∀ k, row.idempotencyKey = some k → db.byKey? row.userId k = none) →
      DbStep db (db.insertOrder row e)
  | result {db : Db} {msgId orderId : Uuid} {s : OrderStatus} :
      db.seen msgId = false → s ≠ .new → DbStep db (db.applyResult msgId orderId s)
  | publish {db : Db} {o : Outbox} : o.messages = db.outbox.messages → DbStep db { db with outbox := o }

theorem step_dbStep (st : State) (op : Op) : DbStep st.db (step st op).1.db := by
  cases op with
  | createOrder req f o t e =>
    rcases createOrder_cases f req o t e st with ⟨_, h⟩ | ⟨-, -, -, hn, hb, h⟩ | ⟨-, _, -, -, -, h⟩ <;>
      simp only [step, h]
    · exact .same _
    · refine .create rfl hn fun k hk => ?_
      simp only [CreateOrderRequest.row] at hk
      split at hk
      · cases hk
      · cases hk; exact hb ‹_›
    · exact .same _
  | getOrder req f => simpa [step] using .same _
  | handleMessage m f =>
    rcases handleMessage_cases f m st.db with h | ⟨ev, msgId, orderId, -, hs, h⟩ <;> simp only [step, h]
    · exact .same _
    · exact .result hs (newStatus_ne_new _)
  | publishOnce batch oc => exact .publish (publishOnce_messages batch oc _)
  | expireOrder o => exact .same _

end PaymentsService.Orders
