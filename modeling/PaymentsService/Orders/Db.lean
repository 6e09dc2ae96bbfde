import PaymentsService.Outbox

/-!
# The Orders store

The three tables of the Orders database and the sqlc queries of
`internal/app/app.go` the handlers and the `PaymentResult` consumer run against
them.

## Main definitions

* `OrderStatus`, `OrderRow`, `Db` — `orders`, `inbox`, `outbox`.
* `Queries.*` — one function per query, from the committed state to the row it
  returns and the state it leaves.  `CreateOrder`, `CreateOrderIdempotent`,
  `GetOrderByIdempotency`, `GetOrder` and `UpdateOrderStatusIfNew` are translated
  from their SQL; the SQL of the inbox and outbox queries is not among the
  sources, and each of them is modelled from the spec's description and says so.
* `Db.order?`, `Db.byKey?`, `Db.statusOf` — the views the invariants read.

## Design notes

**Column defaults are arguments.**  `order_id` and `created_at` are filled by the
column defaults (`gen_random_uuid()`, `now()`); the insert queries take the values
the defaults produced as arguments.  An `order_id` that is already taken
violates the primary key, which no `ON CONFLICT` clause catches.

**The status column.**  `status` is `text`, but the only texts any statement
writes are `'NEW'` (the two inserts) and `'FINISHED'`, `'CANCELLED'` (the
consumer), so the column ranges over `OrderStatus`, and the `default` branch of
`mapOrderStatus` is never taken.

**The key index.**  The migration is not among the sources; the spec gives the
index as `UNIQUE(user_id, idempotency_key)` over keyed rows, which is what
`CreateOrderIdempotent`'s `ON CONFLICT (user_id, idempotency_key) DO NOTHING`
relies on.  A row without a key conflicts with none.
-/

namespace PaymentsService.Orders

/-- The texts of `orders.status`. -/
inductive OrderStatus
  | new
  | finished
  | cancelled
deriving DecidableEq, Repr

/-- An `orders` row. -/
structure OrderRow where
  orderId : Uuid
  userId : String
  amount : Int
  description : String
  status : OrderStatus
  createdAt : Nat
  idempotencyKey : Option String
deriving DecidableEq, Repr

/-- The Orders database.  Its `inbox` holds only `message_id`. -/
structure Db where
  orders : List OrderRow
  inbox : List Uuid
  outbox : Outbox
deriving DecidableEq, Repr

namespace Db

/-- The database before any request: empty tables. -/
def empty : Db := ⟨[], [], Outbox.empty⟩

/-- The row of order `o`, if any. -/
def order? (db : Db) (o : Uuid) : Option OrderRow := db.orders.find? fun r => r.orderId = o

/-- The row `u` created under key `k`, if any. -/
def byKey? (db : Db) (u k : String) : Option OrderRow :=
  db.orders.find? fun r => r.userId = u ∧ r.idempotencyKey = some k

/-- The status of order `o`, if it exists. -/
def statusOf (db : Db) (o : Uuid) : Option OrderStatus := (db.order? o).map (·.status)

/-- Whether the inbox already holds event `msgId`. -/
def seen (db : Db) (msgId : Uuid) : Bool := db.inbox.contains msgId

/-- `UPDATE orders SET status = s WHERE order_id = o AND status = 'NEW'`. -/
def setStatusIfNew (db : Db) (o : Uuid) (s : OrderStatus) : Db :=
  { db with orders := db.orders.map fun r => if r.orderId = o ∧ r.status = .new then { r with status := s } else r }

end Db

/-! ## Queries -/

namespace Queries

/-- **`CreateOrder`**: `INSERT INTO orders (user_id, amount, description, status)
VALUES ($1, $2, $3, 'NEW') RETURNING …`, with `orderId` and `createdAt` the values
of the column defaults. -/
def createOrder (orderId : Uuid) (createdAt : Nat) (userId : String) (amount : Int)
    (description : String) (db : Db) : Except DbError (OrderRow × Db) :=
  if (db.order? orderId).isSome then .error .failed else
    let row : OrderRow := ⟨orderId, userId, amount, description, .new, createdAt, none⟩
    .ok (row, { db with orders := db.orders ++ [row] })

/-- **`CreateOrderIdempotent`**: the same insert carrying the key, `ON CONFLICT
(user_id, idempotency_key) DO NOTHING RETURNING …`; a conflict returns no row,
which `pgx` reports as `ErrNoRows`. -/
def createOrderIdempotent (orderId : Uuid) (createdAt : Nat) (userId : String) (amount : Int)
    (description idempotencyKey : String) (db : Db) : Except DbError (OrderRow × Db) :=
  if (db.byKey? userId idempotencyKey).isSome then .error .noRows else
  if (db.order? orderId).isSome then .error .failed else
    let row : OrderRow := ⟨orderId, userId, amount, description, .new, createdAt, some idempotencyKey⟩
    .ok (row, { db with orders := db.orders ++ [row] })

/-- `GetOrderByIdempotency`: `… WHERE user_id = $1 AND idempotency_key = $2`. -/
def getOrderByIdempotency (userId idempotencyKey : String) (db : Db) : Except DbError (OrderRow × Db) :=
  match db.byKey? userId idempotencyKey with
  | none => .error .noRows
  | some r => .ok (r, db)

/-- `GetOrder`: `… WHERE order_id = $1 AND user_id = $2`. -/
def getOrder (orderId : Uuid) (userId : String) (db : Db) : Except DbError (OrderRow × Db) :=
  match db.orders.find? (fun r => r.orderId = orderId ∧ r.userId = userId) with
  | none => .error .noRows
  | some r => .ok (r, db)

/-- `UpdateOrderStatusIfNew`: `UPDATE orders SET status = $2 WHERE order_id = $1
AND status = 'NEW'`, an `:exec` that matches no row without error. -/
def updateOrderStatusIfNew (orderId : Uuid) (status : OrderStatus) (db : Db) : Except DbError (Unit × Db) :=
  .ok ((), db.setStatusIfNew orderId status)

/-- Modelled from the spec (§4.5): `InsertInboxCheck` on the Orders inbox inserts
the event's `message_id` unless present and reports the number of rows inserted. -/
def insertInboxCheck (messageId : Uuid) (db : Db) : Except DbError (Nat × Db) :=
  if db.seen messageId then .ok (0, db) else .ok (1, { db with inbox := db.inbox ++ [messageId] })

/-- Modelled from the spec (§4.1): `InsertOutbox` on the Orders outbox appends a
row and returns its id. -/
def insertOutbox (kafkaKey : String) (payload : Payload) (db : Db) : Except DbError (Nat × Db) :=
  let (id, o) := db.outbox.insertOutbox kafkaKey payload
  .ok (id, { db with outbox := o })

end Queries

end PaymentsService.Orders
