import PaymentsService.Outbox
import Mathlib.Algebra.BigOperators.Group.List
import Mathlib.Algebra.Ring.Int.Defs

/-!
# The Payments store

The five tables of the Payments database and the sqlc queries the gRPC handlers
and the `PaymentRequested` consumer run against them.

## Main definitions

* `Db` — `accounts`, `payment_operations`, `topup_idempotency`, `inbox`, `outbox`.
* `Queries.*` — one function per query, from the committed state to the row it
  returns and the state it leaves.  The `topup_idempotency` queries are
  translated from `db/queries/topup_idempotency.sql`; the SQL of the others is
  not among the sources, and each of them is modelled from the spec's
  description (§4.3, §4.4, §6) and says so.
* `Db.account?`, `Db.opSum`, `Db.topupSum` — the views the invariants read.

## Design notes

Tables are lists in insertion order, as a sequential scan returns them.  A
primary key is not built into the representation: the insert queries enforce it
(`ON CONFLICT DO NOTHING`, or a failing insert), so that uniqueness is a
property of the queries, proved in `PaymentsService.Payments.Ledger` and
`PaymentsService.Payments.Inbox`.

Amounts and balances are `bigint`; the one query that can leave that range,
`TopUp`'s `balance + $2`, fails with `bigint out of range` instead (`bigintMax`).
-/

namespace PaymentsService.Payments

/-- The largest `bigint`. -/
def bigintMax : Int := 2 ^ 63 - 1

/-- An `accounts` row. -/
structure Account where
  userId : String
  balance : Int
deriving DecidableEq, Repr

/-- A `payment_operations` row: the order an amount was debited for. -/
structure PaymentOperation where
  orderId : Uuid
  userId : String
  amount : Int
deriving DecidableEq, Repr

/-- A `topup_idempotency` row. -/
structure TopupIdempotency where
  userId : String
  idempotencyKey : String
  amount : Int
  balanceAfter : Int
deriving DecidableEq, Repr

/-- An `inbox` row of the Payments store: the event and the order it was for. -/
structure InboxRow where
  messageId : Uuid
  orderId : Uuid
deriving DecidableEq, Repr

/-- The Payments database. -/
structure Db where
  accounts : List Account
  paymentOperations : List PaymentOperation
  topupIdempotency : List TopupIdempotency
  inbox : List InboxRow
  outbox : Outbox
deriving DecidableEq, Repr

namespace Db

/-- The database before any request: empty tables. -/
def empty : Db := ⟨[], [], [], [], Outbox.empty⟩

/-- The account of `u`, if any. -/
def account? (db : Db) (u : String) : Option Account :=
  db.accounts.find? fun a => a.userId = u

/-- Whether `u` has an account. -/
def hasAccount (db : Db) (u : String) : Bool := (db.account? u).isSome

/-- Add `d` to the balance of `u`'s account. -/
def addBalance (db : Db) (u : String) (d : Int) : Db :=
  { db with accounts := db.accounts.map fun a =>
      if a.userId = u then { a with balance := a.balance + d } else a }

/-- Open an account for `u` with balance `0`. -/
def insertAccount (db : Db) (u : String) : Db := { db with accounts := db.accounts ++ [⟨u, 0⟩] }

/-- The state a first keyed top-up commits: the credit, and the idempotency row
holding the balance it produced. -/
def recordTopup (db : Db) (u k : String) (amount balanceAfter : Int) : Db :=
  { db.addBalance u amount with
    topupIdempotency := db.topupIdempotency ++ [⟨u, k, amount, balanceAfter⟩] }

/-- The balance of `u`'s account, `0` when there is none. -/
def balanceOf (db : Db) (u : String) : Int := ((db.account? u).map (·.balance)).getD 0

/-- The `payment_operations` row of order `o`, if any. -/
def operation? (db : Db) (o : Uuid) : Option PaymentOperation :=
  db.paymentOperations.find? fun p => p.orderId = o

/-- Whether `TryDeductOnce` debits: the order has no operation row yet and the
account holds at least `amount`. -/
def canDeduct (db : Db) (orderId : Uuid) (u : String) (amount : Int) : Bool :=
  match db.operation? orderId, db.account? u with
  | none, some a => decide (amount ≤ a.balance)
  | _, _ => false

/-- The debit `TryDeductOnce` makes: the balance and the operation row. -/
def deduct (db : Db) (orderId : Uuid) (u : String) (amount : Int) : Db :=
  { db.addBalance u (-amount) with
    paymentOperations := db.paymentOperations ++ [⟨orderId, u, amount⟩] }

/-- The total of the `payment_operations` rows of `u`. -/
def opSum (db : Db) (u : String) : Int :=
  ((db.paymentOperations.filter fun p => p.userId = u).map (·.amount)).sum

/-- The total of the `topup_idempotency` rows of `u`. -/
def topupSum (db : Db) (u : String) : Int :=
  ((db.topupIdempotency.filter fun t => t.userId = u).map (·.amount)).sum

/-- The `topup_idempotency` row of `(u, k)`, if any. -/
def topup? (db : Db) (u k : String) : Option TopupIdempotency :=
  db.topupIdempotency.find? fun t => t.userId = u ∧ t.idempotencyKey = k

/-! ### Frame lemmas -/

@[simp] theorem account?_mk (db : Db) (p t i o) (u : String) :
    (Db.mk db.accounts p t i o).account? u = db.account? u := rfl

@[simp] theorem topup?_mk (db : Db) (a p i o) (u k : String) :
    (Db.mk a p db.topupIdempotency i o).topup? u k = db.topup? u k := rfl

@[simp] theorem operation?_mk (db : Db) (a t i o) (x : Uuid) :
    (Db.mk a db.paymentOperations t i o).operation? x = db.operation? x := rfl

@[simp] theorem opSum_mk (db : Db) (a t i o) (u : String) :
    (Db.mk a db.paymentOperations t i o).opSum u = db.opSum u := rfl

@[simp] theorem topupSum_mk (db : Db) (a p i o) (u : String) :
    (Db.mk a p db.topupIdempotency i o).topupSum u = db.topupSum u := rfl

@[simp] theorem balanceOf_mk (db : Db) (p t i o) (u : String) :
    (Db.mk db.accounts p t i o).balanceOf u = db.balanceOf u := rfl

@[simp] theorem canDeduct_mk (db : Db) (t i o) (x : Uuid) (u : String) (amount : Int) :
    (Db.mk db.accounts db.paymentOperations t i o).canDeduct x u amount =
      db.canDeduct x u amount := rfl

@[simp] theorem hasAccount_mk (db : Db) (p t i o) (u : String) :
    (Db.mk db.accounts p t i o).hasAccount u = db.hasAccount u := rfl

@[simp] theorem addBalance_topupIdempotency (db : Db) (u : String) (d : Int) :
    (db.addBalance u d).topupIdempotency = db.topupIdempotency := rfl

@[simp] theorem addBalance_paymentOperations (db : Db) (u : String) (d : Int) :
    (db.addBalance u d).paymentOperations = db.paymentOperations := rfl

@[simp] theorem addBalance_inbox (db : Db) (u : String) (d : Int) :
    (db.addBalance u d).inbox = db.inbox := rfl

@[simp] theorem addBalance_outbox (db : Db) (u : String) (d : Int) :
    (db.addBalance u d).outbox = db.outbox := rfl

/-! ### Lookups after an update -/

theorem userId_of_account? {db : Db} {u : String} {a : Account} (h : db.account? u = some a) :
    a.userId = u := by
  simpa using List.find?_some h

theorem account?_addBalance (db : Db) (u : String) (d : Int) (v : String) :
    (db.addBalance u d).account? v =
      (db.account? v).map fun a => if a.userId = u then { a with balance := a.balance + d } else a := by
  simp only [account?, addBalance, List.find?_map]
  congr 2
  funext a
  by_cases h : a.userId = u <;> simp [h]

theorem balanceOf_addBalance (db : Db) (u : String) (d : Int) (v : String) :
    (db.addBalance u d).balanceOf v = db.balanceOf v + if v = u ∧ db.hasAccount u then d else 0 := by
  unfold balanceOf hasAccount
  rw [account?_addBalance]
  cases h : db.account? v with
  | none =>
      by_cases hv : v = u
      · subst hv; simp [h]
      · simp [hv]
  | some a =>
      have := userId_of_account? h
      by_cases hv : v = u
      · subst hv; simp [h, this]
      · simp [hv, this]

theorem account?_insertAccount {db : Db} {u : String} (h : db.account? u = none) (v : String) :
    (db.insertAccount u).account? v = if v = u then some ⟨u, 0⟩ else db.account? v := by
  simp only [account?, insertAccount, List.find?_append]
  by_cases hv : v = u
  · subst hv; simp_all [account?]
  · simp [hv, Ne.symm hv]

theorem balanceOf_insertAccount {db : Db} {u : String} (h : db.account? u = none) (v : String) :
    (db.insertAccount u).balanceOf v = db.balanceOf v := by
  unfold balanceOf
  rw [account?_insertAccount h]
  by_cases hv : v = u
  · subst hv; simp [h]
  · simp [hv]

theorem topup?_insert_of_none {db : Db} {u k : String} (h : db.topup? u k = none) (a p i o)
    (amount b : Int) :
    (Db.mk a p (db.topupIdempotency ++ [⟨u, k, amount, b⟩]) i o).topup? u k =
      some ⟨u, k, amount, b⟩ := by
  simp only [topup?, List.find?_append]
  rw [show db.topupIdempotency.find? _ = none from h]
  simp

theorem canDeduct_eq_true {db : Db} {o : Uuid} {u : String} {amount : Int} :
    db.canDeduct o u amount = true ↔
      db.operation? o = none ∧ ∃ a, db.account? u = some a ∧ amount ≤ a.balance := by
  unfold canDeduct
  cases db.operation? o <;> cases db.account? u <;> simp

/-- **`TryDeductOnce` debits nothing from an existing account** only when it holds
less than `amount` or the order already has an operation row. -/
theorem canDeduct_eq_false {db : Db} {o : Uuid} {u : String} {amount : Int} (h : db.canDeduct o u amount = false)
    {a : Account} (ha : db.account? u = some a) :
    a.balance < amount ∨ ∃ p ∈ db.paymentOperations, p.orderId = o := by
  unfold canDeduct at h
  cases hop : db.operation? o with
  | none =>
    rw [hop, ha] at h
    exact .inl (by simpa using h)
  | some p => exact .inr ⟨p, List.mem_of_find?_eq_some hop, by simpa using List.find?_some hop⟩

theorem hasAccount_of_canDeduct {db : Db} {o : Uuid} {u : String} {amount : Int}
    (h : db.canDeduct o u amount = true) : db.hasAccount u = true := by
  obtain ⟨-, a, ha, -⟩ := canDeduct_eq_true.1 h
  simp [hasAccount, ha]

theorem opSum_append (db : Db) (a t i o) (p : PaymentOperation) (v : String) :
    (Db.mk a (db.paymentOperations ++ [p]) t i o).opSum v =
      db.opSum v + if p.userId = v then p.amount else 0 := by
  by_cases h : p.userId = v <;> simp [opSum, List.filter_append, h]

theorem topupSum_append (db : Db) (a p i o) (t : TopupIdempotency) (v : String) :
    (Db.mk a p (db.topupIdempotency ++ [t]) i o).topupSum v =
      db.topupSum v + if t.userId = v then t.amount else 0 := by
  by_cases h : t.userId = v <;> simp [topupSum, List.filter_append, h]

/-- Writing `balance_after` on `(u, k)` leaves a table without such a row as it was. -/
theorem map_balanceAfter_of_none {db : Db} {u k : String} (h : db.topup? u k = none) (b : Int) :
    db.topupIdempotency.map (fun t =>
        if t.userId = u ∧ t.idempotencyKey = k then { t with balanceAfter := b } else t) =
      db.topupIdempotency := by
  refine (List.map_congr_left fun t ht => ?_).trans (List.map_id _)
  simp only [topup?, List.find?_eq_none, decide_eq_true_eq] at h
  simp [h t ht]

end Db

/-! ## Queries -/

namespace Queries

/-- Modelled from the spec: `CreateAccount`, "insert account; if one already
exists for the user, return `already_exists`" — the handler reads a conflict as
`pgx.ErrNoRows`, so the insert is `ON CONFLICT DO NOTHING RETURNING`. -/
def createAccount (userId : String) (db : Db) : Except DbError (Account × Db) :=
  match db.account? userId with
  | some _ => .error .noRows
  | none => .ok (⟨userId, 0⟩, { db with accounts := db.accounts ++ [⟨userId, 0⟩] })

/-- Modelled from the spec: `CreateAccountIdempotent`, "an upsert-style insert
that tolerates pre-existing account rows for the same user and returns the
current balance". -/
def createAccountIdempotent (userId : String) (db : Db) : Except DbError (Account × Db) :=
  match db.account? userId with
  | some a => .ok (a, db)
  | none => .ok (⟨userId, 0⟩, { db with accounts := db.accounts ++ [⟨userId, 0⟩] })

/-- Modelled from the spec ("add `amount` to balance"): `TopUp` is `UPDATE accounts
SET balance = balance + $2 WHERE user_id = $1 RETURNING user_id, balance`.  No
row is `pgx.ErrNoRows`; a sum past the `bigint` range is a server error. -/
def topUp (userId : String) (amount : Int) (db : Db) : Except DbError (Account × Db) :=
  match db.account? userId with
  | none => .error .noRows
  | some a =>
      if bigintMax < a.balance + amount then .error .failed
      else .ok (⟨userId, a.balance + amount⟩, db.addBalance userId amount)

/-- Modelled from the spec: `GetBalance` is `SELECT balance FROM accounts WHERE
user_id = $1`. -/
def getBalance (userId : String) (db : Db) : Except DbError (Int × Db) :=
  match db.account? userId with
  | none => .error .noRows
  | some a => .ok (a.balance, db)

/-- Modelled from the spec: `AccountExists`, whether an `accounts` row exists. -/
def accountExists (userId : String) (db : Db) : Except DbError (Bool × Db) :=
  .ok (db.hasAccount userId, db)

/-- Modelled from the spec (§4.4 step 2): **`TryDeductOnce`** is one statement
that, when `order_id` has no `payment_operations` row yet and `user_id`'s balance
is at least `amount`, subtracts `amount` and inserts the operation row; it
reports whether the row was inserted (`OpInserted`). -/
def tryDeductOnce (orderId : Uuid) (userId : String) (amount : Int) (db : Db) :
    Except DbError (Nat × Db) :=
  if db.canDeduct orderId userId amount then .ok (1, db.deduct orderId userId amount)
  else .ok (0, db)

/-- Modelled from the spec (§4.2): `InsertInboxCheck` inserts the event's
`message_id` unless present and reports the number of rows inserted. -/
def insertInboxCheck (messageId orderId : Uuid) (db : Db) : Except DbError (Nat × Db) :=
  if db.inbox.any (·.messageId = messageId) then .ok (0, db)
  else .ok (1, { db with inbox := db.inbox ++ [⟨messageId, orderId⟩] })

/-- `InsertTopupIdempotency`: `INSERT … VALUES ($1, $2, $3, 0) ON CONFLICT
(user_id, idempotency_key) DO NOTHING`, reporting whether a row was inserted. -/
def insertTopupIdempotency (userId idempotencyKey : String) (amount : Int) (db : Db) :
    Except DbError (Nat × Db) :=
  match db.topup? userId idempotencyKey with
  | some _ => .ok (0, db)
  | none => .ok (1, { db with topupIdempotency :=
      db.topupIdempotency ++ [⟨userId, idempotencyKey, amount, 0⟩] })

/-- `GetTopupIdempotency`: the row of `(user_id, idempotency_key)`. -/
def getTopupIdempotency (userId idempotencyKey : String) (db : Db) :
    Except DbError (TopupIdempotency × Db) :=
  match db.topup? userId idempotencyKey with
  | none => .error .noRows
  | some t => .ok (t, db)

/-- `SetTopupIdempotencyBalance`: `UPDATE … SET balance_after = $3 … RETURNING
balance_after`. -/
def setTopupIdempotencyBalance (userId idempotencyKey : String) (balanceAfter : Int) (db : Db) :
    Except DbError (Int × Db) :=
  match db.topup? userId idempotencyKey with
  | none => .error .noRows
  | some _ => .ok (balanceAfter, { db with topupIdempotency := db.topupIdempotency.map fun t =>
      if t.userId = userId ∧ t.idempotencyKey = idempotencyKey then { t with balanceAfter := balanceAfter }
      else t })

/-- `DeleteTopupIdempotency`. -/
def deleteTopupIdempotency (userId idempotencyKey : String) (db : Db) : Except DbError (Unit × Db) :=
  .ok ((), { db with topupIdempotency := db.topupIdempotency.filter fun t =>
    ¬(t.userId = userId ∧ t.idempotencyKey = idempotencyKey) })

/-- `InsertOutbox` on the Payments outbox. -/
def insertOutbox (kafkaKey : String) (payload : Payload) (db : Db) : Except DbError (Nat × Db) :=
  let (id, o) := db.outbox.insertOutbox kafkaKey payload
  .ok (id, { db with outbox := o })

end Queries

end PaymentsService.Payments
