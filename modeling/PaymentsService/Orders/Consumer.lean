import PaymentsService.Orders.Handlers

/-!
# The `PaymentResult` consumer

`PaymentResultConsumer.handleMessage`: decode the event and parse its ids, map
its status to the order's new status, then in one transaction insert the inbox
row and, when it was new, move the order out of `NEW`.

## Main definitions

* `newStatus` — `SUCCESS` finishes the order, any other status cancels it.
* `handleMessageTx`, `handleMessage` — the transaction closure and the handler.
* `Db.applyResult` — what the first delivery of an event commits.

## Design notes

A message that does not decode, or whose event or order id is not a UUID, is
swallowed: the handler returns `nil`, so `Run` commits its offset, and the
database is untouched.  An order id with no row, or one already out of `NEW`,
makes `UpdateOrderStatusIfNew` match nothing; the inbox row still commits.

A delivery whose `COMMIT` took effect but whose reply was lost returns an error
with the first delivery committed; `Run` then leaves the offset alone, and the
inbox row turns the redelivery into a no-op.
-/

namespace PaymentsService.Orders

/-- The status the consumer writes for a result with status `s`. -/
def newStatus (s : PaymentResultStatus) : OrderStatus := if s = .success then .finished else .cancelled

/-- **The closure of `handleMessage`'s transaction.** -/
def handleMessageTx (f : Faults) (msgId orderId : Uuid) (status : OrderStatus) (db : Db) :
    Except TxError (Unit × Db) := do
  let (inserted, db) ← roundTrip (f .insertInboxCheck) (Queries.insertInboxCheck msgId) db
  if inserted = 0 then return ((), db)
  let (_, db) ← roundTrip (f .updateOrderStatusIfNew) (Queries.updateOrderStatusIfNew orderId status) db
  return ((), db)

/-- The event, its id and its order id, when the message decodes and both ids
parse. -/
def validResult? (m : KafkaMessage) : Option (PaymentResult × Uuid × Uuid) := do
  let ev ← m.value.unmarshalPaymentResult
  let msgId ← uuidParse ev.eventId
  let orderId ← uuidParse ev.orderId
  some (ev, msgId, orderId)

/-- **`PaymentResultConsumer.handleMessage`.** -/
def handleMessage (f : Faults) (m : KafkaMessage) (db : Db) : Db × Except TxError Unit :=
  match validResult? m with
  | none => (db, .ok ())
  | some (ev, msgId, orderId) =>
      let r := withTx (f .begin) (f .commit) (f .commitAck) (handleMessageTx f msgId orderId (newStatus ev.status)) db
      (r.2, r.1)

/-- **The state the first delivery of an event commits**: its inbox row, and the
order's new status when the order is still `NEW`. -/
def Db.applyResult (db : Db) (msgId orderId : Uuid) (s : OrderStatus) : Db :=
  { db.setStatusIfNew orderId s with inbox := db.inbox ++ [msgId] }

theorem newStatus_ne_new (s : PaymentResultStatus) : newStatus s ≠ .new := by
  unfold newStatus; split <;> simp

theorem newStatus_eq_finished {s : PaymentResultStatus} : newStatus s = .finished ↔ s = .success := by
  unfold newStatus; split <;> simp_all

theorem newStatus_eq_cancelled {s : PaymentResultStatus} : newStatus s = .cancelled ↔ s ≠ .success := by
  unfold newStatus; split <;> simp_all

theorem validResult?_eq_some {m : KafkaMessage} {ev : PaymentResult} {msgId orderId : Uuid}
    (h : validResult? m = some (ev, msgId, orderId)) :
    m.value.unmarshalPaymentResult = some ev ∧ uuidParse ev.eventId = some msgId ∧
      uuidParse ev.orderId = some orderId := by
  unfold validResult? at h
  cases h1 : m.value.unmarshalPaymentResult with
  | none => simp [h1] at h
  | some ev' =>
    cases h2 : uuidParse ev'.eventId with
    | none => simp [h1, h2] at h
    | some x =>
      cases h3 : uuidParse ev'.orderId with
      | none => simp [h1, h2, h3] at h
      | some y =>
        simp only [h1, h2, h3, Option.bind_eq_bind, Option.some_bind, Option.some.injEq,
          Prod.mk.injEq] at h
        obtain ⟨rfl, rfl, rfl⟩ := h
        exact ⟨rfl, h2, h3⟩

theorem handleMessageTx_eq_ok {f : Faults} {msgId orderId : Uuid} {s : OrderStatus} {db db' : Db}
    (h : handleMessageTx f msgId orderId s db = .ok ((), db')) :
    (db.seen msgId = true ∧ db' = db) ∨ (db.seen msgId = false ∧ db' = db.applyResult msgId orderId s) := by
  unfold handleMessageTx at h
  cases h1 : f .insertInboxCheck
  · cases hs : db.seen msgId
    · cases h2 : f .updateOrderStatusIfNew <;>
        simp [h1, h2, hs, Queries.insertInboxCheck, Queries.updateOrderStatusIfNew] at h
      exact .inr ⟨rfl, h ▸ rfl⟩
    · simp [h1, hs, Queries.insertInboxCheck] at h
      exact .inl ⟨rfl, h.symm⟩
  · simp [h1] at h

/-- **Everything a delivery can do to the Orders store.**  It leaves the store as
it was — a swallowed message, a redelivery of an event already in the inbox, or
an aborted transaction — or it is the first delivery of a valid event and
commits `Db.applyResult`. -/
theorem handleMessage_cases (f : Faults) (m : KafkaMessage) (db : Db) :
    (handleMessage f m db).1 = db ∨
    ∃ ev msgId orderId, validResult? m = some (ev, msgId, orderId) ∧ db.seen msgId = false ∧
      (handleMessage f m db).1 = db.applyResult msgId orderId (newStatus ev.status) := by
  unfold handleMessage
  split
  · exact .inl rfl
  · next ev msgId orderId hv =>
    rcases withTx_cases (f .begin) (f .commit) (f .commitAck) (handleMessageTx f msgId orderId (newStatus ev.status))
      db with ⟨_, h, -⟩ | ⟨⟨⟩, db', -, -, htx, h⟩ <;> rw [h]
    · exact .inl rfl
    · rcases handleMessageTx_eq_ok htx with ⟨-, rfl⟩ | ⟨hs, rfl⟩
      · exact .inl rfl
      · exact .inr ⟨ev, msgId, orderId, hv, hs, rfl⟩

end PaymentsService.Orders
