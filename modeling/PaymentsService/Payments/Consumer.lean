import PaymentsService.Payments.Handlers

/-!
# The `PaymentRequested` consumer

`PaymentRequestedConsumer.handleMessage`: decode and validate the event, then in
one transaction insert the inbox row, try the debit, classify the outcome and
append the `PaymentResult` to the outbox.

## Main definitions

* `classify` — the status and reason the result carries.
* `handleMessageTx` — the transaction closure.
* `handleMessage` — the whole handler: the state it commits and the error it
  returns to `Run` (which commits the offset only on `nil`).

## Design notes

The code starts `status` at `FAIL_INTERNAL` and overwrites it on both branches of
`res.OpInserted == 1`, so `FAIL_INTERNAL` is never sent; `classify` keeps the two
branches.  A message that does not decode or fails validation — an event id or
order id that is not a UUID, an empty user, a non-positive amount — is
swallowed: the handler returns `nil` without touching the database.
-/

namespace PaymentsService.Payments

/-- The result status and reason for the outcome of `TryDeductOnce` and, when it
debited nothing, of `AccountExists`. -/
def classify (opInserted : Nat) (exists_ : Bool) : PaymentResultStatus × String :=
  if opInserted = 1 then (.success, "")
  else if exists_ then (.failNotEnoughFunds, "not enough funds")
  else (.failNoAccount, "account not found")

/-- **The closure of `handleMessage`'s transaction.**  `resultEventId` is the
`uuid.NewString()` of the result event. -/
def handleMessageTx (f : Faults) (resultEventId : Uuid) (ev : PaymentRequested)
    (msgId orderId : Uuid) (db : Db) : Except TxError (Unit × Db) := do
  let (inserted, db) ← roundTrip (f .insertInboxCheck) (Queries.insertInboxCheck msgId orderId) db
  if inserted = 0 then return ((), db)
  let (opInserted, db) ← roundTrip (f .tryDeductOnce)
    (Queries.tryDeductOnce orderId ev.userId ev.amount) db
  let (exists_, db) ← if opInserted = 1 then pure (true, db)
    else roundTrip (f .accountExists) (Queries.accountExists ev.userId) db
  let (status, reason) := classify opInserted exists_
  let result : PaymentResult := ⟨resultEventId.text, orderId.text, ev.userId, status, reason⟩
  if f .marshal then throw .marshal
  let (_, db) ← roundTrip (f .insertOutbox)
    (Queries.insertOutbox orderId.text (.paymentResult result)) db
  return ((), db)

/-- The event, its id and its order id, when the message passes `handleMessage`'s
checks: it decodes, both ids parse, the user is set and the amount positive. -/
def validRequest? (m : KafkaMessage) : Option (PaymentRequested × Uuid × Uuid) := do
  let ev ← m.value.unmarshalPaymentRequested
  let msgId ← uuidParse ev.eventId
  let orderId ← uuidParse ev.orderId
  if ev.userId = "" ∨ ev.amount ≤ 0 then none else some (ev, msgId, orderId)

/-- **`PaymentRequestedConsumer.handleMessage`.** -/
def handleMessage (f : Faults) (resultEventId : Uuid) (m : KafkaMessage) (db : Db) :
    Db × Except TxError Unit :=
  match validRequest? m with
  | none => (db, .ok ())
  | some (ev, msgId, orderId) =>
      let r := withTx (f .begin) (f .commit) (f .commitAck) (handleMessageTx f resultEventId ev msgId orderId) db
      (r.2, r.1)

/-! ## What a delivery can do -/

/-- The result event a first delivery enqueues, given whether `TryDeductOnce`
debited and whether the account exists. -/
def resultFor (resultEventId orderId : Uuid) (ev : PaymentRequested) (debited accountExists : Bool) :
    PaymentResult :=
  let sr := classify (if debited then 1 else 0) accountExists
  ⟨resultEventId.text, orderId.text, ev.userId, sr.1, sr.2⟩

@[simp] theorem resultFor_orderId (e orderId : Uuid) (ev : PaymentRequested) (debited accountExists : Bool) :
    (resultFor e orderId ev debited accountExists).orderId = orderId.text := rfl

/-- A result reports `SUCCESS` exactly when the delivery debited. -/
theorem resultFor_status_eq_success (e orderId : Uuid) (ev : PaymentRequested) (debited accountExists : Bool) :
    (resultFor e orderId ev debited accountExists).status = .success ↔ debited = true := by
  cases debited <;> cases accountExists <;> simp [resultFor, classify]

theorem resultFor_status_eq_failNoAccount (e orderId : Uuid) (ev : PaymentRequested) (debited accountExists : Bool) :
    (resultFor e orderId ev debited accountExists).status = .failNoAccount ↔
      debited = false ∧ accountExists = false := by
  cases debited <;> cases accountExists <;> simp [resultFor, classify]

theorem resultFor_status_eq_failNotEnoughFunds (e orderId : Uuid) (ev : PaymentRequested)
    (debited accountExists : Bool) :
    (resultFor e orderId ev debited accountExists).status = .failNotEnoughFunds ↔
      debited = false ∧ accountExists = true := by
  cases debited <;> cases accountExists <;> simp [resultFor, classify]

/-- **The state the transaction of a first delivery commits**: the inbox row, the
debit when `TryDeductOnce` makes one, and the result row in the outbox. -/
def Db.applyRequest (db : Db) (resultEventId : Uuid) (ev : PaymentRequested) (msgId orderId : Uuid) :
    Db :=
  let debited := db.canDeduct orderId ev.userId ev.amount
  let db1 := if debited then db.deduct orderId ev.userId ev.amount else db
  { db1 with
    inbox := db.inbox ++ [⟨msgId, orderId⟩]
    outbox := (db.outbox.insertOutbox orderId.text
      (.paymentResult (resultFor resultEventId orderId ev debited (db.hasAccount ev.userId)))).2 }

/-- Whether the inbox already holds event `msgId`. -/
def Db.seen (db : Db) (msgId : Uuid) : Bool := db.inbox.any (·.messageId = msgId)

section ApplyRequest

variable (db : Db) (e : Uuid) (ev : PaymentRequested) (msgId orderId : Uuid)

@[simp] theorem applyRequest_topupIdempotency :
    (db.applyRequest e ev msgId orderId).topupIdempotency = db.topupIdempotency := by
  unfold Db.applyRequest; cases db.canDeduct orderId ev.userId ev.amount <;> rfl

@[simp] theorem applyRequest_inbox :
    (db.applyRequest e ev msgId orderId).inbox = db.inbox ++ [⟨msgId, orderId⟩] := rfl

@[simp] theorem applyRequest_outbox :
    (db.applyRequest e ev msgId orderId).outbox = (db.outbox.insertOutbox orderId.text
      (.paymentResult (resultFor e orderId ev (db.canDeduct orderId ev.userId ev.amount)
        (db.hasAccount ev.userId)))).2 := rfl

theorem applyRequest_paymentOperations :
    (db.applyRequest e ev msgId orderId).paymentOperations =
      if db.canDeduct orderId ev.userId ev.amount then
        db.paymentOperations ++ [⟨orderId, ev.userId, ev.amount⟩]
      else db.paymentOperations := by
  unfold Db.applyRequest; cases db.canDeduct orderId ev.userId ev.amount <;> rfl

theorem mem_applyRequest_paymentOperations {p : PaymentOperation} :
    p ∈ (db.applyRequest e ev msgId orderId).paymentOperations ↔ p ∈ db.paymentOperations ∨
      (db.canDeduct orderId ev.userId ev.amount = true ∧ p = ⟨orderId, ev.userId, ev.amount⟩) := by
  rw [applyRequest_paymentOperations]
  split <;> simp_all

theorem balanceOf_applyRequest (v : String) :
    (db.applyRequest e ev msgId orderId).balanceOf v = db.balanceOf v -
      if db.canDeduct orderId ev.userId ev.amount ∧ v = ev.userId then ev.amount else 0 := by
  unfold Db.applyRequest
  cases hd : db.canDeduct orderId ev.userId ev.amount
  · simp
  · simp [Db.deduct, Db.balanceOf_addBalance, Db.hasAccount_of_canDeduct hd]
    split <;> omega

theorem opSum_applyRequest (v : String) :
    (db.applyRequest e ev msgId orderId).opSum v = db.opSum v +
      if db.canDeduct orderId ev.userId ev.amount ∧ v = ev.userId then ev.amount else 0 := by
  unfold Db.applyRequest
  cases hd : db.canDeduct orderId ev.userId ev.amount
  · simp
  · simp only [Db.deduct, if_true, true_and]
    rw [Db.opSum_append]
    simp [eq_comm]

end ApplyRequest

theorem validRequest?_eq_some {m : KafkaMessage} {ev : PaymentRequested} {msgId orderId : Uuid}
    (h : validRequest? m = some (ev, msgId, orderId)) :
    m.value.unmarshalPaymentRequested = some ev ∧ uuidParse ev.eventId = some msgId ∧
      uuidParse ev.orderId = some orderId ∧ ev.userId ≠ "" ∧ 0 < ev.amount := by
  unfold validRequest? at h
  cases h1 : m.value.unmarshalPaymentRequested with
  | none => simp [h1] at h
  | some ev' =>
    cases h2 : uuidParse ev'.eventId with
    | none => simp [h1, h2] at h
    | some x =>
      cases h3 : uuidParse ev'.orderId with
      | none => simp [h1, h2, h3] at h
      | some y =>
        simp only [h1, h2, h3, Option.bind_eq_bind, Option.some_bind] at h
        split at h
        · cases h
        · cases h
          exact ⟨rfl, h2, h3, by tauto, by omega⟩

theorem handleMessageTx_eq_ok {f : Faults} {e : Uuid} {ev : PaymentRequested} {msgId orderId : Uuid}
    {db db' : Db} (h : handleMessageTx f e ev msgId orderId db = .ok ((), db')) :
    (db.seen msgId = true ∧ db' = db) ∨
      (db.seen msgId = false ∧ db' = db.applyRequest e ev msgId orderId) := by
  unfold handleMessageTx at h
  cases h1 : f .insertInboxCheck
  · cases hs : db.seen msgId
    · have hs' : db.inbox.any (·.messageId = msgId) = false := hs
      refine .inr ⟨rfl, ?_⟩
      cases h2 : f .tryDeductOnce
      · simp only [h1, h2, hs', roundTrip_false, Queries.insertInboxCheck, Queries.tryDeductOnce] at h
        cases hd : db.canDeduct orderId ev.userId ev.amount
        · cases h3 : f .accountExists <;> cases h4 : f .marshal <;> cases h5 : f .insertOutbox <;>
            simp [hd, h3, h4, h5, Queries.accountExists, Queries.insertOutbox] at h
          subst h
          simp [Db.applyRequest, hd, resultFor]
        · cases h4 : f .marshal <;> cases h5 : f .insertOutbox <;>
            simp [hd, h4, h5, Queries.insertOutbox] at h
          subst h
          simp [Db.applyRequest, hd, Db.deduct, Db.addBalance, resultFor, classify]
      · simp [h1, h2, hs', Queries.insertInboxCheck] at h
    · have hs' : db.inbox.any (·.messageId = msgId) = true := hs
      simp [h1, hs', Queries.insertInboxCheck] at h
      exact .inl ⟨rfl, h.symm⟩
  · simp [h1] at h

/-- **Everything a delivery can do to the Payments store.**  It leaves the store as
it was — a swallowed message, a redelivery of an event already in the inbox, or a
transaction that aborted at any step — or it is the first delivery of a valid
event and commits `Db.applyRequest`. -/
theorem handleMessage_cases (f : Faults) (e : Uuid) (m : KafkaMessage) (db : Db) :
    (handleMessage f e m db).1 = db ∨
    ∃ ev msgId orderId, validRequest? m = some (ev, msgId, orderId) ∧ db.seen msgId = false ∧
      (handleMessage f e m db).1 = db.applyRequest e ev msgId orderId := by
  unfold handleMessage
  split
  · exact .inl rfl
  · next ev msgId orderId hv =>
    rcases withTx_cases (f .begin) (f .commit) (f .commitAck) (handleMessageTx f e ev msgId orderId) db with
      ⟨_, h, -⟩ | ⟨⟨⟩, db', -, -, htx, h⟩ <;> rw [h]
    · exact .inl rfl
    · rcases handleMessageTx_eq_ok htx with ⟨-, rfl⟩ | ⟨hs, rfl⟩
      · exact .inl rfl
      · exact .inr ⟨ev, msgId, orderId, hv, hs, rfl⟩

/-- **A delivery that returns an error has rolled back, unless its `COMMIT` went
through**: when the reply of `COMMIT` is lost the delivery is the event's first
and has committed `Db.applyRequest`; the redelivery `Run` makes next finds the
event in the inbox. -/
theorem handleMessage_error {f : Faults} {e : Uuid} {m : KafkaMessage} {db : Db} {err : TxError}
    (h : (handleMessage f e m db).2 = .error err) :
    (handleMessage f e m db).1 = db ∨ f .commitAck = true ∧ err = .db .failed ∧
      ∃ ev msgId orderId, validRequest? m = some (ev, msgId, orderId) ∧ db.seen msgId = false ∧
        (handleMessage f e m db).1 = db.applyRequest e ev msgId orderId := by
  cases hv : validRequest? m with
  | none => simp [handleMessage, hv] at h
  | some p =>
    obtain ⟨ev, msgId, orderId⟩ := p
    simp only [handleMessage, hv] at h ⊢
    rcases withTx_cases (f .begin) (f .commit) (f .commitAck) (handleMessageTx f e ev msgId orderId) db with
      ⟨_, hw, -⟩ | ⟨⟨⟩, db', -, -, htx, hw⟩ <;> rw [hw] at h ⊢
    · exact .inl rfl
    · rcases handleMessageTx_eq_ok htx with ⟨-, rfl⟩ | ⟨hs, rfl⟩
      · exact .inl rfl
      · cases hc : f .commitAck <;> simp only [hc, if_true, if_false, reduceCtorEq, Except.error.injEq] at h
        exact .inr ⟨rfl, h.symm, ev, msgId, orderId, rfl, hs, rfl⟩

/-- **A delivery that inserts its event's inbox row is the event's first** and
commits `Db.applyRequest`. -/
theorem handleMessage_of_inbox {f : Faults} {e : Uuid} {m : KafkaMessage} {db : Db} {ev : PaymentRequested}
    {msgId orderId : Uuid} (hv : validRequest? m = some (ev, msgId, orderId))
    (hnew : (handleMessage f e m db).1.inbox = db.inbox ++ [⟨msgId, orderId⟩]) :
    db.seen msgId = false ∧ (handleMessage f e m db).1 = db.applyRequest e ev msgId orderId := by
  rcases handleMessage_cases f e m db with h | ⟨ev', msgId', orderId', hv', hs, h⟩
  · rw [h] at hnew
    exact absurd hnew (by simp)
  · rw [hv, Option.some.injEq, Prod.mk.injEq, Prod.mk.injEq] at hv'
    obtain ⟨rfl, rfl, rfl⟩ := hv'
    exact ⟨hs, h⟩

end PaymentsService.Payments
