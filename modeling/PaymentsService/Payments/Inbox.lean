import PaymentsService.Payments.Ledger

/-!
# Exactly-once effect of `PaymentRequested`

The consumer's transaction inserts the event's inbox row first and does nothing
else when the row was already there, so whatever an event does to the store it
does in the one step that put its id in the inbox.  An id, once in the inbox,
stays there: that is the whole argument for "at most once", and it needs no
assumption on how often, in which order or with which failures the bus delivers.

## Main results

* `InboxInv` — inbox ids and operation orders are unique, and the outbox holds,
  for every order, exactly as many `PaymentResult` rows as the inbox holds rows
  for that order, each keyed by the order and decoding to it.  Kept by every
  `DbStep` (`inboxInv_dbStep`).
* `dbStep_rows` — a step adds an inbox row only together with one result row for
  the same order, and takes no row of the inbox or of the operations away.
* `seen_dbStep`, `debited_dbStep` — no step takes an event id out of the inbox or
  an order's operation out of the table, so along any run each turns true at
  most once (`flipCount_le_one`).
* `payment_requested_effect_once` — the invariant in every reachable state, at
  most one debit per event over any run, the inbox and outbox rows of one
  transaction, and no effect from an aborted delivery.
-/

namespace PaymentsService.Payments

/-! ## Frames -/

@[simp] theorem insertAccount_inbox (db : Db) (u : String) : (db.insertAccount u).inbox = db.inbox := rfl
@[simp] theorem insertAccount_outbox (db : Db) (u : String) : (db.insertAccount u).outbox = db.outbox := rfl
@[simp] theorem insertAccount_paymentOperations (db : Db) (u : String) :
    (db.insertAccount u).paymentOperations = db.paymentOperations := rfl
@[simp] theorem recordTopup_inbox (db : Db) (u k : String) (x b : Int) :
    (db.recordTopup u k x b).inbox = db.inbox := rfl
@[simp] theorem recordTopup_outbox (db : Db) (u k : String) (x b : Int) :
    (db.recordTopup u k x b).outbox = db.outbox := rfl
@[simp] theorem recordTopup_paymentOperations (db : Db) (u k : String) (x b : Int) :
    (db.recordTopup u k x b).paymentOperations = db.paymentOperations := rfl

theorem length_filter_append_singleton {α : Type} (l : List α) (x : α) (p : α → Bool) :
    ((l ++ [x]).filter p).length = (l.filter p).length + if p x then 1 else 0 := by
  cases h : p x <;> simp [List.filter_append, h]

/-! ## The invariant -/

/-- **The inbox discipline of the Payments store.** -/
structure InboxInv (db : Db) : Prop where
  inbox_nodup : (db.inbox.map (·.messageId)).Nodup
  operations_nodup : (db.paymentOperations.map (·.orderId)).Nodup
  results_count : ∀ o : Uuid,
    (db.outbox.messages.filter (·.key = o.text)).length = (db.inbox.filter (·.orderId = o)).length
  results_decode : ∀ m ∈ db.outbox.messages, ∃ r, m.value = .paymentResult r ∧ r.orderId = m.key

theorem InboxInv.empty : InboxInv Db.empty :=
  ⟨List.nodup_nil, List.nodup_nil, fun _ => rfl, fun _ h => by cases h⟩

theorem seen_eq_false_iff {db : Db} {msgId : Uuid} :
    db.seen msgId = false ↔ msgId ∉ db.inbox.map (·.messageId) := by
  simp [Db.seen]

theorem operation?_eq_none_iff {db : Db} {o : Uuid} :
    db.operation? o = none ↔ o ∉ db.paymentOperations.map (·.orderId) := by
  simp [Db.operation?]

theorem InboxInv.applyRequest {db : Db} (hi : InboxInv db) (e : Uuid) (ev : PaymentRequested)
    {msgId orderId : Uuid} (hs : db.seen msgId = false) :
    InboxInv (db.applyRequest e ev msgId orderId) := by
  refine ⟨?_, ?_, fun o => ?_, fun m hm => ?_⟩
  · simpa [List.nodup_append, seen_eq_false_iff.1 hs] using hi.inbox_nodup
  · rw [applyRequest_paymentOperations]
    split
    · rename_i hd
      have := operation?_eq_none_iff.1 (Db.canDeduct_eq_true.1 hd).1
      simpa [List.nodup_append, this] using hi.operations_nodup
    · exact hi.operations_nodup
  · simp only [applyRequest_outbox, Outbox.messages_insertOutbox, applyRequest_inbox]
    rw [length_filter_append_singleton, length_filter_append_singleton, hi.results_count o]
    simp [eq_comm]
  · simp only [applyRequest_outbox, Outbox.messages_insertOutbox, List.mem_append,
      List.mem_singleton] at hm
    rcases hm with hm | rfl
    · exact hi.results_decode m hm
    · exact ⟨_, rfl, rfl⟩

theorem inboxInv_dbStep {db db' : Db} (hi : InboxInv db) (h : DbStep db db') : InboxInv db' := by
  cases h with
  | same => exact hi
  | openAccount => exact ⟨hi.inbox_nodup, hi.operations_nodup, by simpa using hi.results_count,
      by simpa using hi.results_decode⟩
  | credit => exact ⟨hi.inbox_nodup, hi.operations_nodup, by simpa using hi.results_count,
      by simpa using hi.results_decode⟩
  | creditKeyed => exact ⟨hi.inbox_nodup, hi.operations_nodup, by simpa using hi.results_count,
      by simpa using hi.results_decode⟩
  | request _ _ _ _ hs => exact hi.applyRequest _ _ hs
  | publish hm => exact ⟨hi.inbox_nodup, hi.operations_nodup, by simpa [hm] using hi.results_count,
      by simpa [hm] using hi.results_decode⟩

theorem Reachable.inboxInv {st : State} (h : Reachable st) : InboxInv st.db := by
  induction h with
  | init => exact InboxInv.empty
  | step op _ ih => exact inboxInv_dbStep ih (step_dbStep _ op)

/-- An order with no inbox row has no result row. -/
theorem InboxInv.key_ne {db : Db} (hi : InboxInv db) {o : Uuid} (h : ∀ row ∈ db.inbox, row.orderId ≠ o) :
    ∀ m ∈ db.outbox.messages, m.key ≠ o.text := by
  have h0 : db.inbox.filter (·.orderId = o) = [] := List.filter_eq_nil_iff.2 (by simpa using h)
  have := hi.results_count o
  rw [h0, List.length_nil, List.length_eq_zero, List.filter_eq_nil_iff] at this
  simpa using this

/-! ## What a step does to the rows -/

/-- Whether some `payment_operations` row is for order `orderId`. -/
def Db.debited (db : Db) (orderId : Uuid) : Bool := db.paymentOperations.any (·.orderId = orderId)

/-- **What a step does to the inbox, the operations and the outbox.**  Operations
only grow; the inbox either stays, with the outbox's messages, or grows by one
row together with one `PaymentResult` keyed by the row's order. -/
theorem dbStep_rows {db db' : Db} (h : DbStep db db') :
    db.paymentOperations <+: db'.paymentOperations ∧
    ((db'.inbox = db.inbox ∧ db'.outbox.messages = db.outbox.messages) ∨
      ∃ msgId orderId r, db'.inbox = db.inbox ++ [⟨msgId, orderId⟩] ∧
        db'.outbox.messages = db.outbox.messages ++ [⟨orderId.text, .paymentResult r⟩] ∧
        r.orderId = orderId.text) := by
  cases h with
  | same => exact ⟨List.prefix_refl _, .inl ⟨rfl, rfl⟩⟩
  | openAccount => exact ⟨by simp, .inl ⟨rfl, rfl⟩⟩
  | credit => exact ⟨by simp, .inl ⟨rfl, rfl⟩⟩
  | creditKeyed => exact ⟨by simp, .inl ⟨rfl, rfl⟩⟩
  | request =>
    refine ⟨?_, .inr ⟨_, _, _, rfl, Outbox.messages_insertOutbox _ _ _, rfl⟩⟩
    rw [applyRequest_paymentOperations]
    split
    · exact List.prefix_append _ _
    · exact List.prefix_refl _
  | publish hm => exact ⟨List.prefix_refl _, .inl ⟨rfl, hm⟩⟩

theorem any_of_prefix {α : Type} {l l' : List α} (h : l <+: l') {p : α → Bool}
    (hp : l.any p = true) : l'.any p = true := by
  obtain ⟨t, rfl⟩ := h
  simp [List.any_append, hp]

theorem seen_dbStep {db db' : Db} {msgId : Uuid} (h : DbStep db db') (hs : db.seen msgId = true) :
    db'.seen msgId = true := by
  rcases (dbStep_rows h).2 with ⟨hi, -⟩ | ⟨_, _, _, hi, -⟩ <;> unfold Db.seen <;> rw [hi]
  · exact hs
  · exact any_of_prefix (List.prefix_append _ _) hs

theorem debited_dbStep {db db' : Db} {orderId : Uuid} (h : DbStep db db')
    (hd : db.debited orderId = true) : db'.debited orderId = true :=
  any_of_prefix (dbStep_rows h).1 hd

/-- **Every `PaymentRequested` event takes effect at most once.**  After any run
from an empty store — deliveries of any events, duplicated, interleaved,
redelivered after a crash between the commit and the offset commit, aborting at
any round trip — the inbox holds each event id at most once and the operations
each order at most once, and the outbox holds, per order, one `PaymentResult`
keyed and decoding to that order for each inbox row of the order.  Along the run
an event enters the inbox at most once and an order is debited at most once;
from the state reached, a step adds an inbox row only together with its result
row.  A delivery that returns an error has aborted, leaving the store as it was,
unless the reply of its `COMMIT` was lost: then it has committed a first delivery
in full. -/
theorem payment_requested_effect_once (cacheEnabled : Bool) (ops : List Op) (msgId orderId : Uuid) :
    let st := exec (State.init cacheEnabled) ops
    InboxInv st.db ∧
    flipCount (fun st op => (step st op).1) (·.db.seen msgId) (State.init cacheEnabled) ops ≤ 1 ∧
    flipCount (fun st op => (step st op).1) (·.db.debited orderId) (State.init cacheEnabled) ops ≤ 1 ∧
    (∀ op, let db' := (step st op).1.db
      (db'.inbox = st.db.inbox ∧ db'.outbox.messages = st.db.outbox.messages) ∨
      ∃ msgId orderId r, db'.inbox = st.db.inbox ++ [⟨msgId, orderId⟩] ∧
        db'.outbox.messages = st.db.outbox.messages ++ [⟨orderId.text, .paymentResult r⟩] ∧
        r.orderId = orderId.text) ∧
    ∀ f e m err, (handleMessage f e m st.db).2 = .error err → (handleMessage f e m st.db).1 = st.db ∨
      f .commitAck = true ∧ err = .db .failed ∧ ∃ ev msgId orderId, validRequest? m = some (ev, msgId, orderId) ∧
        st.db.seen msgId = false ∧ (handleMessage f e m st.db).1 = st.db.applyRequest e ev msgId orderId :=
  ⟨((Reachable.init cacheEnabled).exec ops).inboxInv,
    flipCount_le_one (fun (st : State) (op : Op) h => seen_dbStep (step_dbStep st op) h) _ _,
    flipCount_le_one (fun (st : State) (op : Op) h => debited_dbStep (step_dbStep st op) h) _ _,
    fun op => (dbStep_rows (step_dbStep _ op)).2, fun _ _ _ _ => handleMessage_error⟩

/-! ## What a first delivery enqueues -/

/-- **What a first delivery enqueues.**  When the consumer's transaction inserts
the event's inbox row, it also appends one `PaymentResult` for the event's order
and user.  The result says `SUCCESS` exactly when the transaction debited the
event's amount from the event's user, `FAIL_NO_ACCOUNT` only when the user has no
account, and `FAIL_NOT_ENOUGH_FUNDS` only when the account held less than the
amount when `TryDeductOnce` ran, or the order already had an operation row. -/
theorem first_delivery_result (f : Faults) (e : Uuid) (m : KafkaMessage) (db : Db) {ev : PaymentRequested}
    {msgId orderId : Uuid} (hv : validRequest? m = some (ev, msgId, orderId))
    (hnew : (handleMessage f e m db).1.inbox = db.inbox ++ [⟨msgId, orderId⟩]) :
    ∃ res : PaymentResult, (handleMessage f e m db).1.outbox.messages =
        db.outbox.messages ++ [⟨orderId.text, .paymentResult res⟩] ∧
      res.orderId = orderId.text ∧ res.userId = ev.userId ∧
      (res.status = .success ↔
        (handleMessage f e m db).1.paymentOperations = db.paymentOperations ++ [⟨orderId, ev.userId, ev.amount⟩] ∧
          (handleMessage f e m db).1.balanceOf ev.userId = db.balanceOf ev.userId - ev.amount) ∧
      (res.status = .failNoAccount → db.account? ev.userId = none) ∧
      (res.status = .failNotEnoughFunds → ∃ a, db.account? ev.userId = some a ∧
        (a.balance < ev.amount ∨ ∃ p ∈ db.paymentOperations, p.orderId = orderId)) := by
  obtain ⟨-, h⟩ := handleMessage_of_inbox hv hnew
  rw [h]
  refine ⟨resultFor e orderId ev (db.canDeduct orderId ev.userId ev.amount) (db.hasAccount ev.userId), by simp,
    rfl, rfl, ?_, fun hs => ?_, fun hs => ?_⟩
  · rw [resultFor_status_eq_success, applyRequest_paymentOperations, balanceOf_applyRequest]
    cases db.canDeduct orderId ev.userId ev.amount <;> simp
  · obtain ⟨-, hx⟩ := (resultFor_status_eq_failNoAccount _ _ _ _ _).1 hs
    simpa [Db.hasAccount] using hx
  · obtain ⟨hd, hx⟩ := (resultFor_status_eq_failNotEnoughFunds _ _ _ _ _).1 hs
    obtain ⟨a, ha⟩ := Option.isSome_iff_exists.1 hx
    exact ⟨a, ha, Db.canDeduct_eq_false hd ha⟩

theorem first_delivery_result_debits :
    let o : Uuid := ⟨"00000000-0000-0000-0000-00000000000a", by decide⟩
    let e₁ : Uuid := ⟨"00000000-0000-0000-0000-000000000001", by decide⟩
    let r₁ : Uuid := ⟨"00000000-0000-0000-0000-000000000003", by decide⟩
    let m : KafkaMessage := ⟨o.text, .paymentRequested ⟨e₁.text, o.text, "u", 10⟩⟩
    let db := (exec (State.init false) [.createAccount ⟨"u", ""⟩ Faults.none,
      .topUp ⟨"u", 100, ""⟩ Faults.none]).db
    validRequest? m = some (⟨e₁.text, o.text, "u", 10⟩, e₁, o) ∧
      (handleMessage Faults.none r₁ m db).1.inbox = db.inbox ++ [⟨e₁, o⟩] ∧
      ∃ res : PaymentResult, (handleMessage Faults.none r₁ m db).1.outbox.messages =
          db.outbox.messages ++ [⟨o.text, .paymentResult res⟩] ∧
        res.orderId = o.text ∧ res.userId = "u" ∧
        (res.status = .success ↔
          (handleMessage Faults.none r₁ m db).1.paymentOperations = db.paymentOperations ++ [⟨o, "u", 10⟩] ∧
            (handleMessage Faults.none r₁ m db).1.balanceOf "u" = db.balanceOf "u" - 10) ∧
        (res.status = .failNoAccount → db.account? "u" = none) ∧
        (res.status = .failNotEnoughFunds → ∃ a, db.account? "u" = some a ∧
          (a.balance < 10 ∨ ∃ p ∈ db.paymentOperations, p.orderId = o)) := by
  intro o e₁ r₁ m db
  exact ⟨rfl, rfl, @first_delivery_result Faults.none r₁ m db ⟨e₁.text, o.text, "u", 10⟩ e₁ o rfl rfl⟩

/-- **A first delivery can report a paid order as `FAIL_NOT_ENOUGH_FUNDS`.**
After `CreateAccount("u")`, `TopUp("u", 100)` and the delivery of event `…01`
debiting order `…0a` by `10`, the first delivery of another event `…02` for the
same order finds the order's operation row, so `TryDeductOnce` debits nothing,
and since the account exists the result says `FAIL_NOT_ENOUGH_FUNDS`, although
the account holds `90`. -/
theorem first_delivery_fails_paid_order :
    let o : Uuid := ⟨"00000000-0000-0000-0000-00000000000a", by decide⟩
    let e₂ : Uuid := ⟨"00000000-0000-0000-0000-000000000002", by decide⟩
    let r₂ : Uuid := ⟨"00000000-0000-0000-0000-000000000004", by decide⟩
    let st := exec (State.init false) [.createAccount ⟨"u", ""⟩ Faults.none, .topUp ⟨"u", 100, ""⟩ Faults.none,
      .handleMessage ⟨o.text, .paymentRequested ⟨"00000000-0000-0000-0000-000000000001", o.text, "u", 10⟩⟩
        ⟨"00000000-0000-0000-0000-000000000003", by decide⟩ Faults.none]
    let db := (handleMessage Faults.none r₂ ⟨o.text, .paymentRequested ⟨e₂.text, o.text, "u", 10⟩⟩ st.db).1
    Reachable st ∧ st.db.paymentOperations = [⟨o, "u", 10⟩] ∧ st.db.balanceOf "u" = 90 ∧
      db.inbox = st.db.inbox ++ [⟨e₂, o⟩] ∧
      db.outbox.messages = st.db.outbox.messages ++
        [⟨o.text, .paymentResult ⟨r₂.text, o.text, "u", .failNotEnoughFunds, "not enough funds"⟩⟩] :=
  ⟨(Reachable.init false).exec _, rfl, rfl, rfl, rfl⟩

end PaymentsService.Payments
