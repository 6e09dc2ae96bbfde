import PaymentsService.Orders.Idempotency

/-!
# The life cycle of an order

An order is inserted in `NEW`, and the only statement that writes its status
afterwards is `UpdateOrderStatusIfNew`, run by the consumer in the transaction
that newly inserted a result event's inbox row, and guarded by `status = 'NEW'`.
So whatever the bus delivers — duplicates, redeliveries, distinct events with
conflicting statuses, in any order — an order's status moves at most once, from
`NEW` to the status the first applied event maps to, and never again.

## Main results

* `statusOf_step` — the three ways one step can move the status of an order:
  not at all; from absent to `NEW`; from `NEW` to `newStatus` of a result event
  whose inbox row the step inserts.
* `statusOf_exec_of_settled` — `FINISHED` and `CANCELLED` are never left.
* `order_status_moves_once` — over every run, the status of an order moves at
  most once, from `NEW` to the status of the first applied result event.
-/

namespace PaymentsService.Orders

/-! ## Status after an update -/

theorem Db.statusOf_insertOrder {db : Db} {row : OrderRow} (e : Uuid) (hn : db.order? row.orderId = none)
    (o : Uuid) : (db.insertOrder row e).statusOf o = if row.orderId = o then some row.status else db.statusOf o := by
  simp only [Db.statusOf, Db.order?, Db.insertOrder, List.find?_append]
  by_cases h : row.orderId = o
  · subst h
    rw [show db.orders.find? _ = none from hn]
    simp
  · cases db.orders.find? fun r => r.orderId = o <;> simp [h]

theorem Db.order?_setStatusIfNew (db : Db) (o' : Uuid) (s : OrderStatus) (o : Uuid) :
    (db.setStatusIfNew o' s).order? o =
      (db.order? o).map fun r => if r.orderId = o' ∧ r.status = .new then { r with status := s } else r := by
  simp only [Db.order?, Db.setStatusIfNew, List.find?_map]
  congr 2
  funext r
  by_cases h : r.orderId = o' ∧ r.status = .new <;> simp [h]

theorem Db.statusOf_setStatusIfNew (db : Db) (o' : Uuid) (s : OrderStatus) (o : Uuid) :
    (db.setStatusIfNew o' s).statusOf o = (db.statusOf o).map fun t => if o = o' ∧ t = .new then s else t := by
  unfold Db.statusOf
  rw [Db.order?_setStatusIfNew]
  cases h : db.order? o with
  | none => rfl
  | some r =>
    have hro : r.orderId = o := by simpa using List.find?_some h
    subst hro
    by_cases hc : r.orderId = o' ∧ r.status = .new <;> simp [hc]

/-- Whether order `o` has left `NEW`. -/
def Db.settled (db : Db) (o : Uuid) : Bool :=
  match db.statusOf o with
  | some .finished | some .cancelled => true
  | _ => false

/-! ## One step -/

/-- **How one step can move the status of order `o`**: not at all; from absent to
`NEW`, when the step creates it; or from `NEW` to `newStatus` of the first
applied `PaymentResult` for `o`, in the step that inserts the event's inbox row. -/
theorem statusOf_step (st : State) (op : Op) (o : Uuid) :
    (step st op).1.db.statusOf o = st.db.statusOf o ∨
    (st.db.statusOf o = none ∧ (step st op).1.db.statusOf o = some .new) ∨
    (st.db.statusOf o = some .new ∧ ∃ m f ev msgId, op = .handleMessage m f ∧
      validResult? m = some (ev, msgId, o) ∧ st.db.seen msgId = false ∧
      (step st op).1.db.inbox = st.db.inbox ++ [msgId] ∧
      (step st op).1.db.statusOf o = some (newStatus ev.status)) := by
  cases op with
  | createOrder req f o' t e =>
    rcases createOrder_cases f req o' t e st with ⟨_, h⟩ | ⟨-, -, -, hn, -, h⟩ | ⟨-, _, -, -, -, h⟩ <;>
      simp only [step, h]
    · exact .inl trivial
    · rw [Db.statusOf_insertOrder e hn]
      by_cases ho : o' = o
      · subst ho
        refine .inr (.inl ⟨?_, by simp [CreateOrderRequest.row]⟩)
        simp [Db.statusOf, hn]
      · exact .inl (by simp [CreateOrderRequest.row, ho])
    · exact .inl trivial
  | getOrder req f => exact .inl (by simp [step])
  | handleMessage m f =>
    rcases handleMessage_cases f m st.db with h | ⟨ev, msgId, orderId, hv, hs, h⟩ <;> simp only [step, h]
    · exact .inl trivial
    · have hst : (st.db.applyResult msgId orderId (newStatus ev.status)).statusOf o =
          (st.db.statusOf o).map fun t => if o = orderId ∧ t = .new then newStatus ev.status else t :=
        Db.statusOf_setStatusIfNew _ _ _ _
      rw [hst]
      cases hso : st.db.statusOf o with
      | none => exact .inl rfl
      | some t =>
        by_cases hc : o = orderId ∧ t = .new
        · obtain ⟨rfl, rfl⟩ := hc
          exact .inr (.inr ⟨rfl, m, f, ev, msgId, rfl, hv, hs, rfl, by simp⟩)
        · exact .inl (by simp [hc])
  | publishOnce batch oc => exact .inl rfl
  | expireOrder o' => exact .inl rfl

/-- A settled order keeps its status across a step. -/
theorem statusOf_step_of_settled (st : State) (op : Op) {o : Uuid} {s : OrderStatus}
    (h : st.db.statusOf o = some s) (hs : s ≠ .new) : (step st op).1.db.statusOf o = some s := by
  rcases statusOf_step st op o with h' | ⟨h', -⟩ | ⟨h', -⟩
  · rw [h', h]
  · rw [h] at h'; cases h'
  · rw [h] at h'; cases h'; exact absurd rfl hs

/-- **`FINISHED` and `CANCELLED` are never left.** -/
theorem statusOf_exec_of_settled {st : State} {o : Uuid} {s : OrderStatus} (h : st.db.statusOf o = some s)
    (hs : s ≠ .new) : ∀ ops, (exec st ops).db.statusOf o = some s
  | [] => h
  | op :: ops => statusOf_exec_of_settled (statusOf_step_of_settled st op h hs) hs ops

theorem settled_step (st : State) (op : Op) (o : Uuid) (h : st.db.settled o = true) :
    (step st op).1.db.settled o = true := by
  unfold Db.settled at h ⊢
  cases hs : st.db.statusOf o with
  | none => simp [hs] at h
  | some s =>
    have hne : s ≠ .new := by rintro rfl; simp [hs] at h
    rw [hs] at h
    rw [statusOf_step_of_settled st op hs hne]
    exact h

theorem created_step (st : State) (op : Op) (o : Uuid) (h : (st.db.statusOf o).isSome = true) :
    ((step st op).1.db.statusOf o).isSome = true := by
  rcases statusOf_step st op o with h' | ⟨h', -⟩ | ⟨-, _, _, _, _, -, -, -, -, h'⟩
  · rwa [h']
  · rw [h'] at h; cases h
  · rw [h']; rfl

/-! ## The inbox -/

theorem Db.seen_eq_false_iff {db : Db} {msgId : Uuid} : db.seen msgId = false ↔ msgId ∉ db.inbox := by
  simp [Db.seen]

theorem inbox_dbStep {db db' : Db} (h : DbStep db db') : db'.inbox = db.inbox ∨
    ∃ msgId, db.seen msgId = false ∧ db'.inbox = db.inbox ++ [msgId] := by
  cases h with
  | result hs => exact .inr ⟨_, hs, rfl⟩
  | _ => exact .inl rfl

theorem inbox_nodup_dbStep {db db' : Db} (hi : db.inbox.Nodup) (h : DbStep db db') : db'.inbox.Nodup := by
  rcases inbox_dbStep h with h' | ⟨msgId, hs, h'⟩ <;> rw [h']
  · exact hi
  · exact List.nodup_append.2 ⟨hi, List.nodup_singleton _, by simpa using Db.seen_eq_false_iff.1 hs⟩

theorem seen_step (st : State) (op : Op) {msgId : Uuid} (h : st.db.seen msgId = true) :
    (step st op).1.db.seen msgId = true := by
  rcases inbox_dbStep (step_dbStep st op) with h' | ⟨_, -, h'⟩ <;> simp only [Db.seen, h'] at h ⊢
  · exact h
  · simp at h ⊢; exact .inl h

theorem Reachable.inbox_nodup {st : State} (h : Reachable st) : st.db.inbox.Nodup := by
  induction h with
  | init => exact List.nodup_nil
  | step op _ ih => exact inbox_nodup_dbStep ih (step_dbStep _ op)

/-! ## Over a run -/

/-- **An order's status moves at most once, from `NEW`, and never back.**  After
any run from an empty store — creates, deliveries of any `PaymentResult`s,
duplicated, redelivered, conflicting, in any order, aborting at any round trip —
every next step leaves the status of order `o` as it is, creates `o` in `NEW`, or
moves it from `NEW` to `FINISHED` (for a `SUCCESS` result) or `CANCELLED` (for any
other) in the step that newly inserts the applied event's inbox row.  Along the
run `o` is created at most once and leaves `NEW` at most once; a settled status
stays through every continuation; the inbox holds each event id at most once and
an event enters it at most once. -/
theorem order_status_moves_once (cacheEnabled : Bool) (ops : List Op) (o msgId : Uuid) :
    let st := exec (State.init cacheEnabled) ops
    (∀ op, (step st op).1.db.statusOf o = st.db.statusOf o ∨
      (st.db.statusOf o = none ∧ (step st op).1.db.statusOf o = some .new) ∨
      (st.db.statusOf o = some .new ∧ ∃ m f ev msgId, op = .handleMessage m f ∧
        validResult? m = some (ev, msgId, o) ∧ st.db.seen msgId = false ∧
        (step st op).1.db.inbox = st.db.inbox ++ [msgId] ∧
        (step st op).1.db.statusOf o = some (newStatus ev.status))) ∧
    flipCount (fun st op => (step st op).1) (fun st => (st.db.statusOf o).isSome)
      (State.init cacheEnabled) ops ≤ 1 ∧
    flipCount (fun st op => (step st op).1) (fun st => st.db.settled o) (State.init cacheEnabled) ops ≤ 1 ∧
    (∀ s, st.db.statusOf o = some s → s ≠ .new → ∀ ops', (exec st ops').db.statusOf o = some s) ∧
    st.db.inbox.Nodup ∧
    flipCount (fun st op => (step st op).1) (fun st => st.db.seen msgId) (State.init cacheEnabled) ops ≤ 1 :=
  ⟨fun op => statusOf_step _ op o,
    flipCount_le_one (fun (st : State) (op : Op) h => created_step st op o h) _ _,
    flipCount_le_one (fun (st : State) (op : Op) h => settled_step st op o h) _ _,
    fun _ h hs => statusOf_exec_of_settled h hs,
    ((Reachable.init cacheEnabled).exec ops).inbox_nodup,
    flipCount_le_one (fun (st : State) (op : Op) h => seen_step st op h) _ _⟩

end PaymentsService.Orders
