import PaymentsService.Orders.Service
import PaymentsService.Payments.Service

/-!
# The pipeline: two services and the two topics between them

Orders and Payments share no table; they meet only on two Kafka topics.
`CreateOrder` commits an order together with its `PaymentRequested` in the
Orders outbox, and the Orders publisher copies outbox rows to
`payments.payment_requested.v1`.  The Payments consumer reads that topic, debits,
and commits a `PaymentResult` to the Payments outbox, which the Payments
publisher copies to `payments.payment_result.v1`.  The Orders consumer reads that
topic and moves the order out of `NEW`.  This module puts the two service models
side by side with the two topics into one transition system.

## Main definitions

* `Orders.Op.delivered`, `Payments.Op.delivered` — the record a step hands to the
  service's consumer, if the step is a delivery.
* `Orders.Reply.written`, `Payments.Reply.written` — the records a publisher pass
  wrote to its topic.
* `State`, `Op`, `step`, `State.init`, `Reachable`, `exec` — the pipeline.

## Main results

* `Reachable.orders`, `Reachable.payments` — every pipeline step is a step of one
  service, so each component of a reachable pipeline state is a reachable state
  of its service, and every invariant proved for a service holds in the pipeline.
* `Orders.mem_written`, `Payments.mem_written` — a publisher writes only records
  of its outbox.

## Design notes

**A topic is every record ever written to it.**  Kafka keeps a record after it is
read, and a consumer group may read it again: after a crash between the commit
and the offset commit, after a rebalance, or never, when the offset moved past it
(`run_skips_failed_request`).  A delivery step therefore names any record of its
topic, as often as the scheduler likes and in any order; duplicates written by
the publisher are further records.  A delivery of a record that is not on the
topic does nothing.  Which records are ever delivered is left to the schedule:
the laws of `Pipeline.Settlement` hold of every schedule, and `Pipeline.Drain`
exhibits one fault-free schedule after which no order is `NEW`.

**Each step is one service's step.**  A pipeline step runs exactly one step of
one service on that service's state, with the environment's choices (faults,
fresh ids, write outcomes) as arguments, and appends what a publisher pass wrote
to its topic.  The services' own models are reused unchanged, which is what
`Reachable.orders` and `Reachable.payments` record.
-/

namespace PaymentsService

namespace Orders

/-- The record an Orders step hands to the `PaymentResult` consumer. -/
def Op.delivered : Op → Option KafkaMessage
  | .handleMessage m _ => some m
  | _ => none

/-- The records an Orders publisher pass wrote to `payments.payment_requested.v1`. -/
def Reply.written : Reply → List KafkaMessage
  | .published w => w
  | _ => []

/-- **The Orders publisher writes only records of the Orders outbox.** -/
theorem mem_written {st : State} {op : Op} {m : KafkaMessage} (h : m ∈ (step st op).2.written) :
    m ∈ st.db.outbox.messages := by
  cases op <;> simp only [step, Reply.written, List.not_mem_nil] at h
  exact mem_publishOnce_written h

end Orders

namespace Payments

/-- The record a Payments step hands to the `PaymentRequested` consumer. -/
def Op.delivered : Op → Option KafkaMessage
  | .handleMessage m _ _ => some m
  | _ => none

/-- The records a Payments publisher pass wrote to `payments.payment_result.v1`. -/
def Reply.written : Reply → List KafkaMessage
  | .published w => w
  | _ => []

/-- **The Payments publisher writes only records of the Payments outbox.** -/
theorem mem_written {st : State} {op : Op} {m : KafkaMessage} (h : m ∈ (step st op).2.written) :
    m ∈ st.db.outbox.messages := by
  cases op <;> simp only [step, Reply.written, List.not_mem_nil] at h
  exact mem_publishOnce_written h

end Payments

namespace Pipeline

/-- The pipeline: both services and both topics. -/
structure State where
  orders : Orders.State
  payments : Payments.State
  /-- `payments.payment_requested.v1`, every record in the order written. -/
  requested : List KafkaMessage
  /-- `payments.payment_result.v1`, every record in the order written. -/
  results : List KafkaMessage

/-- One step of the pipeline: a step of one of the two services. -/
inductive Op
  | orders (op : Orders.Op)
  | payments (op : Payments.Op)

/-- Whether the record a step delivers, if any, is on `topic`. -/
def onTopic (topic : List KafkaMessage) (delivered : Option KafkaMessage) : Bool :=
  delivered.all topic.contains

theorem onTopic_iff {topic : List KafkaMessage} {delivered : Option KafkaMessage} :
    onTopic topic delivered = true ↔ ∀ m, delivered = some m → m ∈ topic := by
  cases delivered <;> simp [onTopic]

/-- **One step of the pipeline.**  The service runs the step when the record it
delivers, if any, is on the topic its consumer reads; a publisher pass appends
what it wrote to the topic its writer targets. -/
def step (s : State) : Op → State
  | .orders op =>
      if onTopic s.results op.delivered then
        let p := Orders.step s.orders op
        { s with orders := p.1, requested := s.requested ++ p.2.written }
      else s
  | .payments op =>
      if onTopic s.requested op.delivered then
        let p := Payments.step s.payments op
        { s with payments := p.1, results := s.results ++ p.2.written }
      else s

/-- Both services before any request, each with its cache enabled or not, and
both topics empty. -/
def State.init (ordersCache paymentsCache : Bool) : State :=
  ⟨Orders.State.init ordersCache, Payments.State.init paymentsCache, [], []⟩

/-- The states the pipeline can reach. -/
inductive Reachable : State → Prop
  | init (ordersCache paymentsCache : Bool) : Reachable (State.init ordersCache paymentsCache)
  | step {s : State} (op : Op) : Reachable s → Reachable (step s op)

/-- The state after running `ops` in order. -/
def exec (s : State) : List Op → State
  | [] => s
  | op :: ops => exec (step s op) ops

@[simp] theorem exec_nil (s : State) : exec s [] = s := rfl

@[simp] theorem exec_cons (s : State) (op : Op) (ops : List Op) :
    exec s (op :: ops) = exec (step s op) ops := rfl

theorem Reachable.exec {s : State} (h : Reachable s) :
    ∀ ops, Reachable (PaymentsService.Pipeline.exec s ops)
  | [] => h
  | op :: ops => (h.step op).exec ops

theorem step_orders_orders (s : State) (op : Orders.Op) : (step s (.orders op)).orders =
    if onTopic s.results op.delivered then (Orders.step s.orders op).1 else s.orders := by
  dsimp only [step]; split <;> rfl

@[simp] theorem step_orders_payments (s : State) (op : Orders.Op) :
    (step s (.orders op)).payments = s.payments := by
  dsimp only [step]; split <;> rfl

theorem step_payments_payments (s : State) (op : Payments.Op) : (step s (.payments op)).payments =
    if onTopic s.requested op.delivered then (Payments.step s.payments op).1 else s.payments := by
  dsimp only [step]; split <;> rfl

@[simp] theorem step_payments_orders (s : State) (op : Payments.Op) :
    (step s (.payments op)).orders = s.orders := by
  dsimp only [step]; split <;> rfl

/-- **The Orders side of a reachable pipeline state is a reachable Orders state.** -/
theorem Reachable.orders {s : State} (h : Reachable s) : Orders.Reachable s.orders := by
  induction h with
  | init => exact .init _
  | step op _ ih =>
    cases op with
    | orders op =>
      rw [step_orders_orders]
      split
      · exact ih.step op
      · exact ih
    | payments op => rwa [step_payments_orders]

/-- **The Payments side of a reachable pipeline state is a reachable Payments state.** -/
theorem Reachable.payments {s : State} (h : Reachable s) : Payments.Reachable s.payments := by
  induction h with
  | init => exact .init _
  | step op _ ih =>
    cases op with
    | orders op => rwa [step_orders_payments]
    | payments op =>
      rw [step_payments_payments]
      split
      · exact ih.step op
      · exact ih

end Pipeline

end PaymentsService
