import PaymentsService.Pipeline.System
import PaymentsService.Relay
import PaymentsService.Payments.Inbox

/-!
# The two outboxes of the pipeline are relays

Each service writes its outbox in two ways only: a business transaction appends
one row (`CreateOrder` its `PaymentRequested`, a first `PaymentRequested` delivery
its `PaymentResult`), and a publisher pass rewrites the table and writes to the
service's topic.  Every other step leaves the outbox alone.  So the Orders outbox
with `payments.payment_requested.v1`, and the Payments outbox with
`payments.payment_result.v1`, are each a `Relay` run, and the laws of the relay
hold in the pipeline.

## Main definitions

* `Pipeline.State.ordersRelay`, `Pipeline.State.paymentsRelay`.

## Main results

* `Orders.step_relay`, `Payments.step_relay` — a service step is a relay run of
  at most one operation on its outbox and topic.
* `Pipeline.exec_relays` — a pipeline run is a relay run on each side.
* `Pipeline.outboxes_relay_laws` — from every reachable state, over every run,
  both outboxes keep their rows, keep sent rows sent, keep `attempts` growing,
  and hold only sent rows whose record is on the service's topic.
-/

namespace PaymentsService

namespace Orders

theorem applyResult_outbox (db : Db) (msgId orderId : Uuid) (s : OrderStatus) :
    (db.applyResult msgId orderId s).outbox = db.outbox := rfl

/-- **An Orders step is a relay run of at most one operation** on the Orders
outbox and the records the step wrote. -/
theorem step_relay (st : State) (op : Op) (topic : List KafkaMessage) :
    ∃ oops : List OutboxOp, (Relay.mk st.db.outbox topic).run oops =
      ⟨(step st op).1.db.outbox, topic ++ (step st op).2.written⟩ := by
  cases op with
  | createOrder req f o t e =>
    rcases createOrder_cases f req o t e st with ⟨_, h⟩ | ⟨-, -, -, -, -, h⟩ | ⟨-, _, -, -, -, h⟩
    · exact ⟨[], by simp [step, h, Reply.written]⟩
    · exact ⟨[.insert _ _], by simp only [step, h, Reply.written, List.append_nil]; rfl⟩
    · exact ⟨[], by simp [step, h, Reply.written]⟩
  | getOrder req f => exact ⟨[], by simp [step, Reply.written]⟩
  | handleMessage m f =>
    rcases handleMessage_cases f m st.db with h | ⟨ev, msgId, orderId, -, -, h⟩ <;>
      exact ⟨[], by simp [step, h, Reply.written, applyResult_outbox]⟩
  | publishOnce batch oc => exact ⟨[.publish batch oc], rfl⟩
  | expireOrder o => exact ⟨[], by simp [step, Reply.written]⟩

end Orders

namespace Payments

/-- **A Payments step is a relay run of at most one operation** on the Payments
outbox and the records the step wrote. -/
theorem step_relay (st : State) (op : Op) (topic : List KafkaMessage) :
    ∃ pops : List OutboxOp, (Relay.mk st.db.outbox topic).run pops =
      ⟨(step st op).1.db.outbox, topic ++ (step st op).2.written⟩ := by
  cases op with
  | createAccount req f =>
    rcases createAccount_cases f req st with ⟨_, h⟩ | ⟨_, -, h⟩ | ⟨-, -, h⟩ <;>
      exact ⟨[], by simp [step, h, Reply.written]⟩
  | topUp req f =>
    rcases topUp_cases f req st with ⟨_, h⟩ | ⟨-, _, -, -, h⟩ | ⟨-, -, _, -, -, _, ⟨-, rfl⟩ | ⟨-, -, rfl⟩, h⟩ <;>
      exact ⟨[], by simp [step, h, Reply.written]⟩
  | getBalance req f => exact ⟨[], by simp [step, Reply.written]⟩
  | handleMessage m e f =>
    rcases handleMessage_cases f e m st.db with h | ⟨ev, msgId, orderId, -, -, h⟩
    · exact ⟨[], by simp [step, h, Reply.written]⟩
    · exact ⟨[.insert _ _], by simp only [step, h, Reply.written, List.append_nil]; rfl⟩
  | publishOnce batch oc => exact ⟨[.publish batch oc], rfl⟩
  | expireBalance u => exact ⟨[], by simp [step, Reply.written]⟩

end Payments

namespace Pipeline

/-- The Orders outbox and `payments.payment_requested.v1`. -/
def State.ordersRelay (s : State) : Relay := ⟨s.orders.db.outbox, s.requested⟩

/-- The Payments outbox and `payments.payment_result.v1`. -/
def State.paymentsRelay (s : State) : Relay := ⟨s.payments.db.outbox, s.results⟩

/-- **A pipeline step is a relay run on each side.** -/
theorem step_relays (s : State) (op : Op) :
    (∃ oops, s.ordersRelay.run oops = (step s op).ordersRelay) ∧
      ∃ pops, s.paymentsRelay.run pops = (step s op).paymentsRelay := by
  cases op with
  | orders op =>
    by_cases ht : onTopic s.results op.delivered
    · rw [step, if_pos ht]
      exact ⟨Orders.step_relay s.orders op s.requested, [], rfl⟩
    · rw [step, if_neg ht]
      exact ⟨⟨[], rfl⟩, [], rfl⟩
  | payments op =>
    by_cases ht : onTopic s.requested op.delivered
    · rw [step, if_pos ht]
      exact ⟨⟨[], rfl⟩, Payments.step_relay s.payments op s.results⟩
    · rw [step, if_neg ht]
      exact ⟨⟨[], rfl⟩, [], rfl⟩

theorem exec_relays (s : State) (ops : List Op) :
    (∃ oops, s.ordersRelay.run oops = (exec s ops).ordersRelay) ∧
      ∃ pops, s.paymentsRelay.run pops = (exec s ops).paymentsRelay := by
  induction ops generalizing s with
  | nil => exact ⟨⟨[], rfl⟩, [], rfl⟩
  | cons op ops ih =>
    obtain ⟨⟨oops, ho⟩, pops, hp⟩ := step_relays s op
    obtain ⟨⟨oops', ho'⟩, pops', hp'⟩ := ih (step s op)
    exact ⟨⟨oops ++ oops', by rw [Relay.run_append, ho, ho']; rfl⟩,
      pops ++ pops', by rw [Relay.run_append, hp, hp']; rfl⟩

theorem Reachable.relays_inv {s : State} (h : Reachable s) : s.ordersRelay.Inv ∧ s.paymentsRelay.Inv := by
  induction h with
  | init => exact ⟨Relay.Inv.empty, Relay.Inv.empty⟩
  | step op _ ih =>
    obtain ⟨⟨oops, ho⟩, pops, hp⟩ := step_relays _ op
    exact ⟨ho ▸ ih.1.run oops, hp ▸ ih.2.run pops⟩

/-- **Both outboxes of the pipeline lose nothing.**  From every reachable state,
over every run of the pipeline, each outbox keeps every row in its place with its
key and payload, keeps sent rows sent and `attempts` growing, its topic only
grows, and every row it holds as sent is on its topic. -/
theorem outboxes_relay_laws (s : State) (hs : Reachable s) (ops : List Op) :
    (s.ordersRelay.outbox.Later (exec s ops).ordersRelay.outbox ∧
      s.ordersRelay.topic <+: (exec s ops).ordersRelay.topic ∧ (exec s ops).ordersRelay.Inv) ∧
    (s.paymentsRelay.outbox.Later (exec s ops).paymentsRelay.outbox ∧
      s.paymentsRelay.topic <+: (exec s ops).paymentsRelay.topic ∧ (exec s ops).paymentsRelay.Inv) := by
  obtain ⟨⟨oops, ho⟩, pops, hp⟩ := exec_relays s ops
  have hi := (hs.exec ops).relays_inv
  rw [← ho, ← hp] at hi ⊢
  exact ⟨⟨(Relay.later_run _ oops).1, (Relay.later_run _ oops).2, hi.1⟩,
    (Relay.later_run _ pops).1, (Relay.later_run _ pops).2, hi.2⟩

theorem outboxes_relay_laws_from_init :
    let o : Uuid := ⟨"00000000-0000-0000-0000-00000000000a", by decide⟩
    let e₁ : Uuid := ⟨"00000000-0000-0000-0000-000000000001", by decide⟩
    let r₁ : Uuid := ⟨"00000000-0000-0000-0000-000000000003", by decide⟩
    let clean : PublishOutcomes := ⟨false, false, fun _ => .ok, fun _ => false, false, 0⟩
    let s := State.init true true
    let ops := [Op.orders (.createOrder ⟨"u", 10, "d", ""⟩ Orders.Faults.none o 0 e₁),
      .orders (.publishOnce 50 clean),
      .payments (.handleMessage ⟨o.text, .paymentRequested ⟨e₁.text, o.text, "u", 10⟩⟩ r₁ Payments.Faults.none),
      .payments (.publishOnce 50 clean)]
    Reachable s ∧
      (s.ordersRelay.outbox.Later (exec s ops).ordersRelay.outbox ∧
        s.ordersRelay.topic <+: (exec s ops).ordersRelay.topic ∧ (exec s ops).ordersRelay.Inv) ∧
      (s.paymentsRelay.outbox.Later (exec s ops).paymentsRelay.outbox ∧
        s.paymentsRelay.topic <+: (exec s ops).paymentsRelay.topic ∧ (exec s ops).paymentsRelay.Inv) :=
  ⟨.init true true, outboxes_relay_laws _ (.init true true) _⟩

end Pipeline

end PaymentsService
