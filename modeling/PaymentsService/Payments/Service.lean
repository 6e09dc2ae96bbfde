import PaymentsService.Payments.Consumer

/-!
# The Payments service as a transition system

Everything the Payments service does to its state is one of six steps: the three
RPCs, one delivery of a `PaymentRequested` record to the consumer, one pass of
the outbox publisher, and the expiry of a cache entry.  `step` is deterministic;
the scheduler's and the environment's choices — which request arrives, which
record the consumer fetched (any record, any number of times, in any order),
which round trips fail, which fresh id `uuid.NewString` returned — are the
arguments of the `Op`.

## Main definitions

* `Op`, `Reply`, `step` — one step and what the caller or the bus sees of it.
* `State.init` — an empty database, with the cache enabled or not.
* `Reachable` — the states some sequence of steps leads to from `State.init`.
* `exec` — the state after a list of steps.
* `DbStep`, `step_dbStep` — the six things a step can do to the database; every
  invariant of the store is proved against `DbStep` and never unfolds `step`.
-/

namespace PaymentsService.Payments

/-- One step of the Payments service. -/
inductive Op
  | createAccount (req : CreateAccountRequest) (f : Faults)
  | topUp (req : TopUpRequest) (f : Faults)
  | getBalance (req : GetBalanceRequest) (f : Faults)
  | handleMessage (m : KafkaMessage) (resultEventId : Uuid) (f : Faults)
  | publishOnce (batch : Nat) (oc : PublishOutcomes)
  | expireBalance (userId : String)

/-- What a step answers: the RPC reply, the handler's error for `Run`, the
records a publisher pass wrote to `payments.payment_result.v1`. -/
inductive Reply
  | account (r : Except Status Account)
  | balance (r : Except Status Int)
  | handled (r : Except TxError Unit)
  | published (written : List KafkaMessage)
  | expired

/-- **One step of the Payments service.** -/
def step (st : State) : Op → State × Reply
  | .createAccount req f => let p := createAccount f req st; (p.1, .account p.2)
  | .topUp req f => let p := topUp f req st; (p.1, .account p.2)
  | .getBalance req f => let p := getBalance f req st; (p.1, .balance p.2)
  | .handleMessage m e f => let p := handleMessage f e m st.db; (⟨p.1, st.cache⟩, .handled p.2)
  | .publishOnce batch oc =>
      let p := publishOnce batch oc st.db.outbox
      (⟨{ st.db with outbox := p.1 }, st.cache⟩, .published p.2)
  | .expireBalance u => (⟨st.db, st.cache.expire (BalanceCache.key u)⟩, .expired)

/-- The service before any request: empty tables, and an empty Redis keyspace
when a cache address is configured. -/
def State.init (cacheEnabled : Bool) : State :=
  ⟨Db.empty, if cacheEnabled then some fun _ => none else none⟩

/-- The states the service can reach. -/
inductive Reachable : State → Prop
  | init (cacheEnabled : Bool) : Reachable (State.init cacheEnabled)
  | step {st : State} (op : Op) : Reachable st → Reachable (step st op).1

/-- The state after running `ops` in order. -/
def exec (st : State) : List Op → State
  | [] => st
  | op :: ops => exec (step st op).1 ops

@[simp] theorem exec_nil (st : State) : exec st [] = st := rfl

@[simp] theorem exec_cons (st : State) (op : Op) (ops : List Op) :
    exec st (op :: ops) = exec (step st op).1 ops := rfl

theorem Reachable.exec {st : State} (h : Reachable st) :
    ∀ ops, Reachable (PaymentsService.Payments.exec st ops)
  | [] => h
  | op :: ops => (h.step op).exec ops

/-! ## What a step does to the database -/

/-- **What one step can do to the Payments database**: nothing; open an account;
credit one without a key; credit one under a fresh key and record the key; apply
the first delivery of a valid `PaymentRequested`; or, for a publisher pass,
rewrite the outbox with the same keys and payloads. -/
inductive DbStep : Db → Db → Prop
  | same (db : Db) : DbStep db db
  | openAccount {db : Db} {u : String} : db.account? u = none → DbStep db (db.insertAccount u)
  | credit {db : Db} {u : String} {amount : Int} {a : Account} :
      db.account? u = some a → 0 < amount → a.balance + amount ≤ bigintMax →
      DbStep db (db.addBalance u amount)
  | creditKeyed {db : Db} {u k : String} {amount : Int} {a : Account} :
      db.topup? u k = none → db.account? u = some a → 0 < amount → a.balance + amount ≤ bigintMax →
      DbStep db (db.recordTopup u k amount (a.balance + amount))
  | request {db : Db} {e : Uuid} {ev : PaymentRequested} {msgId orderId : Uuid} :
      uuidParse ev.eventId = some msgId → uuidParse ev.orderId = some orderId → ev.userId ≠ "" →
      0 < ev.amount → db.seen msgId = false → DbStep db (db.applyRequest e ev msgId orderId)
  | publish {db : Db} {o : Outbox} : o.messages = db.outbox.messages → DbStep db { db with outbox := o }

theorem step_dbStep (st : State) (op : Op) : DbStep st.db (step st op).1.db := by
  cases op with
  | createAccount req f =>
    rcases createAccount_cases f req st with ⟨_, h⟩ | ⟨a, -, h⟩ | ⟨-, ha, h⟩ <;>
      simp only [step, h]
    · exact .same _
    · exact .same _
    · exact .openAccount ha
  | topUp req f =>
    rcases topUp_cases f req st with ⟨_, h⟩ | ⟨-, t, -, -, h⟩ |
        ⟨-, hpos, a, ha, hmax, _, ⟨-, rfl⟩ | ⟨-, ht, rfl⟩, h⟩ <;> simp only [step, h]
    · exact .same _
    · exact .same _
    · exact .credit ha hpos hmax
    · exact .creditKeyed ht ha hpos hmax
  | getBalance req f => simpa [step] using .same _
  | handleMessage m e f =>
    rcases handleMessage_cases f e m st.db with h | ⟨ev, msgId, orderId, hv, hs, h⟩ <;>
      simp only [step, h]
    · exact .same _
    · obtain ⟨-, h1, h2, h3, h4⟩ := validRequest?_eq_some hv
      exact .request h1 h2 h3 h4 hs
  | publishOnce batch oc => exact .publish (publishOnce_messages batch oc _)
  | expireBalance u => exact .same _

end PaymentsService.Payments
