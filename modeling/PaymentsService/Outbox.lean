import PaymentsService.Basic

/-!
# The transactional outbox and its publisher

Each service appends the events it emits to an `outbox` table inside the
business transaction, and a background `OutboxPublisher` forwards the unsent
rows to the bus.  One pass, `publishOnce`, opens a transaction, locks the oldest
`batch` unsent rows, writes each to Kafka and marks it sent, or records the failed
attempt and moves on.

## Main definitions

* `Outbox` and its queries `insertOutbox`, `lockUnsentOutbox`, `markOutboxSent`,
  `markOutboxAttemptFailed`.  Their SQL is not among the sources; they follow the
  spec's description of the table (§4.1, §6).
* `publishRows`, `publishOnce` — `OutboxPublisher.publishOnce`, row loop included.
* `PublishOutcomes.clean`, `Outbox.markSentAll` — a pass in which nothing fails,
  and what it does to the table.

## Main results

* `publishOnce_messages`, `mem_publishOnce_written` — what a pass cannot do.
* `publishOnce_clean` — a clean pass in closed form: it marks the locked rows sent
  and writes their messages in order, when the batch size fits an `int32`.

## Design notes

**Kafka writes are not transactional.**  A message `WriteMessages` stored stays on
the topic whether or not the pass commits, and a write that reports an error may
still have been stored by the broker (`WriteResult.failed` carries which).

**An ignored error still aborts the transaction.**  `publishOnce` discards the
error of `MarkOutboxAttemptFailed`, but Postgres has already put the transaction
in the failed state: every later statement of the pass fails and its `COMMIT`
turns into a rollback.  `publishRows` threads that flag.

**What the rest of the development needs.**  A pass never removes a row and never
changes a row's key or payload (`publishOnce_messages`), and everything it writes
to the topic is the message of a row (`mem_publishOnce_written`).  The invariants
of both services read the outbox only through `Outbox.messages`, so a pass is
invisible to them.
-/

namespace PaymentsService

/-- An `outbox` row.  `topic` and `created_at` are written but never read back
(the writer carries the topic), so they are left out. -/
structure OutboxRow where
  id : Nat
  kafkaKey : String
  payload : Payload
  sentAt : Option Nat
  attempts : Nat
  lastError : Option String
deriving DecidableEq, Repr

/-- The record a row becomes on the topic: `kafka.Message{Key, Value}`. -/
def OutboxRow.message (r : OutboxRow) : KafkaMessage := ⟨r.kafkaKey, r.payload⟩

/-- The `outbox` table in `id` order, with the next value of its `bigserial`. -/
structure Outbox where
  rows : List OutboxRow
  nextId : Nat
deriving DecidableEq, Repr

namespace Outbox

/-- The empty table. -/
def empty : Outbox := ⟨[], 1⟩

/-- The key and payload of every row, in `id` order. -/
def messages (o : Outbox) : List KafkaMessage := o.rows.map OutboxRow.message

/-- Modelled from the spec: `InsertOutbox` appends an unsent row under the next id. -/
def insertOutbox (kafkaKey : String) (payload : Payload) (o : Outbox) : Nat × Outbox :=
  (o.nextId, ⟨o.rows ++ [⟨o.nextId, kafkaKey, payload, none, 0, none⟩], o.nextId + 1⟩)

@[simp] theorem messages_insertOutbox (k : String) (p : Payload) (o : Outbox) :
    (o.insertOutbox k p).2.messages = o.messages ++ [⟨k, p⟩] := by
  simp [insertOutbox, messages, OutboxRow.message]

@[simp] theorem messages_empty : empty.messages = [] := rfl

/-- Modelled from the spec: `LockUnsentOutbox` returns the oldest `limit` rows with
`sent_at IS NULL` (`FOR UPDATE SKIP LOCKED` skips nothing once transactions are
atomic). -/
def lockUnsentOutbox (limit : Nat) (o : Outbox) : List OutboxRow :=
  (o.rows.filter fun r => r.sentAt.isNone).take limit

theorem mem_rows_of_mem_lockUnsentOutbox {limit : Nat} {o : Outbox} {r : OutboxRow}
    (h : r ∈ o.lockUnsentOutbox limit) : r ∈ o.rows :=
  (List.mem_filter.1 (List.mem_of_mem_take h)).1

/-- Modelled from the spec: `MarkOutboxSent` sets `sent_at = now()` on the row `id`. -/
def markOutboxSent (id now : Nat) (o : Outbox) : Outbox :=
  { o with rows := o.rows.map fun r => if r.id = id then { r with sentAt := some now } else r }

/-- Modelled from the spec: `MarkOutboxAttemptFailed` records one more attempt and
the error text on the row `id`. -/
def markOutboxAttemptFailed (id : Nat) (lastError : String) (o : Outbox) : Outbox :=
  { o with rows := o.rows.map fun r =>
      if r.id = id then { r with attempts := r.attempts + 1, lastError := some lastError } else r }

@[simp] theorem messages_markOutboxSent (id now : Nat) (o : Outbox) :
    (o.markOutboxSent id now).messages = o.messages := by
  simp only [markOutboxSent, messages, List.map_map]
  congr 1
  funext r
  by_cases h : r.id = id <;> simp [h, OutboxRow.message]

@[simp] theorem messages_markOutboxAttemptFailed (id : Nat) (e : String) (o : Outbox) :
    (o.markOutboxAttemptFailed id e).messages = o.messages := by
  simp only [markOutboxAttemptFailed, messages, List.map_map]
  congr 1
  funext r
  by_cases h : r.id = id <;> simp [h, OutboxRow.message]

end Outbox

/-! ## The publisher -/

/-- What `w.WriteMessages` reported for one row.  A reported failure may still have
left the message on the topic (`stored`), as with a timeout after the broker's ack. -/
inductive WriteResult
  | ok
  | failed (err : String) (stored : Bool)
deriving DecidableEq, Repr

/-- Whether the write put the message on the topic. -/
def WriteResult.stored : WriteResult → Bool
  | .ok => true
  | .failed _ s => s

/-- The environment's choices for one pass: which round trips fail, what each
row's write reports (by row id), and the clock. -/
structure PublishOutcomes where
  beginFails : Bool
  lockFails : Bool
  write : Nat → WriteResult
  markFails : Nat → Bool
  commitFails : Bool
  now : Nat

/-- **The row loop of `publishOnce`.**  It threads the outbox as the transaction
sees it and whether the transaction is aborted, and returns, besides the
closure's result, the messages that reached the topic. -/
def publishRows (oc : PublishOutcomes) :
    List OutboxRow → Outbox → Bool → Except TxError (Outbox × Bool) × List KafkaMessage
  | [], o, aborted => (.ok (o, aborted), [])
  | r :: rows, o, aborted =>
      let w := oc.write r.id
      let out := if w.stored then [r.message] else []
      match w with
      | .failed err _ =>
          -- `_ = q.MarkOutboxAttemptFailed(...)`: the error is dropped, the abort is not
          let (o', aborted') :=
            if aborted || oc.markFails r.id then (o, true)
            else (o.markOutboxAttemptFailed r.id err, aborted)
          let rest := publishRows oc rows o' aborted'
          (rest.1, out ++ rest.2)
      | .ok =>
          if aborted || oc.markFails r.id then (.error (.db .failed), out)
          else
            let rest := publishRows oc rows (o.markOutboxSent r.id oc.now) aborted
            (rest.1, out ++ rest.2)

/-- The commit at the end of a pass: the closure's outbox when it returned `nil`,
the transaction is not aborted and `COMMIT` succeeds; the old one otherwise. -/
def commitPass (oc : PublishOutcomes) (res : Except TxError (Outbox × Bool)) (o : Outbox) : Outbox :=
  match res with
  | .ok (o', aborted) => if aborted || oc.commitFails then o else o'
  | .error _ => o

/-- **`OutboxPublisher.publishOnce`**: the outbox it leaves committed and the
messages it wrote.  The batch size reaches `LockUnsentOutbox` as `int32(p.batch)`;
Postgres refuses a negative `LIMIT`, so the lock fails and the pass commits
nothing.  An empty batch returns `nil` and commits nothing. -/
def publishOnce (batch : Nat) (oc : PublishOutcomes) (o : Outbox) : Outbox × List KafkaMessage :=
  if oc.beginFails || oc.lockFails || decide (toInt32 batch < 0) ||
      (o.lockUnsentOutbox (toInt32 batch).toNat).isEmpty then (o, []) else
    let pass := publishRows oc (o.lockUnsentOutbox (toInt32 batch).toNat) o false
    (commitPass oc pass.1 o, pass.2)

/-! ## What a pass cannot do -/

theorem publishRows_messages (oc : PublishOutcomes) :
    ∀ (rows : List OutboxRow) (o : Outbox) (aborted : Bool) {o' : Outbox} {a : Bool},
      (publishRows oc rows o aborted).1 = .ok (o', a) → o'.messages = o.messages
  | [], o, aborted, o', a, h => by
      simp only [publishRows, Except.ok.injEq, Prod.mk.injEq] at h
      rw [h.1]
  | r :: rows, o, aborted, o', a, h => by
      simp only [publishRows] at h
      split at h
      · split at h
        · exact publishRows_messages oc rows _ _ h
        · rw [publishRows_messages oc rows _ _ h]; simp
      · split at h
        · cases h
        · rw [publishRows_messages oc rows _ _ h]; simp

theorem publishRows_written (oc : PublishOutcomes) :
    ∀ (rows : List OutboxRow) (o : Outbox) (aborted : Bool),
      ∀ m ∈ (publishRows oc rows o aborted).2, m ∈ rows.map OutboxRow.message
  | [], o, aborted, m, h => by simp [publishRows] at h
  | r :: rows, o, aborted, m, h => by
      simp only [publishRows] at h
      have tail : ∀ o a, m ∈ (publishRows oc rows o a).2 → m ∈ (r :: rows).map OutboxRow.message :=
        fun o a hm => List.mem_cons_of_mem _ (publishRows_written oc rows o a m hm)
      have head : m ∈ (if (oc.write r.id).stored then [r.message] else []) →
          m ∈ (r :: rows).map OutboxRow.message := by
        split <;> simp_all
      split at h
      · exact (List.mem_append.1 h).elim head (tail _ _)
      · split at h
        · exact head h
        · exact (List.mem_append.1 h).elim head (tail _ _)

/-- **A pass does nothing, or runs the row loop over the rows it locked** and
commits what the loop leaves. -/
theorem publishOnce_cases (batch : Nat) (oc : PublishOutcomes) (o : Outbox) :
    publishOnce batch oc o = (o, []) ∨ ∃ rows, rows = o.lockUnsentOutbox (toInt32 batch).toNat ∧
      publishOnce batch oc o = (commitPass oc (publishRows oc rows o false).1 o, (publishRows oc rows o false).2) := by
  unfold publishOnce
  by_cases hc : (oc.beginFails || oc.lockFails || decide (toInt32 batch < 0) ||
      (o.lockUnsentOutbox (toInt32 batch).toNat).isEmpty) = true
  exacts [.inl (if_pos hc), .inr ⟨_, rfl, if_neg hc⟩]

/-- **A pass keeps every row's key and payload.**  It only touches `sent_at`,
`attempts` and `last_error`, and never deletes. -/
theorem publishOnce_messages (batch : Nat) (oc : PublishOutcomes) (o : Outbox) :
    (publishOnce batch oc o).1.messages = o.messages := by
  rcases publishOnce_cases batch oc o with h | ⟨rows, -, h⟩ <;> rw [h]
  dsimp only [commitPass]
  split
  · split
    · rfl
    · exact publishRows_messages oc _ o false ‹_›
  · rfl

/-- **A pass writes only messages of rows.** -/
theorem mem_publishOnce_written {batch : Nat} {oc : PublishOutcomes} {o : Outbox}
    {m : KafkaMessage} (h : m ∈ (publishOnce batch oc o).2) : m ∈ o.messages := by
  rcases publishOnce_cases batch oc o with h' | ⟨rows, hrows, h'⟩ <;> rw [h'] at h
  · cases h
  · obtain ⟨r, hr, rfl⟩ := List.mem_map.1 (publishRows_written oc rows o false m h)
    exact List.mem_map_of_mem _ (Outbox.mem_rows_of_mem_lockUnsentOutbox (hrows ▸ hr))

/-! ## A pass in which nothing fails -/

/-- The outcomes of a pass in which every round trip and every write succeeds. -/
def PublishOutcomes.clean (now : Nat) : PublishOutcomes :=
  ⟨false, false, fun _ => .ok, fun _ => false, false, now⟩

/-- The table after `MarkOutboxSent id now` for every `id` of `ids`.  Not a query of
the source: the closed form of a clean row loop. -/
def Outbox.markSentAll (ids : List Nat) (now : Nat) (o : Outbox) : Outbox :=
  { o with rows := o.rows.map fun r => if r.id ∈ ids then { r with sentAt := some now } else r }

theorem Outbox.markSentAll_nil (now : Nat) (o : Outbox) : o.markSentAll [] now = o := by
  simp [Outbox.markSentAll]

theorem Outbox.markSentAll_markOutboxSent (id now : Nat) (ids : List Nat) (o : Outbox) :
    (o.markOutboxSent id now).markSentAll ids now = o.markSentAll (id :: ids) now := by
  simp only [Outbox.markSentAll, Outbox.markOutboxSent, List.map_map, Outbox.mk.injEq, and_true]
  congr 1
  funext r
  by_cases h : r.id = id <;> by_cases h' : r.id ∈ ids <;> simp [h, h']

/-- **The clean row loop** marks every row it is given and writes every row's message. -/
theorem publishRows_clean (now : Nat) :
    ∀ (rows : List OutboxRow) (o : Outbox), publishRows (.clean now) rows o false =
      (.ok (o.markSentAll (rows.map (·.id)) now, false), rows.map OutboxRow.message)
  | [], o => by simp [publishRows, Outbox.markSentAll_nil]
  | r :: rows, o => by
      have ih := publishRows_clean now rows (o.markOutboxSent r.id now)
      simp only [PublishOutcomes.clean] at ih ⊢
      simp [publishRows, WriteResult.stored, ih, Outbox.markSentAll_markOutboxSent]

/-- **Closed form of a clean pass** whose batch size fits an `int32`: the locked rows
are marked sent, and their messages are written in order. -/
theorem publishOnce_clean {batch : Nat} (hb : batch < 2 ^ 31) (now : Nat) (o : Outbox) :
    publishOnce batch (.clean now) o =
      (o.markSentAll ((o.lockUnsentOutbox batch).map (·.id)) now,
        (o.lockUnsentOutbox batch).map OutboxRow.message) := by
  have hl : toInt32 batch = batch := toInt32_of_lt (by omega) (by omega)
  unfold publishOnce
  rw [hl, Int.toNat_ofNat]
  by_cases he : o.lockUnsentOutbox batch = []
  · rw [if_pos (by simp [he])]
    simp [he, Outbox.markSentAll_nil]
  · rw [if_neg (by simp [PublishOutcomes.clean, he, show ¬(batch : Int) < 0 by omega]), publishRows_clean]
    simp [commitPass, PublishOutcomes.clean]

end PaymentsService
