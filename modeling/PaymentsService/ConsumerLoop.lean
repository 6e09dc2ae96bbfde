import PaymentsService.Payments.Consumer
import PaymentsService.Orders.Consumer

/-!
# The consumer loops and their offsets

`PaymentRequestedConsumer.Run` and `PaymentResultConsumer.Run` are the same loop
over a `kafka.Reader`: `FetchMessage`, run the handler, `CommitMessages` on
`nil`, and on an error log and `continue`.  `FetchMessage` hands out a
partition's records in offset order and moves the reader's fetch position past
the record it returns, whatever happens to it afterwards; `CommitMessages(m)`
sets the committed offset to `m.Offset + 1`.

So a record whose handler failed is not fetched again by the reader: the next
iteration fetches the record after it, and once that one is handled, its commit
moves the committed offset past the failed one too.  The comment in both loops,
"offset НЕ коммитим => Kafka доставит снова" (the offset is not committed, so Kafka
will deliver again), does not hold of this reader.

## Main definitions

* `Partition`, `Partition.fetchMessage`, `Partition.commitMessages` — one
  partition as the reader sees it, and the two calls the loops make.
* `runLoop` — the loop both consumers run, over the handler's state;
  `PaymentRequestedConsumer.run` and `PaymentResultConsumer.run` are its two
  instances.

## Main results

* `runLoop_error`, `runLoop_committed_of_ok` — a record whose handler failed is
  left uncommitted and the loop moves on to the next one; a record handled with
  `nil` and committed sets the committed offset past itself, and with it past
  every earlier record.
* `runLoop_pos`, `runLoop_log` — the fetch position never goes back, so no record
  is fetched twice by one reader.
* `runLoop_committed` — the committed offset never goes back and never passes
  the fetch position.
* `run_skips_failed_request` — the failing input, for each loop: one partition
  with two records, the first handler call failing at `Begin`, the second
  succeeding.  The committed offset ends at `2`, past the first record, whose
  event has no inbox row, and no later fetch returns it.

## Design notes

The handler's own choices (which round trips fail, the fresh event id of a
result) and whether `CommitMessages` fails are the environment's, one `Turn`
per iteration.  A failed commit makes `Run` return its error, which ends the
loop; `FetchMessage` on a partition with no record at the fetch position blocks,
which ends the run as well.
-/

namespace PaymentsService

/-- One partition of a topic as a consumer group's `kafka.Reader` sees it: its
records in offset order (the record at offset `i` is `log[i]`), the reader's fetch
position, and the group's committed offset. -/
structure Partition where
  log : List KafkaMessage
  pos : Nat
  committed : Nat
deriving DecidableEq, Repr

/-- `FetchMessage`: the record at the fetch position and its offset, with the
position moved past it; `none` while there is no record there (the call blocks). -/
def Partition.fetchMessage (p : Partition) : Option (KafkaMessage × Nat × Partition) :=
  (p.log.get? p.pos).map fun m => (m, p.pos, { p with pos := p.pos + 1 })

/-- `CommitMessages(m)` for the record at `offset`: the committed offset becomes
`offset + 1`. -/
def Partition.commitMessages (p : Partition) (offset : Nat) : Partition := { p with committed := offset + 1 }

/-- What the environment decides for one iteration of a loop: the handler's own
choices, and whether `CommitMessages` fails. -/
structure Turn (ε : Type) where
  env : ε
  commitFails : Bool

section Loop

variable {σ ε : Type} (handle : ε → KafkaMessage → σ → σ × Except TxError Unit)

/-- **The loop of `Run`**: fetch a record, hand it to the handler, commit it when
the handler returned `nil`, and `continue` without committing when it returned
an error.  It ends when the fetch blocks or a commit fails. -/
def runLoop : List (Turn ε) → Partition → σ → Partition × σ
  | [], p, s => (p, s)
  | t :: ts, p, s =>
    match p.fetchMessage with
    | none => (p, s)
    | some (m, offset, p') =>
      match handle t.env m s with
      | (s', .error _) => runLoop ts p' s'
      | (s', .ok ()) => if t.commitFails then (p', s') else runLoop ts (p'.commitMessages offset) s'

variable {handle} {t : Turn ε} {ts : List (Turn ε)} {p : Partition} {s s' : σ} {m : KafkaMessage}

theorem runLoop_blocked (hm : p.log.get? p.pos = none) : runLoop handle (t :: ts) p s = (p, s) := by
  simp only [runLoop, Partition.fetchMessage, hm, Option.map_none']

/-- A record whose handler returned an error is not committed, and the loop goes
on from the record after it. -/
theorem runLoop_error {e : TxError} (hm : p.log.get? p.pos = some m) (herr : handle t.env m s = (s', .error e)) :
    runLoop handle (t :: ts) p s = runLoop handle ts { p with pos := p.pos + 1 } s' := by
  simp only [runLoop, Partition.fetchMessage, hm, Option.map_some', herr]

theorem runLoop_ok (hm : p.log.get? p.pos = some m) (hok : handle t.env m s = (s', .ok ())) :
    runLoop handle (t :: ts) p s = if t.commitFails then ({ p with pos := p.pos + 1 }, s')
      else runLoop handle ts { p with pos := p.pos + 1, committed := p.pos + 1 } s' := by
  simp only [runLoop, Partition.fetchMessage, hm, Option.map_some', hok]
  rfl

/-- **A record handled with `nil` and committed moves the committed offset past
itself**, and so past every record before it, whatever their handlers returned. -/
theorem runLoop_committed_of_ok (hm : p.log.get? p.pos = some m) (hok : handle t.env m s = (s', .ok ()))
    (hc : t.commitFails = false) :
    runLoop handle (t :: ts) p s = runLoop handle ts { p with pos := p.pos + 1, committed := p.pos + 1 } s' := by
  rw [runLoop_ok hm hok, hc]
  rfl

variable (handle)

/-- **The reader's records never change, and its fetch position never goes back.** -/
theorem runLoop_pos : ∀ (ts : List (Turn ε)) (p : Partition) (s : σ),
    (runLoop handle ts p s).1.log = p.log ∧ p.pos ≤ (runLoop handle ts p s).1.pos
  | [], _, _ => ⟨rfl, le_refl _⟩
  | t :: ts, p, s => by
    cases hm : p.log.get? p.pos with
    | none => rw [runLoop_blocked hm]; exact ⟨rfl, le_refl _⟩
    | some m =>
      rcases h : handle t.env m s with ⟨s', _ | ⟨⟩⟩
      · rw [runLoop_error hm h]
        obtain ⟨h1, h2⟩ := runLoop_pos ts { p with pos := p.pos + 1 } s'
        exact ⟨h1, by simp only at h2; omega⟩
      · rw [runLoop_ok hm h]
        split
        · exact ⟨rfl, by simp⟩
        · obtain ⟨h1, h2⟩ := runLoop_pos ts { p with pos := p.pos + 1, committed := p.pos + 1 } s'
          exact ⟨h1, by simp only at h2; omega⟩

theorem runLoop_log (ts : List (Turn ε)) (p : Partition) (s : σ) : (runLoop handle ts p s).1.log = p.log :=
  (runLoop_pos handle ts p s).1

/-- **The committed offset only moves forward, and never past the fetch
position.**  A reader that resumes at its committed offset keeps every commit
behind what it has fetched, whatever the handler returns: `Run` never commits a
record it has not fetched. -/
theorem runLoop_committed : ∀ (ts : List (Turn ε)) (p : Partition) (s : σ), p.committed ≤ p.pos →
    p.committed ≤ (runLoop handle ts p s).1.committed ∧
      (runLoop handle ts p s).1.committed ≤ (runLoop handle ts p s).1.pos
  | [], _, _, h => ⟨le_refl _, h⟩
  | t :: ts, p, s, h => by
    cases hm : p.log.get? p.pos with
    | none => rw [runLoop_blocked hm]; exact ⟨le_refl _, h⟩
    | some m =>
      rcases hh : handle t.env m s with ⟨s', _ | ⟨⟩⟩
      · rw [runLoop_error hm hh]
        exact runLoop_committed ts { p with pos := p.pos + 1 } s' (by simp only; omega)
      · rw [runLoop_ok hm hh]
        split
        · exact ⟨le_refl _, by simp only; omega⟩
        · obtain ⟨h1, h2⟩ := runLoop_committed ts { p with pos := p.pos + 1, committed := p.pos + 1 } s'
            (le_refl _)
          exact ⟨by simp only at h1; omega, h2⟩

theorem runLoop_committed_fresh_reader :
    let e₁ : Uuid := ⟨"00000000-0000-0000-0000-000000000001", by decide⟩
    let m₀ : KafkaMessage := ⟨"00000000-0000-0000-0000-00000000000a",
      .paymentRequested ⟨"00000000-0000-0000-0000-000000000010", "00000000-0000-0000-0000-00000000000a", "u", 10⟩⟩
    let m₁ : KafkaMessage := ⟨"00000000-0000-0000-0000-00000000000b",
      .paymentRequested ⟨"00000000-0000-0000-0000-000000000011", "00000000-0000-0000-0000-00000000000b", "u", 20⟩⟩
    let p : Partition := ⟨[m₀, m₁], 0, 0⟩
    let r := runLoop (fun (e : Payments.Faults × Uuid) m db => Payments.handleMessage e.1 e.2 m db)
      [⟨(fun c => c = .begin, e₁), false⟩, ⟨(Payments.Faults.none, e₁), false⟩] p Payments.Db.empty
    p.committed ≤ p.pos ∧ p.committed ≤ r.1.committed ∧ r.1.committed ≤ r.1.pos :=
  ⟨le_refl 0, runLoop_committed _ _ _ _ (le_refl 0)⟩

end Loop

/-! ## The two loops -/

/-- **`PaymentRequestedConsumer.Run`**: each turn chooses the handler's faults and
the fresh id of the result event. -/
def Payments.PaymentRequestedConsumer.run (ts : List (Turn (Payments.Faults × Uuid))) (p : Partition)
    (db : Payments.Db) : Partition × Payments.Db :=
  runLoop (fun e m db => Payments.handleMessage e.1 e.2 m db) ts p db

/-- **`PaymentResultConsumer.Run`**: each turn chooses the handler's faults. -/
def Orders.PaymentResultConsumer.run (ts : List (Turn Orders.Faults)) (p : Partition) (db : Orders.Db) :
    Partition × Orders.Db :=
  runLoop (fun f m db => Orders.handleMessage f m db) ts p db

/-! ## The failing input -/

/-- **A transient failure skips a record for good.**  One partition holds two
`PaymentRequested` records at offsets `0` and `1`.  The first handler call fails
at `Begin` and returns an error; `Run` continues; the second succeeds and is
committed.  The committed offset is then `2`, past the first record, whose event
never reached the inbox; the fetch position is `2` as well, and no continuation
of the loop fetches offset `0` again.  `PaymentResultConsumer.Run` does the same
with two `PaymentResult` records. -/
theorem run_skips_failed_request :
    let e₁ : Uuid := ⟨"00000000-0000-0000-0000-000000000001", by decide⟩
    let m₀ : KafkaMessage := ⟨"00000000-0000-0000-0000-00000000000a",
      .paymentRequested ⟨"00000000-0000-0000-0000-000000000010", "00000000-0000-0000-0000-00000000000a", "u", 10⟩⟩
    let m₁ : KafkaMessage := ⟨"00000000-0000-0000-0000-00000000000b",
      .paymentRequested ⟨"00000000-0000-0000-0000-000000000011", "00000000-0000-0000-0000-00000000000b", "u", 20⟩⟩
    let beginFails : Payments.Faults := fun c => c = .begin
    let r := Payments.PaymentRequestedConsumer.run [⟨(beginFails, e₁), false⟩, ⟨(Payments.Faults.none, e₁), false⟩]
      ⟨[m₀, m₁], 0, 0⟩ Payments.Db.empty
    let n₀ : KafkaMessage := ⟨"00000000-0000-0000-0000-00000000000a",
      .paymentResult ⟨"00000000-0000-0000-0000-000000000020", "00000000-0000-0000-0000-00000000000a", "u",
        .success, ""⟩⟩
    let n₁ : KafkaMessage := ⟨"00000000-0000-0000-0000-00000000000b",
      .paymentResult ⟨"00000000-0000-0000-0000-000000000021", "00000000-0000-0000-0000-00000000000b", "u",
        .success, ""⟩⟩
    let r' := Orders.PaymentResultConsumer.run [⟨fun c => c = .begin, false⟩, ⟨Orders.Faults.none, false⟩]
      ⟨[n₀, n₁], 0, 0⟩ Orders.Db.empty
    r.1.committed = 2 ∧ r.1.pos = 2 ∧
    r.2.inbox.map (·.messageId.text) = ["00000000-0000-0000-0000-000000000011"] ∧
    (∀ ts db, 2 ≤ (Payments.PaymentRequestedConsumer.run ts r.1 db).1.pos) ∧
    r'.1.committed = 2 ∧ r'.2.inbox.map (·.text) = ["00000000-0000-0000-0000-000000000021"] ∧
    ∀ ts db, 2 ≤ (Orders.PaymentResultConsumer.run ts r'.1 db).1.pos := by
  intro _ _ _ _ r _ _ r'
  exact ⟨rfl, rfl, rfl, fun ts db => (runLoop_pos _ ts r.1 db).2, rfl, rfl,
    fun ts db => (runLoop_pos _ ts r'.1 db).2⟩

end PaymentsService
