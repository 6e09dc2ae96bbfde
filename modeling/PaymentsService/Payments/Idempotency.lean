import PaymentsService.Payments.Inbox

/-!
# Keyed top-ups

`TopUp` with a key `k` runs one transaction that first inserts the
`topup_idempotency` row `(u, k)` with `balance_after = 0`, and either credits the
account and writes the balance it produced into the row, or — when the row was
already there — answers from it.  Because the transaction commits or rolls back
as a whole, the placeholder `0` is never seen outside it, and the row, once
committed, is never changed again: it holds the amount and the balance of the one
call that credited.

## Main results

* `TopupInv` — every committed row holds a positive amount and a balance at least
  that amount; kept by every `DbStep` while no balance is negative.
* `topup?_dbStep` — a committed row is never changed or removed.
* `topUp_of_topup?`, `topUp_none_of_topup?` — a call on a recorded key changes
  nothing; it answers the recorded balance when its amount is the recorded one,
  and is refused otherwise.
* `topUp_of_topup?_none`, `topUp_none_of_account?` — a call on a fresh key either
  fails with nothing changed or credits and records the key.
* `topUp_error_state` — a call that fails changes nothing, unless the reply of
  its commit was lost after the commit.
* `topUp_same_key_credits_once` — at most one credit per key over every run, and
  what every later call on the key answers.

## Design notes

A replay answers the stored balance for the stored amount and
`FailedPrecondition` for another only when its round trips succeed and its
amount passes validation.  A non-positive amount is refused with
`InvalidArgument` before the key is read (`topUp_zero_on_recorded_key`), and a
failing round trip turns either outcome into `Internal`; neither changes state.

A call on a fresh key whose `COMMIT` reply is lost answers `Internal` although
its credit and its row are committed.  A retry then finds the row and replays it.
-/

namespace PaymentsService.Payments

/-! ## Committed rows -/

/-- The shape of every committed `topup_idempotency` row. -/
def TopupInv (db : Db) : Prop := ∀ t ∈ db.topupIdempotency, 0 < t.amount ∧ t.amount ≤ t.balanceAfter

theorem topup?_of_topupIdempotency_eq {db db' : Db} (h : db'.topupIdempotency = db.topupIdempotency)
    (u k : String) : db'.topup? u k = db.topup? u k := by
  unfold Db.topup?; rw [h]

/-- **A committed row is never changed or removed.** -/
theorem topup?_dbStep {db db' : Db} {u k : String} {t : TopupIdempotency} (h : DbStep db db')
    (ht : db.topup? u k = some t) : db'.topup? u k = some t := by
  cases h with
  | creditKeyed =>
    simp only [Db.topup?, Db.recordTopup, List.find?_append] at ht ⊢
    rw [ht]; rfl
  | request => rwa [topup?_of_topupIdempotency_eq (applyRequest_topupIdempotency _ _ _ _ _)]
  | _ => exact ht

theorem topupInv_dbStep {db db' : Db} (ha : AccountsInv db) (hi : TopupInv db) (h : DbStep db db') :
    TopupInv db' := by
  cases h with
  | creditKeyed _ hacc hpos _ =>
    intro t ht
    rcases List.mem_append.1 ht with ht | ht
    · exact hi t ht
    · have := ha.nonneg _ (List.mem_of_find?_eq_some hacc)
      simp only [List.mem_singleton] at ht
      subst ht
      exact ⟨hpos, by simp only; omega⟩
  | request => intro t ht; exact hi t (by simpa using ht)
  | _ => exact hi

theorem Reachable.topupInv {st : State} (h : Reachable st) : TopupInv st.db := by
  induction h with
  | init => intro t ht; cases ht
  | step op hr ih => exact topupInv_dbStep hr.accountsInv ih (step_dbStep _ op)

theorem topup?_exec {st : State} {u k : String} {t : TopupIdempotency} (ht : st.db.topup? u k = some t) :
    ∀ ops, (exec st ops).db.topup? u k = some t
  | [] => ht
  | op :: ops => topup?_exec (topup?_dbStep (step_dbStep st op) ht) ops

/-! ## One call -/

section Call

variable {f : Faults} {req : TopUpRequest} {st : State}

/-- **A `TopUp` that fails changes nothing**, unless the reply of its commit was
lost: then it has committed the credit — and, under a fresh key, the key's row —
and answers `Internal`. -/
theorem topUp_error_state {s : Status} (h : (topUp f req st).2 = .error s) :
    (topUp f req st).1 = st ∨ f .commitAck = true ∧ s = ⟨.internal, "failed to top up"⟩ ∧
      ∃ a, st.db.account? req.userId = some a ∧
        ((req.idempotencyKey = "" ∧ (topUp f req st).1 = ⟨st.db.addBalance req.userId req.amount, st.cache⟩) ∨
          (req.idempotencyKey ≠ "" ∧ st.db.topup? req.userId req.idempotencyKey = none ∧
            (topUp f req st).1 = ⟨st.db.recordTopup req.userId req.idempotencyKey req.amount
              (a.balance + req.amount), st.cache⟩)) := by
  rcases topUp_cases f req st with ⟨_, h'⟩ | ⟨-, _, -, -, h'⟩ | ⟨-, -, a, ha, -, _, hdb, h'⟩ <;>
    rw [h'] at h ⊢
  · exact .inl rfl
  · exact .inl rfl
  · cases hc : f .commitAck
    · simp [hc] at h
    · simp only [hc, if_true, Except.error.injEq] at h
      refine .inr ⟨rfl, h.symm, a, ha, ?_⟩
      rcases hdb with ⟨hk, rfl⟩ | ⟨hk, ht, rfl⟩
      exacts [.inl ⟨hk, rfl⟩, .inr ⟨hk, ht, rfl⟩]

/-- **A call on a recorded key replays it**: it changes nothing, and it succeeds
only with the recorded amount, answering with the recorded balance. -/
theorem topUp_of_topup? {t : TopupIdempotency} (hk : req.idempotencyKey ≠ "")
    (ht : st.db.topup? req.userId req.idempotencyKey = some t) :
    (topUp f req st).1 = st ∧
      ∀ acc, (topUp f req st).2 = .ok acc → req.amount = t.amount ∧ acc = ⟨req.userId, t.balanceAfter⟩ := by
  rcases topUp_cases f req st with ⟨_, h⟩ | ⟨-, t', ht', hamt, h⟩ |
      ⟨-, -, _, -, -, _, ⟨hk', -⟩ | ⟨-, ht', -⟩, -⟩
  · rw [h]; exact ⟨rfl, fun _ h => by cases h⟩
  · rw [ht] at ht'; cases ht'
    rw [h]
    refine ⟨rfl, fun _ h => ?_⟩
    split at h
    · cases h
    · cases h; exact ⟨hamt.symm, rfl⟩
  · exact absurd hk' hk
  · rw [ht] at ht'; cases ht'

/-- **With no round trip failing, a recorded key answers or refuses**: a valid
call with the recorded amount gets the recorded balance, one with another amount
`FailedPrecondition`. -/
theorem topUp_none_of_topup? {t : TopupIdempotency} (hu : req.userId ≠ "") (hpos : 0 < req.amount)
    (hk : req.idempotencyKey ≠ "") (ht : st.db.topup? req.userId req.idempotencyKey = some t) :
    (topUp Faults.none req st).2 = if req.amount = t.amount then .ok ⟨req.userId, t.balanceAfter⟩
      else .error ⟨.failedPrecondition, "idempotency key reuse with different parameters"⟩ := by
  have hp : ¬req.amount ≤ 0 := by omega
  by_cases ha : req.amount = t.amount
  · simp [topUp, topUpTx, withTx, Faults.none, hu, hp, hk, ht, ha.symm, Queries.insertTopupIdempotency,
      Queries.getTopupIdempotency]
  · simp [topUp, topUpTx, withTx, Faults.none, hu, hp, hk, ht, ha, Ne.symm ha, Queries.insertTopupIdempotency,
      Queries.getTopupIdempotency, TxError.status?]

/-- **A call on a fresh key** fails with nothing changed, or credits the account
and records the key with the balance it answers. -/
theorem topUp_of_topup?_none (hk : req.idempotencyKey ≠ "")
    (ht : st.db.topup? req.userId req.idempotencyKey = none) :
    ∀ acc, (topUp f req st).2 = .ok acc → ∃ a, st.db.account? req.userId = some a ∧ 0 < req.amount ∧
      acc = ⟨req.userId, a.balance + req.amount⟩ ∧
      (topUp f req st).1.db = st.db.recordTopup req.userId req.idempotencyKey req.amount acc.balance := by
  intro acc hacc
  rcases topUp_cases f req st with ⟨_, h⟩ | ⟨-, t', ht', -, -⟩ |
      ⟨-, hpos, a, ha, -, _, ⟨hk', -⟩ | ⟨-, -, rfl⟩, h⟩
  · rw [h] at hacc; cases hacc
  · rw [ht] at ht'; cases ht'
  · exact absurd hk' hk
  · rw [h] at hacc ⊢
    split at hacc
    · cases hacc
    · cases hacc; exact ⟨a, ha, hpos, rfl, rfl⟩

/-- With no round trip failing, a valid call on a fresh key of an existing
account credits it. -/
theorem topUp_none_of_account? {a : Account} (hu : req.userId ≠ "") (hpos : 0 < req.amount)
    (hk : req.idempotencyKey ≠ "") (ht : st.db.topup? req.userId req.idempotencyKey = none)
    (ha : st.db.account? req.userId = some a) (hmax : a.balance + req.amount ≤ bigintMax) :
    (topUp Faults.none req st).2 = .ok ⟨req.userId, a.balance + req.amount⟩ := by
  have hp : ¬req.amount ≤ 0 := by omega
  have hm : ¬bigintMax < a.balance + req.amount := by omega
  simp [topUp, topUpTx, withTx, Faults.none, hu, hp, hk, ht, ha, hm, Queries.insertTopupIdempotency,
    Queries.topUp, Queries.setTopupIdempotencyBalance, Db.addBalance, Db.topup?_insert_of_none ht]

end Call

/-! ## Over a run -/

/-- **A key credits at most once, and is then only replayed.**  Fix a user `u`
and a key `k`.  Along any run from an empty store the row `(u, k)` is committed at
most once.  Once committed it is never changed; its balance is positive, so the
placeholder `0` is never answered; every later call on `(u, k)` changes nothing and
succeeds only with the recorded amount, answering with the recorded balance; with
no round trip failing a valid call answers so, or is refused with
`FailedPrecondition` when its amount differs.  While no row is committed, a call
that fails changes nothing — in particular it leaves no row — unless the reply of
its commit was lost, when it has credited the account and committed the row just
as a success does; one that succeeds credits the account and commits the row with
the positive balance it answers; with no round trip failing, a valid call on an
existing account does so. -/
theorem topUp_same_key_credits_once (cacheEnabled : Bool) (ops : List Op) (u k : String) (hk : k ≠ "") :
    let st := exec (State.init cacheEnabled) ops
    flipCount (fun st op => (step st op).1) (fun st => (st.db.topup? u k).isSome)
      (State.init cacheEnabled) ops ≤ 1 ∧
    (∀ t, st.db.topup? u k = some t → 0 < t.balanceAfter ∧
      (∀ ops', (exec st ops').db.topup? u k = some t) ∧
      ∀ f amount, let r := topUp f ⟨u, amount, k⟩ st
        r.1 = st ∧ (∀ acc, r.2 = .ok acc → amount = t.amount ∧ acc = ⟨u, t.balanceAfter⟩) ∧
        (f = Faults.none → u ≠ "" → 0 < amount →
          r.2 = if amount = t.amount then .ok ⟨u, t.balanceAfter⟩
            else .error ⟨.failedPrecondition, "idempotency key reuse with different parameters"⟩)) ∧
    (st.db.topup? u k = none → ∀ f amount, let r := topUp f ⟨u, amount, k⟩ st
      (∀ s, r.2 = .error s → r.1 = st ∨ f .commitAck = true ∧ s = ⟨.internal, "failed to top up"⟩ ∧
        ∃ a, st.db.account? u = some a ∧ r.1.db = st.db.recordTopup u k amount (a.balance + amount)) ∧
      (∀ acc, r.2 = .ok acc → ∃ a, st.db.account? u = some a ∧ acc = ⟨u, a.balance + amount⟩ ∧
        0 < acc.balance ∧ r.1.db = st.db.recordTopup u k amount acc.balance) ∧
      (f = Faults.none → u ≠ "" → 0 < amount → ∀ a, st.db.account? u = some a →
        a.balance + amount ≤ bigintMax → r.2 = .ok ⟨u, a.balance + amount⟩)) := by
  have hr := (Reachable.init cacheEnabled).exec ops
  refine ⟨flipCount_le_one (fun st op ht => ?_) _ _, fun t ht => ⟨?_, topup?_exec ht, fun f amount => ?_⟩,
    fun ht f amount => ⟨fun _ hs => (topUp_error_state hs).imp_right fun ⟨hc, hs, a, ha, h⟩ =>
      ⟨hc, hs, a, ha, h.elim (fun h => absurd h.1 hk) fun h => by rw [h.2.2]⟩, fun acc hacc => ?_,
      fun hf hu hpos a ha hmax => hf ▸ topUp_none_of_account? hu hpos hk ht ha hmax⟩⟩
  · obtain ⟨t, ht⟩ := Option.isSome_iff_exists.1 ht
    simp [topup?_dbStep (step_dbStep st op) ht]
  · have := hr.topupInv t (List.mem_of_find?_eq_some ht)
    omega
  · obtain ⟨h1, h2⟩ := @topUp_of_topup? f ⟨u, amount, k⟩ _ _ hk ht
    exact ⟨h1, h2, fun hf hu hpos => hf ▸ topUp_none_of_topup? hu hpos hk ht⟩
  · obtain ⟨a, ha, hpos, rfl, h⟩ := topUp_of_topup?_none hk ht acc hacc
    have h0 := hr.accountsInv.nonneg a (List.mem_of_find?_eq_some ha)
    have h1 : 0 < amount := hpos
    exact ⟨a, ha, rfl, by simp only; omega, h⟩

theorem topUp_same_key_credits_once_replayed :
    let ops := [.createAccount ⟨"u", ""⟩ Faults.none, .topUp ⟨"u", 50, "k"⟩ Faults.none,
      .topUp ⟨"u", 50, "k"⟩ Faults.none]
    ("k" : String) ≠ "" ∧
      flipCount (fun st op => (step st op).1) (fun st => (st.db.topup? "u" "k").isSome) (State.init true) ops ≤ 1 :=
  ⟨by decide, (topUp_same_key_credits_once true _ "u" "k" (by decide)).1⟩

-- A call on a fresh key whose commit reply is lost answers `Internal` and leaves its row.
example :
    let st := exec (State.init false) [.createAccount ⟨"u", ""⟩ Faults.none]
    let r := topUp (fun c => c == .commitAck) ⟨"u", 50, "k"⟩ st
    r.2 = .error ⟨.internal, "failed to top up"⟩ ∧ r.1.db.topup? "u" "k" = some ⟨"u", "k", 50, 50⟩ :=
  ⟨rfl, rfl⟩

/-- **A non-positive amount on a recorded key is refused with `InvalidArgument`,
not `FailedPrecondition`.**  After `CreateAccount("u")` and `TopUp("u", 50, "k")`,
`TopUp("u", 0, "k")` fails validation before the key is read. -/
theorem topUp_zero_on_recorded_key :
    let st := exec (State.init false)
      [.createAccount ⟨"u", ""⟩ Faults.none, .topUp ⟨"u", 50, "k"⟩ Faults.none]
    st.db.topup? "u" "k" = some ⟨"u", "k", 50, 50⟩ ∧
    topUp Faults.none ⟨"u", 0, "k"⟩ st = (st, .error ⟨.invalidArgument, "amount must be > 0"⟩) :=
  ⟨rfl, rfl⟩

end PaymentsService.Payments
