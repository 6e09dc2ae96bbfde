import PaymentsService.Payments.Service

/-!
# The balance ledger

Money enters an account through `TopUp` and leaves it through `TryDeductOnce`, and
each has its trace in the store except one: a keyed credit leaves its
`topup_idempotency` row, a debit its `payment_operations` row, but an unkeyed
credit leaves nothing.  The ledger law therefore counts unkeyed credits off the
run — one per `TopUp` without a key whose `UPDATE` commits — and reads everything
else from the state:

  `balance(u) = unkeyed credits of u + Σ topup_idempotency(u).amount − Σ payment_operations(u).amount`.

## Main results

* `AccountsInv` — one account per user and no negative balance, kept by every
  `DbStep` (`accountsInv_dbStep`).  Non-negativity rests on the guard of
  `TryDeductOnce`; uniqueness on `CreateAccount`'s conflict check.
* `topUp_of_unkeyedCommits`, `topUp_of_not_unkeyedCommits` — an unkeyed `TopUp`
  either commits its credit, answering with the new balance or, its reply lost,
  with `Internal`; or fails with nothing changed.
* `topUp_ok_topup?` — a keyed `TopUp` answered with success has committed its row.
* `ledger_step`, `ledger_exec` — one step changes `Db.ledger` by exactly the
  unkeyed credit it made; a run by the sum of them.
* `balance_eq_credits_sub_debits` — the law over every run from an empty store.

## Design notes

An unkeyed credit is one autocommitted `UPDATE`.  Its reply can be lost after the
server committed it; the handler then answers `Internal` although the balance
has grown (`topUp_internal_after_credit`).  So the credits are counted by what
commits, not by what is answered: every success commits, but not every commit is
a success.
-/

namespace PaymentsService.Payments

/-! ## One account per user, none negative -/

/-- The shape of `accounts` every step keeps. -/
structure AccountsInv (db : Db) : Prop where
  nodup : (db.accounts.map (·.userId)).Nodup
  nonneg : ∀ a ∈ db.accounts, 0 ≤ a.balance

theorem find?_userId_of_mem :
    ∀ {l : List Account}, (l.map (·.userId)).Nodup → ∀ {a : Account}, a ∈ l →
      l.find? (fun b => b.userId = a.userId) = some a
  | [], _, _, h => by cases h
  | b :: l, hnd, a, h => by
      rw [List.map_cons, List.nodup_cons] at hnd
      rcases List.mem_cons.1 h with rfl | h
      · simp
      · have hne : b.userId ≠ a.userId := fun e => hnd.1 (e ▸ List.mem_map_of_mem _ h)
        simp [hne, find?_userId_of_mem hnd.2 h]

theorem account?_of_mem {db : Db} (h : (db.accounts.map (·.userId)).Nodup) {a : Account}
    (ha : a ∈ db.accounts) : db.account? a.userId = some a :=
  find?_userId_of_mem h ha

@[simp] theorem addBalance_userIds (db : Db) (u : String) (d : Int) :
    (db.addBalance u d).accounts.map (·.userId) = db.accounts.map (·.userId) := by
  simp only [Db.addBalance, List.map_map]
  congr 1
  funext a
  by_cases h : a.userId = u <;> simp [h]

theorem AccountsInv.addBalance {db : Db} (hi : AccountsInv db) {u : String} {d : Int}
    (hd : ∀ a, db.account? u = some a → 0 ≤ a.balance + d) : AccountsInv (db.addBalance u d) := by
  refine ⟨by simpa using hi.nodup, fun b hb => ?_⟩
  obtain ⟨a, ha, rfl⟩ := List.mem_map.1 hb
  by_cases hu : a.userId = u
  · simpa [hu] using hd a (hu ▸ account?_of_mem hi.nodup ha)
  · simpa [hu] using hi.nonneg a ha

theorem AccountsInv.of_accounts_eq {db db' : Db} (hi : AccountsInv db) (h : db'.accounts = db.accounts) :
    AccountsInv db' := ⟨h ▸ hi.nodup, h ▸ hi.nonneg⟩

theorem AccountsInv.credit {db : Db} (hi : AccountsInv db) {u : String} {amount : Int} {a : Account}
    (ha : db.account? u = some a) (hpos : 0 < amount) : AccountsInv (db.addBalance u amount) :=
  hi.addBalance fun a' ha' => by
    rw [ha] at ha'; cases ha'; have := hi.nonneg _ (List.mem_of_find?_eq_some ha); omega

theorem AccountsInv.applyRequest {db : Db} (hi : AccountsInv db) (e : Uuid) (ev : PaymentRequested)
    (msgId orderId : Uuid) : AccountsInv (db.applyRequest e ev msgId orderId) := by
  unfold Db.applyRequest
  cases hd : db.canDeduct orderId ev.userId ev.amount
  · exact ⟨hi.nodup, hi.nonneg⟩
  · obtain ⟨-, a, ha, hle⟩ := Db.canDeduct_eq_true.1 hd
    refine (hi.addBalance (u := ev.userId) (d := -ev.amount) fun a' ha' => ?_).of_accounts_eq rfl
    rw [ha] at ha'; cases ha'; omega

theorem accountsInv_dbStep {db db' : Db} (hi : AccountsInv db) (h : DbStep db db') :
    AccountsInv db' := by
  cases h with
  | same => exact hi
  | openAccount ha =>
    refine ⟨?_, ?_⟩
    · simp only [Db.insertAccount, List.map_append, List.map_singleton]
      refine List.nodup_append.2 ⟨hi.nodup, List.nodup_singleton _, ?_⟩
      simp only [List.disjoint_singleton]
      intro hu
      obtain ⟨a, hmem, hau⟩ := List.mem_map.1 hu
      rw [← hau, account?_of_mem hi.nodup hmem] at ha
      cases ha
    · intro a hmem
      rcases List.mem_append.1 hmem with h | h
      · exact hi.nonneg a h
      · simp [List.mem_singleton.1 h]
  | credit ha hpos _ => exact hi.credit ha hpos
  | creditKeyed _ ha hpos _ => exact (hi.credit ha hpos).of_accounts_eq rfl
  | request => exact hi.applyRequest _ _ _ _
  | publish => exact ⟨hi.nodup, hi.nonneg⟩

/-! ## The ledger -/

/-- `balance + debits − keyed credits`: the part of `u`'s balance that unkeyed
credits must account for. -/
def Db.ledger (db : Db) (u : String) : Int := db.balanceOf u + db.opSum u - db.topupSum u

/-- Whether a `TopUp` without a key commits its `UPDATE accounts` in `db`: the
request passes validation, the statement reaches the server, and it finds the
account within the `bigint` range.  Whether the reply then reaches the handler
does not matter. -/
def unkeyedCommits (f : Faults) (req : TopUpRequest) (db : Db) : Bool :=
  req.idempotencyKey = "" ∧ req.userId ≠ "" ∧ 0 < req.amount ∧ f .topUp = false ∧
    (Queries.topUp req.userId req.amount db).isOk

/-- The amount one step credited to `u` through a `TopUp` without a key. -/
def unkeyedCredit (st : State) (op : Op) (u : String) : Int :=
  match op with
  | .topUp req f => if unkeyedCommits f req st.db ∧ req.userId = u then req.amount else 0
  | _ => 0

/-- The unkeyed credits of `u` along a run. -/
def unkeyedCredits : State → List Op → String → Int
  | _, [], _ => 0
  | st, op :: ops, u => unkeyedCredit st op u + unkeyedCredits (step st op).1 ops u

@[simp] theorem opSum_insertAccount (db : Db) (u v : String) :
    (db.insertAccount u).opSum v = db.opSum v := rfl

@[simp] theorem topupSum_insertAccount (db : Db) (u v : String) :
    (db.insertAccount u).topupSum v = db.topupSum v := rfl

@[simp] theorem opSum_addBalance (db : Db) (u : String) (d : Int) (v : String) :
    (db.addBalance u d).opSum v = db.opSum v := rfl

@[simp] theorem topupSum_addBalance (db : Db) (u : String) (d : Int) (v : String) :
    (db.addBalance u d).topupSum v = db.topupSum v := rfl

@[simp] theorem balanceOf_recordTopup (db : Db) (u k : String) (amount b : Int) (v : String) :
    (db.recordTopup u k amount b).balanceOf v = (db.addBalance u amount).balanceOf v := rfl

@[simp] theorem opSum_recordTopup (db : Db) (u k : String) (amount b : Int) (v : String) :
    (db.recordTopup u k amount b).opSum v = db.opSum v := rfl

@[simp] theorem topupSum_recordTopup (db : Db) (u k : String) (amount b : Int) (v : String) :
    (db.recordTopup u k amount b).topupSum v = db.topupSum v + if u = v then amount else 0 :=
  Db.topupSum_append db _ _ _ _ ⟨u, k, amount, b⟩ v

theorem ledger_applyRequest (db : Db) (e : Uuid) (ev : PaymentRequested) (msgId orderId : Uuid)
    (v : String) : (db.applyRequest e ev msgId orderId).ledger v = db.ledger v := by
  unfold Db.ledger
  rw [balanceOf_applyRequest, opSum_applyRequest]
  simp only [Db.topupSum, applyRequest_topupIdempotency]
  omega

/-! ## One `TopUp` -/

section TopUp

variable {f : Faults} {req : TopUpRequest} {st : State}

/-- **A committing unkeyed `TopUp` credits the account**, and answers with the
balance it produced — or with `Internal`, when the reply of its statement is lost. -/
theorem topUp_of_unkeyedCommits (h : unkeyedCommits f req st.db = true) :
    ∃ a, st.db.account? req.userId = some a ∧ (topUp f req st).1.db = st.db.addBalance req.userId req.amount ∧
      (topUp f req st).2 = if f .commitAck then .error ⟨.internal, "failed to top up"⟩
        else .ok ⟨req.userId, a.balance + req.amount⟩ := by
  simp only [unkeyedCommits, decide_eq_true_eq] at h
  obtain ⟨hk, hu, hpos, hf, hq⟩ := h
  cases hq' : Queries.topUp req.userId req.amount st.db with
  | error => rw [hq'] at hq; cases hq
  | ok p =>
    obtain ⟨a', db'⟩ := p
    obtain ⟨a, ha, -, rfl, rfl⟩ := Queries.topUp_eq_ok hq'
    have hp : ¬req.amount ≤ 0 := by omega
    refine ⟨a, ha, ?_⟩
    simp only [topUp, hu, hp, hk, if_false, if_true, autocommit, hf, hq']
    cases f .commitAck <;> exact ⟨rfl, rfl⟩

/-- **An unkeyed `TopUp` that does not commit fails with nothing changed.** -/
theorem topUp_of_not_unkeyedCommits (hk : req.idempotencyKey = "") (h : unkeyedCommits f req st.db = false) :
    ∃ s, topUp f req st = (st, .error s) := by
  unfold topUp
  by_cases hu : req.userId = ""
  · simp [hu]
  by_cases hp : req.amount ≤ 0
  · simp [hu, hp]
  simp only [hu, hp, hk, if_false, if_true]
  rcases autocommit_cases (f .topUp) (f .commitAck) (Queries.topUp req.userId req.amount) st.db with
    ⟨e, he, d, rfl, -⟩ | ⟨_, _, hf, hq, -⟩
  · rw [he]; cases d <;> exact ⟨_, rfl⟩
  · simp [unkeyedCommits, hk, hu, hf, hq, not_le.1 hp, Except.isOk, Except.toBool] at h

/-- **A keyed `TopUp` answered with success has committed its row**, holding its
amount and the balance it answered. -/
theorem topUp_ok_topup? {acc : Account} (hk : req.idempotencyKey ≠ "") (h : (topUp f req st).2 = .ok acc) :
    ∃ t, (topUp f req st).1.db.topup? req.userId req.idempotencyKey = some t ∧
      t.amount = req.amount ∧ t.balanceAfter = acc.balance := by
  rcases topUp_cases f req st with ⟨_, h'⟩ | ⟨-, t, ht, hamt, h'⟩ |
      ⟨-, -, a, -, -, _, ⟨hk', -⟩ | ⟨-, ht, rfl⟩, h'⟩ <;> rw [h'] at h ⊢
  · cases h
  · split at h
    · cases h
    · cases h; exact ⟨t, ht, hamt, rfl⟩
  · exact absurd hk' hk
  · split at h
    · cases h
    · cases h; exact ⟨_, Db.topup?_insert_of_none ht _ _ _ _ _ _, rfl, rfl⟩

end TopUp

/-! ## The ledger of a step -/

theorem ledger_addBalance {db : Db} {u : String} {a : Account} (ha : db.account? u = some a) (d : Int)
    (v : String) : (db.addBalance u d).ledger v = db.ledger v + if u = v then d else 0 := by
  have hacc : db.hasAccount u = true := by simp [Db.hasAccount, ha]
  by_cases hv : u = v
  · subst hv; simp [Db.ledger, Db.balanceOf_addBalance, hacc]; omega
  · simp [Db.ledger, Db.balanceOf_addBalance, hv, Ne.symm hv]

theorem ledger_recordTopup {db : Db} {u k : String} {a : Account} (ha : db.account? u = some a) (amount : Int)
    (b : Int) (v : String) : (db.recordTopup u k amount b).ledger v = db.ledger v := by
  have h := ledger_addBalance ha amount v
  simp only [Db.ledger, balanceOf_recordTopup, opSum_recordTopup, topupSum_recordTopup, opSum_addBalance,
    topupSum_addBalance] at h ⊢
  omega

/-- **One step changes the ledger by its unkeyed credit.**  A keyed credit adds as
much to `topup_idempotency` as to the balance, a debit as much to
`payment_operations` as it takes, and a new account starts at `0`. -/
theorem ledger_step (st : State) (op : Op) (v : String) :
    (step st op).1.db.ledger v = st.db.ledger v + unkeyedCredit st op v := by
  cases op with
  | topUp req f =>
    simp only [step, unkeyedCredit]
    cases hc : unkeyedCommits f req st.db
    · simp only [Bool.false_eq_true, false_and, if_false, add_zero]
      by_cases hk : req.idempotencyKey = ""
      · obtain ⟨_, h⟩ := topUp_of_not_unkeyedCommits hk hc
        rw [h]
      · rcases topUp_cases f req st with ⟨_, h⟩ | ⟨-, _, -, -, h⟩ |
            ⟨-, -, a, ha, -, _, ⟨hk', -⟩ | ⟨-, -, rfl⟩, h⟩ <;> rw [h]
        · exact absurd hk' hk
        · exact ledger_recordTopup ha _ _ _
    · obtain ⟨a, ha, hdb, -⟩ := topUp_of_unkeyedCommits hc
      rw [hdb, ledger_addBalance ha]
      simp
  | createAccount req f =>
    simp only [step, unkeyedCredit, add_zero]
    rcases createAccount_cases f req st with ⟨_, h⟩ | ⟨a, -, h⟩ | ⟨-, ha, h⟩ <;> rw [h]
    simp [Db.ledger, Db.balanceOf_insertAccount ha]
  | getBalance req f => simp [step, unkeyedCredit]
  | handleMessage m e f =>
    simp only [step, unkeyedCredit, add_zero]
    rcases handleMessage_cases f e m st.db with h | ⟨ev, msgId, orderId, -, -, h⟩ <;> rw [h]
    exact ledger_applyRequest _ _ _ _ _ _
  | publishOnce batch oc => simp [step, unkeyedCredit, Db.ledger]
  | expireBalance u => simp [step, unkeyedCredit]

theorem ledger_exec (st : State) (ops : List Op) (v : String) :
    (exec st ops).db.ledger v = st.db.ledger v + unkeyedCredits st ops v := by
  induction ops generalizing st with
  | nil => simp [unkeyedCredits]
  | cons op ops ih => rw [exec_cons, ih, ledger_step, unkeyedCredits, Int.add_assoc]

theorem Reachable.accountsInv {st : State} (h : Reachable st) : AccountsInv st.db := by
  induction h with
  | init => exact ⟨List.nodup_nil, by simp [State.init, Db.empty]⟩
  | step op _ ih => exact accountsInv_dbStep ih (step_dbStep _ op)

/-- **The balance law.**  After any run from an empty store — any interleaving of
`CreateAccount`, `TopUp` (keyed or not, replayed, failing at any round trip),
`GetBalance`, deliveries of any `PaymentRequested` records in any order and
number, publisher passes and cache expiries — each user has at most one
account, no balance is negative, and every balance is its committed unkeyed
credits plus its keyed credits minus its debits.  In the state reached, every
unkeyed `TopUp` answered with success commits its credit, and every keyed one so
answered has committed its row with its amount and the balance it answered; an
unkeyed credit that commits adds exactly its amount, and is answered with the new
balance or, its reply lost, with `Internal`. -/
theorem balance_eq_credits_sub_debits (cacheEnabled : Bool) (ops : List Op) :
    let st := exec (State.init cacheEnabled) ops
    (st.db.accounts.map (·.userId)).Nodup ∧ (∀ a ∈ st.db.accounts, 0 ≤ a.balance) ∧
    (∀ a ∈ st.db.accounts, a.balance =
      unkeyedCredits (State.init cacheEnabled) ops a.userId + st.db.topupSum a.userId - st.db.opSum a.userId) ∧
    (∀ f req acc, (topUp f req st).2 = .ok acc →
      (req.idempotencyKey = "" → unkeyedCommits f req st.db = true) ∧
      (req.idempotencyKey ≠ "" → ∃ t, (topUp f req st).1.db.topup? req.userId req.idempotencyKey = some t ∧
        t.amount = req.amount ∧ t.balanceAfter = acc.balance)) ∧
    ∀ f req, unkeyedCommits f req st.db = true →
      (topUp f req st).1.db = st.db.addBalance req.userId req.amount ∧
      (topUp f req st).2 = if f .commitAck then .error ⟨.internal, "failed to top up"⟩
        else .ok ⟨req.userId, st.db.balanceOf req.userId + req.amount⟩ := by
  have hi := ((Reachable.init cacheEnabled).exec ops).accountsInv
  refine ⟨hi.nodup, hi.nonneg, fun a ha => ?_, fun f req acc h => ⟨fun hk => ?_, fun hk => topUp_ok_topup? hk h⟩,
    fun f req hc => ?_⟩
  · have h := ledger_exec (State.init cacheEnabled) ops a.userId
    have h0 : (State.init cacheEnabled).db.ledger a.userId = 0 := rfl
    rw [h0, Int.zero_add] at h
    simp only [Db.ledger, Db.balanceOf, account?_of_mem hi.nodup ha, Option.map_some', Option.getD_some] at h
    omega
  · cases hc : unkeyedCommits f req (exec (State.init cacheEnabled) ops).db
    · obtain ⟨_, h'⟩ := topUp_of_not_unkeyedCommits hk hc
      rw [h'] at h; cases h
    · rfl
  · obtain ⟨a, ha, hdb, hr⟩ := topUp_of_unkeyedCommits hc
    simpa [Db.balanceOf, ha] using And.intro hdb hr

/-- **An unkeyed `TopUp` can commit and answer `Internal`.**  After
`CreateAccount("u")`, a `TopUp("u", 50)` whose reply is lost after the commit
answers `Internal`, and the balance of `u` is `50`. -/
theorem topUp_internal_after_credit :
    let st := exec (State.init false) [.createAccount ⟨"u", ""⟩ Faults.none]
    let r := topUp (fun c => c == .commitAck) ⟨"u", 50, ""⟩ st
    r.2 = .error ⟨.internal, "failed to top up"⟩ ∧ r.1.db.balanceOf "u" = 50 :=
  ⟨rfl, rfl⟩

end PaymentsService.Payments
