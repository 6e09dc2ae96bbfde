import PaymentsService.Payments.Db
import PaymentsService.Cache

/-!
# The Payments gRPC handlers

`CreateAccount`, `TopUp` and `GetBalance` of `internal/grpc/handlers.go`, each a
function from the service's committed state to the state it leaves and the
reply it sends.

## Main definitions

* `Call`, `Faults` — the round trips of the Payments service the environment can
  make fail, and a choice of which do.
* `BalanceCache`, `BalanceCache.key` — `cache.BalanceCache` over `RedisCache`.
* `State` — the database and the cache handle.
* `createAccount`, `topUpTx`, `topUp`, `getBalance`.

## Design notes

`TopUp` has two paths.  Without a key it is one autocommit `UPDATE`.  With a key
it is one transaction (`topUpTx`): insert the idempotency row with
`balance_after = 0`; on a duplicate, read the stored row back and compare the
amount; otherwise credit the account and write `balance_after`.  When the credit
fails, the code deletes the idempotency row and returns the error; the delete
runs in the transaction `WithTx` then rolls back, so it has no effect on what
commits and `topUpTx` goes straight to the error.
-/

namespace PaymentsService.Payments

/-- The round trips of the Payments service: the statements of `Queries`, the two
ends of a transaction, `proto.Marshal`, and the two Redis calls.  `commitAck` is
the reply to the round trip that commits — `COMMIT`, or a write outside a
transaction: when it fails, the server has committed and the caller sees a
driver error. -/
inductive Call
  | begin
  | commit
  | commitAck
  | createAccount
  | createAccountIdempotent
  | topUp
  | getBalance
  | insertTopupIdempotency
  | getTopupIdempotency
  | setTopupIdempotencyBalance
  | insertInboxCheck
  | tryDeductOnce
  | accountExists
  | marshal
  | insertOutbox
  | cacheGet
  | cacheSet
deriving DecidableEq, Repr

/-- Which round trips of one request fail. -/
abbrev Faults := Call → Bool

/-- No round trip fails. -/
def Faults.none : Faults := fun _ => false

/-- `cache.Balance`, the JSON value of a balance cache entry. -/
structure Balance where
  userId : String
  balance : Int
deriving DecidableEq, Repr

/-- `*cache.BalanceCache`. -/
abbrev BalanceCache := RedisCache Balance

/-- `key(userID)` of the balance cache. -/
def BalanceCache.key (userId : String) : String := "payments:balance:" ++ userId

theorem BalanceCache.key_injective : Function.Injective BalanceCache.key := by
  intro a b h
  exact String.ext (List.append_cancel_left (congrArg String.data h))

@[simp] theorem BalanceCache.key_inj {a b : String} : BalanceCache.key a = BalanceCache.key b ↔ a = b :=
  BalanceCache.key_injective.eq_iff

/-- `h.cache.Set(ctx, cache.Balance{UserID, Balance})`. -/
def BalanceCache.setBalance (c : BalanceCache) (userId : String) (balance : Int) (fails : Bool) :
    BalanceCache :=
  c.set (BalanceCache.key userId) ⟨userId, balance⟩ fails

/-- The Payments service's state: its database and its cache handle. -/
structure State where
  db : Db
  cache : BalanceCache

/-! ## Requests -/

/-- `paymentsv1.CreateAccountRequest`. -/
structure CreateAccountRequest where
  userId : String
  idempotencyKey : String
deriving DecidableEq, Repr

/-- `paymentsv1.TopUpRequest`. -/
structure TopUpRequest where
  userId : String
  amount : Int
  idempotencyKey : String
deriving DecidableEq, Repr

/-- `paymentsv1.GetBalanceRequest`. -/
structure GetBalanceRequest where
  userId : String
deriving DecidableEq, Repr

/-! ## Handlers -/

/-- **`Handlers.CreateAccount`.** -/
def createAccount (f : Faults) (req : CreateAccountRequest) (st : State) :
    State × Except Status Account :=
  if req.userId = "" then (st, .error (invalidArgument "user_id is required")) else
    let created : Except Status Account × Db :=
      if req.idempotencyKey = "" then
        match autocommit (f .createAccount) (f .commitAck) (Queries.createAccount req.userId) st.db with
        | (.ok a, db) => (.ok a, db)
        | (.error (.db .noRows), db) => (.error ⟨.alreadyExists, "account already exists"⟩, db)
        | (.error _, db) => (.error ⟨.internal, "failed to create account"⟩, db)
      else
        match autocommit (f .createAccountIdempotent) (f .commitAck) (Queries.createAccountIdempotent req.userId)
            st.db with
        | (.ok a, db) => (.ok a, db)
        | (.error _, db) => (.error ⟨.internal, "failed to create account"⟩, db)
    match created with
    | (.error s, db) => (⟨db, st.cache⟩, .error s)
    | (.ok a, db) => (⟨db, st.cache.setBalance a.userId a.balance (f .cacheSet)⟩, .ok a)

/-- **The keyed `TopUp` transaction.**  It returns the balance to answer with and
whether to refresh the cache (`updateCache`). -/
def topUpTx (f : Faults) (req : TopUpRequest) (db : Db) : Except TxError ((Int × Bool) × Db) := do
  let (inserted, db) ← roundTrip (f .insertTopupIdempotency)
    (Queries.insertTopupIdempotency req.userId req.idempotencyKey req.amount) db
  if inserted = 0 then
    let (existing, db) ← roundTrip (f .getTopupIdempotency)
      (Queries.getTopupIdempotency req.userId req.idempotencyKey) db
    if existing.amount ≠ req.amount then
      throw (.status ⟨.failedPrecondition, "idempotency key reuse with different parameters"⟩)
    return ((existing.balanceAfter, false), db)
  match roundTrip (f .topUp) (Queries.topUp req.userId req.amount) db with
  | .error (.db .noRows) => throw (.status ⟨.notFound, "account not found"⟩)
  | .error e => throw e
  | .ok (account, db) =>
    let (_, db) ← roundTrip (f .setTopupIdempotencyBalance)
      (Queries.setTopupIdempotencyBalance req.userId req.idempotencyKey account.balance) db
    return ((account.balance, true), db)

/-- **`Handlers.TopUp`.** -/
def topUp (f : Faults) (req : TopUpRequest) (st : State) : State × Except Status Account :=
  if req.userId = "" then (st, .error (invalidArgument "user_id is required")) else
  if req.amount ≤ 0 then (st, .error (invalidArgument "amount must be > 0")) else
  if req.idempotencyKey = "" then
    match autocommit (f .topUp) (f .commitAck) (Queries.topUp req.userId req.amount) st.db with
    | (.ok a, db) => (⟨db, st.cache.setBalance a.userId a.balance (f .cacheSet)⟩, .ok a)
    | (.error (.db .noRows), db) => (⟨db, st.cache⟩, .error ⟨.notFound, "account not found"⟩)
    | (.error _, db) => (⟨db, st.cache⟩, .error ⟨.internal, "failed to top up"⟩)
  else
    match withTx (f .begin) (f .commit) (f .commitAck) (topUpTx f req) st.db with
    | (.ok (balance, updateCache), db) =>
        (⟨db, if updateCache then st.cache.setBalance req.userId balance (f .cacheSet) else st.cache⟩,
          .ok ⟨req.userId, balance⟩)
    | (.error e, db) => (⟨db, st.cache⟩, .error ((e.status?).getD ⟨.internal, "failed to top up"⟩))

/-! ## What a request can do -/

/-- **The keyed `TopUp` transaction commits in two ways**: a replay whose amount
matches the stored row, changing nothing; or the first use of the key, which
credits the account and records the row with the balance it produced. -/
theorem topUpTx_eq_ok {f : Faults} {req : TopUpRequest} {db db' : Db} {b : Int} {upd : Bool}
    (h : topUpTx f req db = .ok ((b, upd), db')) :
    (∃ t, db.topup? req.userId req.idempotencyKey = some t ∧ t.amount = req.amount ∧
      b = t.balanceAfter ∧ upd = false ∧ db' = db) ∨
    (db.topup? req.userId req.idempotencyKey = none ∧ ∃ a, db.account? req.userId = some a ∧
      a.balance + req.amount ≤ bigintMax ∧ b = a.balance + req.amount ∧ upd = true ∧
      db' = db.recordTopup req.userId req.idempotencyKey req.amount b) := by
  unfold topUpTx at h
  cases h1 : f .insertTopupIdempotency <;> cases h2 : db.topup? req.userId req.idempotencyKey <;>
    simp [h1, h2, Queries.insertTopupIdempotency] at h
  · -- first use of the key
    cases h3 : f .topUp
    · cases h4 : db.account? req.userId with
      | none => simp [h3, h4, Queries.topUp] at h
      | some a =>
        by_cases hmax : bigintMax < a.balance + req.amount
        · simp [h3, h4, Queries.topUp, hmax] at h
        · simp [h3, h4, Queries.topUp, hmax] at h
          cases h5 : f .setTopupIdempotencyBalance <;>
            simp [h5, Queries.setTopupIdempotencyBalance, Db.addBalance, Db.topup?_insert_of_none h2] at h
          obtain ⟨⟨rfl, rfl⟩, rfl⟩ := h
          refine .inr ⟨rfl, a, rfl, by omega, rfl, rfl, ?_⟩
          simp [Db.recordTopup, Db.addBalance, Db.map_balanceAfter_of_none h2]
    · simp [h3] at h
  · -- replay
    cases h3 : f .getTopupIdempotency <;> simp [h3, Queries.getTopupIdempotency, h2] at h
    split at h
    · simp only [Except.ok.injEq, Prod.mk.injEq] at h
      obtain ⟨⟨rfl, rfl⟩, rfl⟩ := h
      exact .inl ⟨_, rfl, by assumption, rfl, rfl, rfl⟩
    · simp at h

theorem Queries.topUp_eq_ok {u : String} {amount : Int} {db db' : Db} {a : Account}
    (h : Queries.topUp u amount db = .ok (a, db')) :
    ∃ acc, db.account? u = some acc ∧ acc.balance + amount ≤ bigintMax ∧ a = ⟨u, acc.balance + amount⟩ ∧
      db' = db.addBalance u amount := by
  unfold Queries.topUp at h
  split at h
  · cases h
  · next acc hacc =>
    split at h
    · cases h
    · cases h; exact ⟨acc, hacc, by omega, rfl, rfl⟩

/-- **Everything `TopUp` can do.**  It fails with the state unchanged; or replays a
key whose stored amount matches, changing nothing; or credits, without a key or
under a fresh key that it records.  A call that commits answers `Internal`, and
leaves the cache alone, when the reply of its commit is lost. -/
theorem topUp_cases (f : Faults) (req : TopUpRequest) (st : State) :
    (∃ s, topUp f req st = (st, .error s)) ∨
    (req.idempotencyKey ≠ "" ∧ ∃ t, st.db.topup? req.userId req.idempotencyKey = some t ∧
      t.amount = req.amount ∧ topUp f req st =
        (st, if f .commitAck then .error ⟨.internal, "failed to top up"⟩ else .ok ⟨req.userId, t.balanceAfter⟩)) ∨
    (req.userId ≠ "" ∧ 0 < req.amount ∧ ∃ a, st.db.account? req.userId = some a ∧
      a.balance + req.amount ≤ bigintMax ∧ ∃ db',
      ((req.idempotencyKey = "" ∧ db' = st.db.addBalance req.userId req.amount) ∨
        (req.idempotencyKey ≠ "" ∧ st.db.topup? req.userId req.idempotencyKey = none ∧
          db' = st.db.recordTopup req.userId req.idempotencyKey req.amount (a.balance + req.amount))) ∧
      topUp f req st = (⟨db', if f .commitAck then st.cache
          else st.cache.setBalance req.userId (a.balance + req.amount) (f .cacheSet)⟩,
        if f .commitAck then .error ⟨.internal, "failed to top up"⟩ else .ok ⟨req.userId, a.balance + req.amount⟩)) := by
  unfold topUp
  by_cases hu : req.userId = ""
  · simp [hu]
  by_cases hp : req.amount ≤ 0
  · simp [hu, hp]
  simp only [hu, hp, if_false]
  by_cases hk : req.idempotencyKey = ""
  · rw [if_pos hk]
    rcases autocommit_cases (f .topUp) (f .commitAck) (Queries.topUp req.userId req.amount) st.db with
      ⟨e, h, d, rfl, -⟩ | ⟨a', db', -, hq, h⟩ <;> rw [h]
    · cases d <;> exact .inl ⟨_, rfl⟩
    · obtain ⟨a, ha, hmax, rfl, rfl⟩ := Queries.topUp_eq_ok hq
      exact .inr (.inr ⟨hu, by omega, a, ha, hmax, _, .inl ⟨hk, rfl⟩, by cases f .commitAck <;> rfl⟩)
  · rw [if_neg hk]
    rcases withTx_cases (f .begin) (f .commit) (f .commitAck) (topUpTx f req) st.db with
      ⟨e, h, -⟩ | ⟨⟨b, upd⟩, db', -, -, htx, h⟩ <;> rw [h]
    · exact .inl ⟨_, rfl⟩
    · rcases topUpTx_eq_ok htx with ⟨t, ht, hamt, rfl, rfl, rfl⟩ | ⟨ht, a, ha, hmax, rfl, rfl, rfl⟩
      · exact .inr (.inl ⟨hk, t, ht, hamt, by cases f .commitAck <;> rfl⟩)
      · exact .inr (.inr ⟨hu, by omega, a, ha, hmax, _, .inr ⟨hk, ht, rfl⟩, by cases f .commitAck <;> rfl⟩)

/-- **The errors the keyed `TopUp` transaction throws**: the key reuse and the
missing account; every other error is a database error. -/
theorem topUpTx_eq_error {f : Faults} {req : TopUpRequest} {db : Db} {err : TxError} (h : topUpTx f req db = .error err) :
    err = .status ⟨.failedPrecondition, "idempotency key reuse with different parameters"⟩ ∨
    err = .status ⟨.notFound, "account not found"⟩ ∨ ∃ d, err = .db d := by
  unfold topUpTx at h
  cases hi : roundTrip (f .insertTopupIdempotency)
      (Queries.insertTopupIdempotency req.userId req.idempotencyKey req.amount) db with
  | error => simp only [hi, except_error_bind, Except.error.injEq] at h; exact .inr (.inr (roundTrip_eq_error (h ▸ hi)))
  | ok p =>
    simp only [hi, except_ok_bind] at h
    split_ifs at h
    · cases hg : roundTrip (f .getTopupIdempotency)
          (Queries.getTopupIdempotency req.userId req.idempotencyKey) p.2 with
      | error => simp only [hg, except_error_bind, Except.error.injEq] at h; exact .inr (.inr (roundTrip_eq_error (h ▸ hg)))
      | ok q =>
        simp only [hg, except_ok_bind] at h
        split_ifs at h
        · exact .inl (Except.error.inj h).symm
        · simp at h
    · split at h
      · exact .inr (.inl (Except.error.inj h).symm)
      · rename_i h'
        obtain ⟨d, rfl⟩ := roundTrip_eq_error h'
        exact .inr (.inr ⟨d, (Except.error.inj h).symm⟩)
      · rename_i account db' _
        cases hs : roundTrip (f .setTopupIdempotencyBalance)
            (Queries.setTopupIdempotencyBalance req.userId req.idempotencyKey account.balance) db' with
        | error =>
          simp only [hs, except_error_bind, except_pure, except_ok_bind, Except.error.injEq] at h
          exact .inr (.inr (roundTrip_eq_error (h ▸ hs)))
        | ok => simp [hs] at h

/-- **The errors of a `TopUp` that passes validation.** -/
theorem topUp_eq_error {f : Faults} {req : TopUpRequest} {st : State} {s : Status} (hu : req.userId ≠ "")
    (hpos : 0 < req.amount) (h : (topUp f req st).2 = .error s) :
    s = ⟨.failedPrecondition, "idempotency key reuse with different parameters"⟩ ∨
    s = ⟨.notFound, "account not found"⟩ ∨ s = ⟨.internal, "failed to top up"⟩ := by
  unfold topUp at h
  simp only [hu, not_le.2 hpos, if_false] at h
  split_ifs at h
  · split at h
    · cases h
    · exact .inr (.inl (Except.error.inj h).symm)
    · exact .inr (.inr (Except.error.inj h).symm)
  · split at h
    · cases h
    · next err db herr =>
      replace h : (err.status?).getD ⟨.internal, "failed to top up"⟩ = s := Except.error.inj h
      rcases withTx_cases (f .begin) (f .commit) (f .commitAck) (topUpTx f req) st.db with
        ⟨e', hw, he⟩ | ⟨p, db', -, -, -, hw⟩ <;> rw [hw] at herr
      · obtain ⟨he', -⟩ := Prod.mk.inj herr
        cases he'
        rcases he with h' | rfl
        · rcases topUpTx_eq_error h' with rfl | rfl | ⟨d, rfl⟩
          exacts [.inl h.symm, .inr (.inl h.symm), .inr (.inr h.symm)]
        · exact .inr (.inr h.symm)
      · cases hc : f .commitAck <;> simp only [hc, if_true, if_false, Prod.mk.injEq, reduceCtorEq,
          false_and, Except.error.injEq] at herr
        rw [← herr.1] at h
        exact .inr (.inr h.symm)

/-- **The errors of a `CreateAccount` for a user**: `already exists`, for a request
without a key only, and `failed to create account`. -/
theorem createAccount_eq_error {f : Faults} {req : CreateAccountRequest} {st : State} {s : Status}
    (hu : req.userId ≠ "") (h : (createAccount f req st).2 = .error s) :
    (req.idempotencyKey = "" ∧ s = ⟨.alreadyExists, "account already exists"⟩) ∨
      s = ⟨.internal, "failed to create account"⟩ := by
  unfold createAccount at h
  simp only [hu, if_false] at h
  split at h
  · next s' db hs =>
    obtain rfl : s' = s := Except.error.inj h
    split_ifs at hs with hk
    · split at hs
      · cases hs
      · exact .inl ⟨hk, (Except.error.inj (Prod.mk.inj hs).1).symm⟩
      · exact .inr (Except.error.inj (Prod.mk.inj hs).1).symm
    · split at hs
      · cases hs
      · exact .inr (Except.error.inj (Prod.mk.inj hs).1).symm
  · cases h

/-- **Everything `CreateAccount` can do.**  It fails with the state unchanged; or,
with a key, finds the account already there and answers with it; or opens the
account with balance `0`.  A call that commits answers `Internal`, and leaves the
cache alone, when the reply of its statement is lost. -/
theorem createAccount_cases (f : Faults) (req : CreateAccountRequest) (st : State) :
    (∃ s, createAccount f req st = (st, .error s)) ∨
    (∃ a, st.db.account? req.userId = some a ∧ createAccount f req st =
      (⟨st.db, if f .commitAck then st.cache else st.cache.setBalance req.userId a.balance (f .cacheSet)⟩,
        if f .commitAck then .error ⟨.internal, "failed to create account"⟩ else .ok a)) ∨
    (req.userId ≠ "" ∧ st.db.account? req.userId = none ∧
      createAccount f req st = (⟨st.db.insertAccount req.userId,
        if f .commitAck then st.cache else st.cache.setBalance req.userId 0 (f .cacheSet)⟩,
        if f .commitAck then .error ⟨.internal, "failed to create account"⟩ else .ok ⟨req.userId, 0⟩)) := by
  unfold createAccount
  by_cases hu : req.userId = ""
  · simp [hu]
  simp only [hu, if_false]
  by_cases hk : req.idempotencyKey = ""
  · cases h3 : f .createAccount <;> cases h4 : st.db.account? req.userId <;> cases h5 : f .commitAck <;>
      simp [autocommit, hk, h3, h4, h5, Queries.createAccount, Db.insertAccount, hu]
  · cases h3 : f .createAccountIdempotent
    · cases h4 : st.db.account? req.userId with
      | none =>
        cases h5 : f .commitAck <;>
          simp [autocommit, hk, h3, h4, h5, Queries.createAccountIdempotent, Db.insertAccount, hu]
      | some a =>
        refine .inr (.inl ⟨a, rfl, ?_⟩)
        cases h5 : f .commitAck <;>
          simp [autocommit, hk, h3, h4, h5, Queries.createAccountIdempotent, Db.userId_of_account? h4]
    · simp [autocommit, hk, h3]

/-- **`Handlers.GetBalance`**: a cache hit answers with the cached balance; a miss,
a Redis error or a disabled cache reads the account and refreshes the entry. -/
def getBalance (f : Faults) (req : GetBalanceRequest) (st : State) : State × Except Status Int :=
  if req.userId = "" then (st, .error (invalidArgument "user_id is required")) else
  match st.cache.get (BalanceCache.key req.userId) (f .cacheGet) with
  | .ok (some cached) => (st, .ok cached.balance)
  | _ =>
    match roundTrip (f .getBalance) (Queries.getBalance req.userId) st.db with
    | .ok (balance, _) => (⟨st.db, st.cache.setBalance req.userId balance (f .cacheSet)⟩, .ok balance)
    | .error (.db .noRows) => (st, .error ⟨.notFound, "account not found"⟩)
    | .error _ => (st, .error ⟨.internal, "failed to get balance"⟩)

/-- **The errors of a `GetBalance` for a user.** -/
theorem getBalance_eq_error {f : Faults} {req : GetBalanceRequest} {st : State} {s : Status} (hu : req.userId ≠ "")
    (h : (getBalance f req st).2 = .error s) :
    s = ⟨.notFound, "account not found"⟩ ∨ s = ⟨.internal, "failed to get balance"⟩ := by
  unfold getBalance at h
  simp only [hu, if_false] at h
  split at h
  · cases h
  · split at h
    · cases h
    · exact .inl (Except.error.inj h).symm
    · exact .inr (Except.error.inj h).symm
@[simp] theorem getBalance_db (f : Faults) (req : GetBalanceRequest) (st : State) :
    (getBalance f req st).1.db = st.db := by
  unfold getBalance
  split
  · rfl
  · split
    · rfl
    · split <;> rfl

end PaymentsService.Payments
