import PaymentsService.Payments.Idempotency

/-!
# The balance cache against the database

`GetBalance` answers from the entry `payments:balance:u` when Redis holds one, and
otherwise reads `accounts` and writes the entry.  `CreateAccount`, `TopUp` and
`GetBalance` write the entry after their database work, but the
`PaymentRequested` consumer debits `accounts` and never touches the cache, a
`Set` that fails is only logged, and a `TopUp` whose commit reply is lost returns
`Internal` before its `Set`, with the credit committed.  So the entry can fall
behind the database, and a cached `GetBalance` then answers a balance the service
no longer has — until the entry expires.

## Main results

* `Coherent` — `u`'s entry, if any, holds the committed balance of `u`'s account.
* `coherent_step` — every step keeps `u`'s entry coherent except a delivery of a
  `PaymentRequested` for `u` and a `TopUp` of `u` whose `Set` fails or whose
  commit reply is lost (`Op.skipsCacheOf`); `coherent_expire` — an expiry makes
  it coherent again.
* `getBalance_of_coherent` — through a coherent entry, `GetBalance` answers as
  the service with the cache disabled.
* `exec_db_congr` — the cache never changes what the database goes through.
* `getBalance_stale_after_debit` — a run after which the cached and the uncached
  service answer different balances.
* `getBalance_cached_eq_uncached` — agreement over every run without a step that
  skips the cache, with the step law behind it.
-/

namespace PaymentsService.Payments

/-! ## Lookups after a step -/

theorem lookup_setBalance (c : BalanceCache) (v u : String) (x : Int) (fs : Bool) :
    (c.setBalance v x fs).lookup (BalanceCache.key u) =
      if c.isSome ∧ fs = false ∧ u = v then some ⟨v, x⟩ else c.lookup (BalanceCache.key u) := by
  simp [BalanceCache.setBalance, RedisCache.lookup_set]

theorem Db.account?_addBalance_of_ne (db : Db) {u v : String} (d : Int) (h : u ≠ v) :
    (db.addBalance v d).account? u = db.account? u := by
  rw [Db.account?_addBalance]
  cases ha : db.account? u with
  | none => rfl
  | some a => simp [Db.userId_of_account? ha, h]

theorem Db.account?_applyRequest (db : Db) (e : Uuid) (ev : PaymentRequested) (msgId orderId : Uuid)
    {u : String} (h : u ≠ ev.userId) : (db.applyRequest e ev msgId orderId).account? u = db.account? u := by
  unfold Db.applyRequest
  cases db.canDeduct orderId ev.userId ev.amount
  · rfl
  · exact db.account?_addBalance_of_ne _ h

/-- **Everything `GetBalance` does to the state**: nothing, or refresh the entry of
the user from the account it read. -/
theorem getBalance_cases (f : Faults) (req : GetBalanceRequest) (st : State) :
    (getBalance f req st).1 = st ∨ ∃ a, st.db.account? req.userId = some a ∧
      (getBalance f req st).1 = ⟨st.db, st.cache.setBalance req.userId a.balance (f .cacheSet)⟩ := by
  unfold getBalance
  split
  · exact .inl rfl
  · split
    · exact .inl rfl
    · cases hf : f .getBalance
      · cases ha : st.db.account? req.userId with
        | none => simp [Queries.getBalance, ha]
        | some a => simp [Queries.getBalance, ha]
      · simp

/-- On a miss or a Redis error `GetBalance` answers as the uncached service. -/
theorem getBalance_miss_snd (f : Faults) (req : GetBalanceRequest) (st : State)
    (h : st.cache.get (BalanceCache.key req.userId) (f .cacheGet) = .ok none ∨
      ∃ e, st.cache.get (BalanceCache.key req.userId) (f .cacheGet) = .error e) :
    (getBalance f req st).2 = (getBalance f req ⟨st.db, none⟩).2 := by
  unfold getBalance
  split
  · rfl
  · rcases h with h | ⟨e, h⟩ <;> rw [h] <;> dsimp only [RedisCache.get] <;> split <;> rfl

/-! ## Coherence -/

/-- **`u`'s entry agrees with the database**: if the cache holds one, it is the
committed balance of `u`'s account. -/
def Coherent (st : State) (u : String) : Prop :=
  ∀ b, st.cache.lookup (BalanceCache.key u) = some b → ∃ a, st.db.account? u = some a ∧ b = ⟨u, a.balance⟩

/-- The steps after which `u`'s entry may hold a balance the database no longer
has: a delivery of a `PaymentRequested` for `u`, which debits without touching
the cache, and a `TopUp` of `u` whose `Set` fails or which returns before it,
its commit reply lost. -/
def Op.skipsCacheOf (u : String) : Op → Prop
  | .handleMessage m _ _ => ∃ ev, m.value.unmarshalPaymentRequested = some ev ∧ ev.userId = u
  | .topUp req f => req.userId = u ∧ (f .cacheSet = true ∨ f .commitAck = true)
  | _ => False

section Coherent

variable {st : State} {u : String}

theorem Coherent.of_eq {st' : State} (hc : Coherent st u)
    (hl : st'.cache.lookup (BalanceCache.key u) = st.cache.lookup (BalanceCache.key u))
    (ha : st'.db.account? u = st.db.account? u) : Coherent st' u := by
  intro b hb
  rw [ha]
  exact hc b (hl ▸ hb)

/-- Writing `v`'s entry from `v`'s account, with the database unchanged. -/
theorem Coherent.refresh (hc : Coherent st u) {v : String} {a : Account} {fs : Bool}
    (ha : st.db.account? v = some a) : Coherent ⟨st.db, st.cache.setBalance v a.balance fs⟩ u := by
  intro b hb
  simp only [lookup_setBalance] at hb
  split_ifs at hb with hv
  · obtain ⟨-, -, rfl⟩ := hv
    cases hb
    exact ⟨a, ha, rfl⟩
  · exact hc b hb

/-- A credit of `v` that writes the entry, or fails to write one other than `u`'s. -/
theorem Coherent.credit (hc : Coherent st u) {v : String} {amount : Int} {a : Account} {fs : Bool}
    (ha : st.db.account? v = some a) (hfs : v = u → fs = false) :
    Coherent ⟨st.db.addBalance v amount, st.cache.setBalance v (a.balance + amount) fs⟩ u := by
  intro b hb
  simp only [lookup_setBalance] at hb
  split_ifs at hb with hv
  · obtain ⟨-, -, rfl⟩ := hv
    cases hb
    refine ⟨{ a with balance := a.balance + amount }, ?_, rfl⟩
    simp [Db.account?_addBalance, ha, Db.userId_of_account? ha]
  · by_cases huv : u = v
    · subst huv
      obtain ⟨a', ha', rfl⟩ := hc b hb
      cases st.cache <;> simp_all
    · obtain ⟨a', ha', rfl⟩ := hc b hb
      exact ⟨a', by rw [Db.account?_addBalance_of_ne _ _ huv, ha'], rfl⟩

/-- Opening `v`'s account, the cache unchanged. -/
theorem Coherent.insertAccount (hc : Coherent st u) {v : String} (ha : st.db.account? v = none) :
    Coherent ⟨st.db.insertAccount v, st.cache⟩ u := by
  intro b hb
  obtain ⟨a', ha', rfl⟩ := hc b hb
  refine ⟨a', ?_, rfl⟩
  by_cases huv : u = v
  · subst huv; rw [ha] at ha'; cases ha'
  · simp [Db.account?_insertAccount ha, huv, ha']

/-- Opening `v`'s account and writing its entry. -/
theorem Coherent.openAccount (hc : Coherent st u) {v : String} {fs : Bool} (ha : st.db.account? v = none) :
    Coherent ⟨st.db.insertAccount v, st.cache.setBalance v 0 fs⟩ u :=
  (hc.insertAccount ha).refresh (a := ⟨v, 0⟩) (by simp [Db.account?_insertAccount ha])

/-- **Every step keeps `u`'s entry coherent, except one that skips the cache.** -/
theorem coherent_step (hc : Coherent st u) (op : Op) (hs : ¬op.skipsCacheOf u) :
    Coherent (step st op).1 u := by
  cases op with
  | createAccount req f =>
    rcases createAccount_cases f req st with ⟨_, h⟩ | ⟨a, ha, h⟩ | ⟨-, ha, h⟩ <;> simp only [step, h]
    · exact hc
    · split
      · exact hc
      · exact hc.refresh ha
    · split
      · exact hc.insertAccount ha
      · exact hc.openAccount ha
  | topUp req f =>
    have hskip : req.userId = u → f .cacheSet = false ∧ f .commitAck = false := fun hu => by
      simpa [Op.skipsCacheOf, hu] using hs
    rcases topUp_cases f req st with ⟨_, h⟩ | ⟨-, _, -, -, h⟩ | ⟨-, -, a, ha, -, _, hdb, h⟩ <;>
      simp only [step, h]
    · exact hc
    · exact hc
    · have hc' : Coherent ⟨st.db.addBalance req.userId req.amount, if f .commitAck then st.cache
          else st.cache.setBalance req.userId (a.balance + req.amount) (f .cacheSet)⟩ u := by
        cases hack : f .commitAck
        · exact hc.credit ha fun hu => (hskip hu).1
        · have hu : u ≠ req.userId := fun hu => by simp [hskip hu.symm] at hack
          exact hc.of_eq rfl (Db.account?_addBalance_of_ne _ _ hu)
      rcases hdb with ⟨-, rfl⟩ | ⟨-, -, rfl⟩
      · exact hc'
      · exact hc'.of_eq rfl rfl
  | getBalance req f =>
    rcases getBalance_cases f req st with h | ⟨a, ha, h⟩ <;> simp only [step, h]
    · exact hc
    · exact hc.refresh ha
  | handleMessage m e f =>
    rcases handleMessage_cases f e m st.db with h | ⟨ev, msgId, orderId, hv, -, h⟩
    · exact hc.of_eq rfl (by simp only [step, h])
    · have hu : u ≠ ev.userId := fun hu =>
        hs ⟨ev, (validRequest?_eq_some hv).1, hu.symm⟩
      exact hc.of_eq rfl (by simp only [step, h]; exact Db.account?_applyRequest _ _ _ _ _ hu)
  | publishOnce batch oc => exact hc.of_eq rfl rfl
  | expireBalance v =>
    intro b hb
    simp only [step, RedisCache.lookup_expire, BalanceCache.key_inj] at hb
    split_ifs at hb
    exact hc b hb

/-- **An expiry of `u`'s entry makes it coherent.** -/
theorem coherent_expire (st : State) (u : String) : Coherent (step st (.expireBalance u)).1 u := by
  intro b hb
  simp [step, RedisCache.lookup_expire] at hb

/-- **Through a coherent entry `GetBalance` answers as the uncached service**,
as long as the database read it would make does not fail. -/
theorem getBalance_of_coherent (hc : Coherent st u) {f : Faults} (hf : f .getBalance = false) :
    (getBalance f ⟨u⟩ st).2 = (getBalance f ⟨u⟩ ⟨st.db, none⟩).2 := by
  cases hg : st.cache.get (BalanceCache.key u) (f .cacheGet) with
  | ok r =>
    cases r with
    | none => exact getBalance_miss_snd f ⟨u⟩ st (.inl hg)
    | some b =>
      obtain ⟨a, ha, rfl⟩ := hc b (RedisCache.get_eq_ok_some.1 hg).2
      unfold getBalance
      rw [hg]
      split
      · rfl
      · simp [hf, Queries.getBalance, ha]
  | error e => exact getBalance_miss_snd f ⟨u⟩ st (.inr ⟨e, hg⟩)

end Coherent

theorem coherent_exec {u : String} : ∀ {st : State} (ops : List Op), Coherent st u →
    (∀ op ∈ ops, ¬op.skipsCacheOf u) → Coherent (exec st ops) u
  | _, [], hc, _ => hc
  | _, op :: ops, hc, hs =>
    coherent_exec ops (coherent_step hc op (hs op (List.mem_cons_self _ _)))
      fun op' h => hs op' (List.mem_cons_of_mem _ h)

/-! ## The database does not see the cache -/

theorem createAccount_db_cache (f : Faults) (req : CreateAccountRequest) (st : State) :
    (createAccount f req st).1.db = (createAccount f req ⟨st.db, none⟩).1.db := by
  unfold createAccount
  split
  · rfl
  · dsimp only
    split <;> rfl

theorem topUp_db_cache (f : Faults) (req : TopUpRequest) (st : State) :
    (topUp f req st).1.db = (topUp f req ⟨st.db, none⟩).1.db := by
  unfold topUp
  split
  · rfl
  · split
    · rfl
    · split
      · dsimp only; split <;> rfl
      · dsimp only; split <;> rfl

/-- What a step does to the database depends on the database alone. -/
theorem step_db_cache (st : State) (op : Op) : (step st op).1.db = (step ⟨st.db, none⟩ op).1.db := by
  cases op with
  | createAccount req f => exact createAccount_db_cache f req st
  | topUp req f => exact topUp_db_cache f req st
  | getBalance req f => simp [step]
  | _ => rfl

/-- **The cache never changes what the database goes through.** -/
theorem exec_db_congr : ∀ {s s' : State} (ops : List Op), s.db = s'.db → (exec s ops).db = (exec s' ops).db
  | _, _, [], h => h
  | s, s', op :: ops, h => exec_db_congr ops (by rw [step_db_cache s, step_db_cache s', h])

theorem step_cache_none {st : State} (h : st.cache = none) (op : Op) : (step st op).1.cache = none := by
  cases op with
  | createAccount req f =>
    rcases createAccount_cases f req st with ⟨_, h'⟩ | ⟨_, -, h'⟩ | ⟨-, -, h'⟩ <;>
      simp [step, h', h, BalanceCache.setBalance]
  | topUp req f =>
    rcases topUp_cases f req st with ⟨_, h'⟩ | ⟨-, _, -, -, h'⟩ | ⟨-, -, _, -, -, _, -, h'⟩ <;>
      simp [step, h', h, BalanceCache.setBalance]
  | getBalance req f =>
    rcases getBalance_cases f req st with h' | ⟨_, -, h'⟩ <;> simp [step, h', h, BalanceCache.setBalance]
  | _ => simp [step, h]

/-- With the cache disabled it stays disabled. -/
theorem exec_cache_none : ∀ {st : State} (ops : List Op), st.cache = none → (exec st ops).cache = none
  | _, [], h => h
  | _, op :: ops, h => exec_cache_none ops (step_cache_none h op)

/-! ## The cached and the uncached service -/

/-- **A cached `GetBalance` can answer a balance the database no longer has.**
Open `u`, credit it `100` (which writes the entry), deliver a `PaymentRequested`
debiting `30`: the consumer commits balance `70` without touching the cache, so
`GetBalance("u")` answers `100` with the cache enabled and `70` without. -/
theorem getBalance_stale_after_debit :
    let ops := [.createAccount ⟨"u", ""⟩ Faults.none, .topUp ⟨"u", 100, ""⟩ Faults.none,
      .handleMessage ⟨"00000000-0000-0000-0000-000000000002",
        .paymentRequested ⟨"00000000-0000-0000-0000-000000000001",
          "00000000-0000-0000-0000-000000000002", "u", 30⟩⟩
        ⟨"00000000-0000-0000-0000-000000000003", by decide⟩ Faults.none]
    (getBalance Faults.none ⟨"u"⟩ (exec (State.init true) ops)).2 = .ok 100 ∧
    (getBalance Faults.none ⟨"u"⟩ (exec (State.init false) ops)).2 = .ok 70 :=
  ⟨rfl, rfl⟩

/-- **The cached service answers as the uncached one on every run that does not
skip the cache.**  On every run from an empty store the database evolves the same
with the cache enabled and disabled.  Along a run in which no `PaymentRequested`
for `u` is delivered and no `TopUp` of `u` fails its `Set` or loses its commit
reply, `GetBalance(u)` answers
with the cache enabled what it answers with it disabled — `u`'s committed balance —
whenever its database read succeeds.  Behind it, the step law: every step keeps
`u`'s entry in agreement with the database except those two, an expiry of the
entry restores agreement, and `GetBalance` through an agreeing entry answers as
the uncached service. -/
theorem getBalance_cached_eq_uncached (ops : List Op) (u : String) :
    (exec (State.init true) ops).db = (exec (State.init false) ops).db ∧
    ((∀ op ∈ ops, ¬op.skipsCacheOf u) → ∀ f : Faults, f .getBalance = false →
      (getBalance f ⟨u⟩ (exec (State.init true) ops)).2 =
        (getBalance f ⟨u⟩ (exec (State.init false) ops)).2) ∧
    (∀ st op, Coherent st u → ¬op.skipsCacheOf u → Coherent (step st op).1 u) ∧
    (∀ st, Coherent (step st (.expireBalance u)).1 u) ∧
    (∀ st (f : Faults), Coherent st u → f .getBalance = false →
      (getBalance f ⟨u⟩ st).2 = (getBalance f ⟨u⟩ ⟨st.db, none⟩).2) := by
  have hdb : (exec (State.init true) ops).db = (exec (State.init false) ops).db := exec_db_congr ops rfl
  refine ⟨hdb, fun hs f hf => ?_, fun _ op hc hs => coherent_step hc op hs, fun st => coherent_expire st u,
    fun _ _ hc hf => getBalance_of_coherent hc hf⟩
  have hc : Coherent (State.init true) u := fun b hb => by cases hb
  rw [getBalance_of_coherent (coherent_exec ops hc hs) hf, hdb]
  rw [show exec (State.init false) ops = ⟨(exec (State.init false) ops).db, none⟩ from
    congrArg (State.mk _) (exec_cache_none ops rfl)]

-- A `TopUp` whose commit reply is lost leaves the entry written by `CreateAccount` behind.
example :
    let ops := [.createAccount ⟨"u", ""⟩ Faults.none, .topUp ⟨"u", 50, ""⟩ fun c => c == .commitAck]
    (getBalance Faults.none ⟨"u"⟩ (exec (State.init true) ops)).2 = .ok 0 ∧
    (getBalance Faults.none ⟨"u"⟩ (exec (State.init false) ops)).2 = .ok 50 :=
  ⟨rfl, rfl⟩

end PaymentsService.Payments
