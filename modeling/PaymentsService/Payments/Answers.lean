import PaymentsService.Payments.CachedBalance

/-!
# No negative balance is ever answered

Three RPCs answer with a balance: `GetBalance`, from the cache or from
`accounts`; `TopUp`, with the balance it produced or, on a replayed key, the one
it recorded; and `CreateAccount`, with the account it found or opened.  Each of
these numbers comes from somewhere the service keeps non-negative: the accounts
by the guard of `TryDeductOnce` (`AccountsInv`), the recorded top-ups by the
positive amount they added (`TopupInv`), and the cache because every value a
handler writes to it is a balance it has just read or produced.

## Main results

* `CacheNonneg`, `cacheNonneg_step`, `Reachable.cacheNonneg` — every balance the
  cache holds is non-negative, in every reachable state.
* `getBalance_ok` — what an answer of `GetBalance` is.
* `answers_nonneg` — no RPC answers a negative balance, and `TopUp` answers a
  positive one.
-/

namespace PaymentsService.Payments

/-- Every balance the cache holds is non-negative. -/
def CacheNonneg (c : BalanceCache) : Prop := ∀ k b, c.lookup k = some b → 0 ≤ b.balance

theorem CacheNonneg.setBalance {c : BalanceCache} (hc : CacheNonneg c) (u : String) {x : Int}
    (hx : 0 ≤ x) (fs : Bool) : CacheNonneg (c.setBalance u x fs) := by
  intro k b h
  rw [BalanceCache.setBalance, RedisCache.lookup_set] at h
  split_ifs at h
  · cases h; exact hx
  · exact hc k b h

/-- A write that happens only when the reply of the commit came back. -/
theorem CacheNonneg.setBalance_unless {c : BalanceCache} (hc : CacheNonneg c) (lost : Bool) (u : String)
    {x : Int} (hx : 0 ≤ x) (fs : Bool) : CacheNonneg (if lost then c else c.setBalance u x fs) := by
  split
  exacts [hc, hc.setBalance u hx fs]

theorem CacheNonneg.expire {c : BalanceCache} (hc : CacheNonneg c) (key : String) :
    CacheNonneg (c.expire key) := by
  intro k b h
  rw [RedisCache.lookup_expire] at h
  split_ifs at h
  exact hc k b h

theorem AccountsInv.balance_nonneg {db : Db} (ha : AccountsInv db) {u : String} {a : Account}
    (h : db.account? u = some a) : 0 ≤ a.balance :=
  ha.nonneg a (List.mem_of_find?_eq_some h)

/-- **Every step writes only non-negative balances to the cache.** -/
theorem cacheNonneg_step {st : State} (ha : AccountsInv st.db) (hc : CacheNonneg st.cache) (op : Op) :
    CacheNonneg (step st op).1.cache := by
  cases op with
  | createAccount req f =>
    rcases createAccount_cases f req st with ⟨_, h⟩ | ⟨a, h1, h⟩ | ⟨-, -, h⟩ <;> simp only [step, h]
    · exact hc
    · exact hc.setBalance_unless _ _ (ha.balance_nonneg h1) _
    · exact hc.setBalance_unless _ _ le_rfl _
  | topUp req f =>
    rcases topUp_cases f req st with ⟨_, h⟩ | ⟨-, _, -, -, h⟩ | ⟨-, hpos, a, h1, -, _, -, h⟩ <;>
      simp only [step, h]
    · exact hc
    · exact hc
    · exact hc.setBalance_unless _ _ (by have := ha.balance_nonneg h1; omega) _
  | getBalance req f =>
    rcases getBalance_cases f req st with h | ⟨a, h1, h⟩ <;> simp only [step, h]
    · exact hc
    · exact hc.setBalance _ (ha.balance_nonneg h1) _
  | handleMessage m e f => exact hc
  | publishOnce batch oc => exact hc
  | expireBalance u => exact hc.expire _

theorem Reachable.cacheNonneg {st : State} (h : Reachable st) : CacheNonneg st.cache := by
  induction h with
  | init c => intro k b hb; cases c <;> simp [State.init, RedisCache.lookup] at hb
  | step op hr ih => exact cacheNonneg_step hr.accountsInv ih op

/-- **What `GetBalance` answers**: the value of the user's cache entry, or the
balance of the user's account. -/
theorem getBalance_ok {f : Faults} {req : GetBalanceRequest} {st : State} {b : Int}
    (h : (getBalance f req st).2 = .ok b) :
    (∃ c, st.cache.lookup (BalanceCache.key req.userId) = some c ∧ b = c.balance) ∨
      ∃ a, st.db.account? req.userId = some a ∧ b = a.balance := by
  unfold getBalance at h
  split at h
  · cases h
  split at h
  · rename_i c hg
    exact .inl ⟨c, (RedisCache.get_eq_ok_some.1 hg).2, (Except.ok.inj h).symm⟩
  · cases hf : f .getBalance <;> cases ha : st.db.account? req.userId <;>
      simp only [hf, ha, roundTrip_false, roundTrip_true, Queries.getBalance] at h <;> cases h
    exact .inr ⟨_, rfl, rfl⟩

/-- **No Payments RPC answers a negative balance.**  In every state reached from
an empty store, with the cache enabled or not, `GetBalance` answers a
non-negative balance, whether from the cache or from the database; `TopUp`
answers a positive one, fresh or replayed; and `CreateAccount` answers a
non-negative one. -/
theorem answers_nonneg (cacheEnabled : Bool) (ops : List Op) :
    let st := exec (State.init cacheEnabled) ops
    (∀ f req b, (getBalance f req st).2 = .ok b → 0 ≤ b) ∧
    (∀ f req a, (topUp f req st).2 = .ok a → 0 < a.balance) ∧
    (∀ f req a, (createAccount f req st).2 = .ok a → 0 ≤ a.balance) := by
  have hr := (Reachable.init cacheEnabled).exec ops
  have ha := hr.accountsInv
  refine ⟨fun f req b h => ?_, fun f req a h => ?_, fun f req a h => ?_⟩
  · rcases getBalance_ok h with ⟨c, hc, rfl⟩ | ⟨a, h1, rfl⟩
    · exact hr.cacheNonneg _ c hc
    · exact ha.balance_nonneg h1
  · rcases topUp_cases f req _ with ⟨_, h'⟩ | ⟨-, t, ht, -, h'⟩ | ⟨-, hpos, a', h1, -, _, -, h'⟩ <;>
      rw [h'] at h
    · cases h
    · split at h <;> cases h
      exact (hr.topupInv t (List.mem_of_find?_eq_some ht)).1.trans_le
        (hr.topupInv t (List.mem_of_find?_eq_some ht)).2
    · split at h <;> cases h
      have := ha.balance_nonneg h1; dsimp only; omega
  · rcases createAccount_cases f req _ with ⟨_, h'⟩ | ⟨a', h1, h'⟩ | ⟨-, -, h'⟩ <;> rw [h'] at h
    · cases h
    · split at h <;> cases h
      exact ha.balance_nonneg h1
    · split at h <;> cases h
      exact le_rfl

end PaymentsService.Payments
