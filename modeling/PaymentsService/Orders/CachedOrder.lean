import PaymentsService.Orders.Lifecycle

/-!
# The order cache against the database

`GetOrder` answers from the entry `orders:order:<id>` when Redis holds one for
the requesting user, and otherwise reads `orders` and writes the entry.  The
consumer moves an order's status without touching the cache, so an entry written
while the order was `NEW` keeps `NEW` after the order is `FINISHED` or
`CANCELLED`, and a cached `GetOrder` answers it until the entry expires.  Every
other field of an order is fixed at insert, so that is the only way the two
answers can differ.

## Main results

* `CacheAgrees` — every entry is the order of a row, with the row's status or
  `NEW`; kept by every step (`cacheAgrees_step`).
* `getOrder_cached` — through such a cache, `GetOrder` answers as the uncached
  service, or answers `NEW` for an order the database has settled.
* `getOrder_answers_own_order` — `GetOrder` answers only with an order of the
  database under the requested id and user, cache or not.
* `getOrder_finds_every_order` — and, with nothing failing, it answers with every
  order of the database when asked for that order's id and user.
* `getOrder_stale_after_result` — a run after which the two answers differ.
* `getOrder_cached_vs_uncached` — the comparison over every run.
-/

namespace PaymentsService.Orders

/-! ## `GetOrder` -/

/-- **Everything `GetOrder` does to the state**: nothing, or write the entry of the
row it read. -/
theorem getOrder_cases (f : Faults) (req : GetOrderRequest) (st : State) :
    (getOrder f req st).1 = st ∨ ∃ oid r, st.db.orders.find? (fun r => r.orderId = oid ∧ r.userId = req.userId) = some r ∧
      (getOrder f req st).1 = ⟨st.db, st.cache.setOrder r.toOrder (f .cacheSet)⟩ := by
  have hread : ∀ oid, (readOrder f oid req.userId st).1 = st ∨ ∃ r,
      st.db.orders.find? (fun r => r.orderId = oid ∧ r.userId = req.userId) = some r ∧
      (readOrder f oid req.userId st).1 = ⟨st.db, st.cache.setOrder r.toOrder (f .cacheSet)⟩ := fun oid => by
    unfold readOrder
    cases hf : f .getOrder
    · cases h : st.db.orders.find? (fun r => r.orderId = oid ∧ r.userId = req.userId) with
      | none => left; simp only [hf, roundTrip_false, Queries.getOrder, h]
      | some r => exact .inr ⟨r, rfl, by simp only [hf, roundTrip_false, Queries.getOrder, h]⟩
    · simp
  unfold getOrder
  split
  · exact .inl rfl
  · split
    · exact .inl rfl
    · rename_i oid _
      split
      · split
        · exact .inl rfl
        · rcases hread oid with h | ⟨r, hr, h⟩
          · exact .inl h
          · exact .inr ⟨oid, r, hr, h⟩
      · rcases hread oid with h | ⟨r, hr, h⟩
        · exact .inl h
        · exact .inr ⟨oid, r, hr, h⟩

theorem readOrder_snd (f : Faults) (oid : Uuid) (u : String) (st : State) (c : OrderCache) :
    (readOrder f oid u st).2 = (readOrder f oid u ⟨st.db, c⟩).2 := by
  unfold readOrder; dsimp only; split <;> rfl

theorem lookup_setOrder (c : OrderCache) (o : Order) (fs : Bool) (s : String) :
    (c.setOrder o fs).lookup (OrderCache.key s) =
      if c.isSome ∧ fs = false ∧ s = o.orderId then some o else c.lookup (OrderCache.key s) := by
  simp [OrderCache.setOrder, RedisCache.lookup_set]

/-! ## Agreement -/

/-- **Every cache entry is an order of the database**: the entry under `s` is the
order of a row with id `s`, carrying the row's status or `NEW`. -/
def CacheAgrees (st : State) : Prop :=
  ∀ s c, st.cache.lookup (OrderCache.key s) = some c → ∃ r ∈ st.db.orders, r.orderId.text = s ∧
    c = { r.toOrder with status := c.status } ∧ (c.status = r.status ∨ c.status = .new)

theorem CacheAgrees.of_orders {st st' : State} (hc : CacheAgrees st)
    (hl : ∀ s, st'.cache.lookup (OrderCache.key s) = st.cache.lookup (OrderCache.key s))
    (ho : ∀ r ∈ st.db.orders, r ∈ st'.db.orders) : CacheAgrees st' := by
  intro s c h
  obtain ⟨r, hr, h1, h2, h3⟩ := hc s c ((hl s) ▸ h)
  exact ⟨r, ho r hr, h1, h2, h3⟩

theorem mem_of_find? {db : Db} {p : OrderRow → Bool} {r : OrderRow} (h : db.orders.find? p = some r) :
    r ∈ db.orders := List.mem_of_find?_eq_some h

/-- With unique ids, the query of `GetOrder` finds each order's row under its id
and user. -/
theorem find?_getOrder {db : Db} (hi : OrdersInv db) {r : OrderRow} (hr : r ∈ db.orders) :
    db.orders.find? (fun r' => r'.orderId = r.orderId ∧ r'.userId = r.userId) = some r := by
  cases h : db.orders.find? (fun r' => r'.orderId = r.orderId ∧ r'.userId = r.userId) with
  | none => exact absurd (by simp) (List.find?_eq_none.1 h r hr)
  | some r' =>
    have h' := List.find?_some h
    simp only [decide_eq_true_eq] at h'
    rw [eq_of_mem_orders hi (mem_of_find? h) hr h'.1]

theorem cacheAgrees_step {st : State} (hc : CacheAgrees st) (op : Op) : CacheAgrees (step st op).1 := by
  cases op with
  | createOrder req f o t e =>
    rcases createOrder_cases f req o t e st with ⟨_, h⟩ | ⟨-, -, -, -, -, h⟩ | ⟨-, _, -, -, -, h⟩ <;>
      simp only [step, h]
    · exact hc
    · exact hc.of_orders (fun _ => rfl) fun r hr => List.mem_append_left _ hr
    · exact hc
  | getOrder req f =>
    rcases getOrder_cases f req st with h | ⟨oid, r, hr, h⟩ <;> simp only [step, h]
    · exact hc
    · intro s c hl
      simp only [lookup_setOrder] at hl
      split_ifs at hl with hs
      · obtain ⟨-, -, rfl⟩ := hs
        cases hl
        exact ⟨r, mem_of_find? hr, rfl, rfl, .inl rfl⟩
      · exact hc s c hl
  | handleMessage m f =>
    rcases handleMessage_cases f m st.db with h | ⟨ev, msgId, orderId, -, -, h⟩ <;> simp only [step, h]
    · exact hc
    · intro s c hl
      obtain ⟨r, hr, h1, h2, h3⟩ := hc s c hl
      by_cases hn : r.orderId = orderId ∧ r.status = .new
      · refine ⟨{ r with status := newStatus ev.status }, ?_, h1, h2, .inr (h3.elim (·.trans hn.2) id)⟩
        exact List.mem_map.2 ⟨r, hr, by simp [hn]⟩
      · exact ⟨r, List.mem_map.2 ⟨r, hr, by simp [hn]⟩, h1, h2, h3⟩
  | publishOnce batch oc => exact hc
  | expireOrder o =>
    intro s c hl
    simp only [step, RedisCache.lookup_expire, OrderCache.key_inj] at hl
    split_ifs at hl
    exact hc s c hl

theorem Reachable.cacheAgrees {st : State} (h : Reachable st) : CacheAgrees st := by
  induction h with
  | init b => intro s c hl; cases b <;> cases hl
  | step op _ ih => exact cacheAgrees_step ih op

/-- **Through an agreeing cache `GetOrder` answers as the uncached service, or
answers `NEW` for an order the database has settled**, as long as the database
read it would make does not fail. -/
theorem getOrder_cached {st : State} (hc : CacheAgrees st) (hi : OrdersInv st.db) {f : Faults}
    (hf : f .getOrder = false) (req : GetOrderRequest) :
    (getOrder f req st).2 = (getOrder f req ⟨st.db, none⟩).2 ∨
    ∃ o, (getOrder f req ⟨st.db, none⟩).2 = .ok o ∧ o.status ≠ .new ∧
      (getOrder f req st).2 = .ok { o with status := .new } := by
  unfold getOrder
  split
  · exact .inl rfl
  · split
    · exact .inl rfl
    · rename_i oid hoid
      simp only [RedisCache.get_none]
      cases hg : st.cache.get (OrderCache.key req.orderId) (f .cacheGet) with
      | error => exact .inl (readOrder_snd _ _ _ _ _)
      | ok v =>
        cases v with
        | none => exact .inl (readOrder_snd _ _ _ _ _)
        | some c =>
          dsimp only
          split
          · rename_i hu
            obtain ⟨r, hr, hs, hcr, hst⟩ := hc _ c (RedisCache.get_eq_ok_some.1 hg).2
            have hro : r.orderId = oid := by
              rw [← hs, uuidParse_text] at hoid
              exact Option.some.inj hoid
            have hru : r.userId = req.userId := by rw [← hu, hcr]; rfl
            simp only [readOrder, hf, roundTrip_false, Queries.getOrder, ← hro, ← hru, find?_getOrder hi hr]
            rcases hst with hst | hst
            · exact .inl (by rw [hcr, hst]; rfl)
            · by_cases hn : r.status = .new
              · exact .inl (by rw [hcr, hst, ← hn]; rfl)
              · exact .inr ⟨r.toOrder, rfl, hn, by rw [hcr, hst]⟩
          · exact .inl (readOrder_snd _ _ _ _ _)

/-! ## What `GetOrder` answers -/

/-- **The database read of `GetOrder` answers the row of `oid` when it belongs to
`u`.** -/
theorem readOrder_ok {f : Faults} {oid : Uuid} {u : String} {st : State} {o : Order}
    (h : (readOrder f oid u st).2 = .ok o) :
    ∃ r ∈ st.db.orders, r.orderId = oid ∧ r.userId = u ∧ o = r.toOrder := by
  unfold readOrder at h
  cases hf : f .getOrder
  · cases hq : st.db.orders.find? (fun r => r.orderId = oid ∧ r.userId = u) with
    | none => simp only [hf, roundTrip_false, Queries.getOrder, hq] at h; cases h
    | some r =>
      simp only [hf, roundTrip_false, Queries.getOrder, hq, Except.ok.injEq] at h
      have hr := List.find?_some hq
      simp only [decide_eq_true_eq] at hr
      exact ⟨r, mem_of_find? hq, hr.1, hr.2, h.symm⟩
  · simp [hf] at h

/-- **Through an agreeing cache, `GetOrder` answers an order of the database under
the requested id and user**: every field but the status is the row's, and the
status is the row's or a stale `NEW`. -/
theorem getOrder_ok {st : State} (hc : CacheAgrees st) {f : Faults} {req : GetOrderRequest} {o : Order}
    (h : (getOrder f req st).2 = .ok o) :
    ∃ r ∈ st.db.orders, uuidParse req.orderId = some r.orderId ∧ r.userId = req.userId ∧
      o = { r.toOrder with status := o.status } ∧ (o.status = r.status ∨ o.status = .new) := by
  unfold getOrder at h
  split at h
  · cases h
  split at h
  · cases h
  rename_i oid hoid
  have hread (h : (readOrder f oid req.userId st).2 = .ok o) : ∃ r ∈ st.db.orders,
      uuidParse req.orderId = some r.orderId ∧ r.userId = req.userId ∧
      o = { r.toOrder with status := o.status } ∧ (o.status = r.status ∨ o.status = .new) := by
    obtain ⟨r, hr, rfl, hu, rfl⟩ := readOrder_ok h
    exact ⟨r, hr, hoid, hu, rfl, .inl rfl⟩
  split at h
  · split at h
    · rename_i c hg hu
      rw [← Except.ok.inj h]
      obtain ⟨r, hr, h1, h2, h3⟩ := hc _ c (RedisCache.get_eq_ok_some.1 hg).2
      exact ⟨r, hr, by rw [← h1, uuidParse_text], (congrArg Order.userId h2).symm.trans hu, h2, h3⟩
    · exact hread h
  · exact hread h

/-- **`GetOrder` answers only with the caller's own order.**  In every state
reached from an empty store, with the cache enabled or not, an order that
`GetOrder(u, o)` answers with is the order of the database that `o` names under
`uuid.Parse` — in any spelling the library accepts — and it belongs to `u`; its
fields are the row's, except that its status may be a stale `NEW`. -/
theorem getOrder_answers_own_order (cacheEnabled : Bool) (ops : List Op) :
    let st := exec (State.init cacheEnabled) ops
    ∀ f req o, (getOrder f req st).2 = .ok o →
      ∃ r ∈ st.db.orders, uuidParse req.orderId = some r.orderId ∧ r.userId = req.userId ∧
        o = { r.toOrder with status := o.status } ∧ (o.status = r.status ∨ o.status = .new) :=
  fun _ _ _ h => getOrder_ok ((Reachable.init cacheEnabled).exec ops).cacheAgrees h

/-! ## The database does not see the cache -/

theorem createOrder_db_cache (f : Faults) (req : CreateOrderRequest) (o : Uuid) (t : Nat) (e : Uuid)
    (st : State) : (createOrder f req o t e st).1.db = (createOrder f req o t e ⟨st.db, none⟩).1.db := by
  unfold createOrder
  split
  · rfl
  · split
    · rfl
    · split
      · rfl
      · dsimp only; split <;> rfl

theorem step_db_cache (st : State) (op : Op) : (step st op).1.db = (step ⟨st.db, none⟩ op).1.db := by
  cases op with
  | createOrder req f o t e => exact createOrder_db_cache f req o t e st
  | getOrder req f => simp [step]
  | _ => rfl

theorem exec_db_congr : ∀ {s s' : State} (ops : List Op), s.db = s'.db → (exec s ops).db = (exec s' ops).db
  | _, _, [], h => h
  | s, s', op :: ops, h => exec_db_congr ops (by rw [step_db_cache s, step_db_cache s', h])

theorem step_cache_none {st : State} (h : st.cache = none) (op : Op) : (step st op).1.cache = none := by
  cases op with
  | createOrder req f o t e =>
    rcases createOrder_cases f req o t e st with ⟨_, h'⟩ | ⟨-, -, -, -, -, h'⟩ | ⟨-, _, -, -, -, h'⟩ <;>
      simp [step, h', h]
  | getOrder req f =>
    rcases getOrder_cases f req st with h' | ⟨_, _, -, h'⟩ <;> simp [step, h', h, OrderCache.setOrder]
  | _ => simp [step, h]

theorem exec_cache_none : ∀ {st : State} (ops : List Op), st.cache = none → (exec st ops).cache = none
  | _, [], h => h
  | _, op :: ops, h => exec_cache_none ops (step_cache_none h op)

/-! ## The cached and the uncached service -/

/-- **A cached `GetOrder` can answer `NEW` for a finished order.**  Create an
order, read it (which caches it in `NEW`), deliver a `SUCCESS` result for it: the
consumer commits `FINISHED` without touching the cache, so `GetOrder` answers
`NEW` with the cache enabled and `FINISHED` without. -/
theorem getOrder_stale_after_result :
    let o : Uuid := ⟨"00000000-0000-0000-0000-000000000001", by decide⟩
    let e : Uuid := ⟨"00000000-0000-0000-0000-000000000002", by decide⟩
    let ops := [.createOrder ⟨"u", 50, "book", ""⟩ Faults.none o 0 e, .getOrder ⟨"u", o.text⟩ Faults.none,
      .handleMessage ⟨o.text, .paymentResult ⟨"00000000-0000-0000-0000-000000000003", o.text, "u",
        .success, ""⟩⟩ Faults.none]
    (getOrder Faults.none ⟨"u", o.text⟩ (exec (State.init true) ops)).2 =
      .ok ⟨o.text, "u", 50, "book", .new, 0⟩ ∧
    (getOrder Faults.none ⟨"u", o.text⟩ (exec (State.init false) ops)).2 =
      .ok ⟨o.text, "u", 50, "book", .finished, 0⟩ :=
  ⟨rfl, rfl⟩

/-- **The cached service answers as the uncached one, up to a stale `NEW`.**  On
every run from an empty store the database evolves the same with the order cache
enabled and disabled, and in the state reached every `GetOrder` whose database
read would succeed answers with the cache enabled exactly what it answers with
it disabled, except that it may answer an order the database has moved to
`FINISHED` or `CANCELLED` with status `NEW`, all its other fields equal. -/
theorem getOrder_cached_vs_uncached (ops : List Op) :
    (exec (State.init true) ops).db = (exec (State.init false) ops).db ∧
    ∀ (f : Faults) (req : GetOrderRequest), f .getOrder = false →
      (getOrder f req (exec (State.init true) ops)).2 = (getOrder f req (exec (State.init false) ops)).2 ∨
      ∃ o, (getOrder f req (exec (State.init false) ops)).2 = .ok o ∧ o.status ≠ .new ∧
        (getOrder f req (exec (State.init true) ops)).2 = .ok { o with status := .new } := by
  have hdb : (exec (State.init true) ops).db = (exec (State.init false) ops).db := exec_db_congr ops rfl
  have hoff : exec (State.init false) ops = ⟨(exec (State.init true) ops).db, none⟩ := by
    rw [hdb]; exact congrArg (State.mk _) (exec_cache_none ops rfl)
  have hr := (Reachable.init true).exec ops
  refine ⟨hdb, fun f req hf => ?_⟩
  rw [hoff]
  exact getOrder_cached hr.cacheAgrees hr.ordersInv hf req

/-! ## Every order can be read -/

/-- Every order passed `CreateOrder`'s checks: it has a user, a positive amount
and a description. -/
def RowsChecked (db : Db) : Prop := ∀ r ∈ db.orders, r.userId ≠ "" ∧ 0 < r.amount ∧ r.description ≠ ""

theorem rowsChecked_step {st : State} (h : RowsChecked st.db) (op : Op) : RowsChecked (step st op).1.db := by
  cases op with
  | createOrder req f o t e =>
    rcases createOrder_cases f req o t e st with ⟨_, hc⟩ | ⟨hu, ha, hd, -, -, hc⟩ | ⟨-, _, -, -, -, hc⟩ <;>
      simp only [step, hc]
    · exact h
    · exact fun r hr => (List.mem_append.1 hr).elim (h r) fun hr => List.mem_singleton.1 hr ▸ ⟨hu, ha, hd⟩
    · exact h
  | getOrder req f => simpa [step] using h
  | handleMessage m f =>
    rcases handleMessage_cases f m st.db with hc | ⟨_, _, _, -, -, hc⟩ <;> simp only [step, hc]
    · exact h
    · intro r hr
      obtain ⟨r₀, hr₀, rfl⟩ := List.mem_map.1 hr
      split <;> exact h r₀ hr₀
  | publishOnce batch oc => exact h
  | expireOrder o => exact h

theorem Reachable.rowsChecked {st : State} (h : Reachable st) : RowsChecked st.db := by
  induction h with
  | init => intro _ h; cases h
  | step op _ ih => exact rowsChecked_step ih op

/-- The database path of `GetOrder` finds the row of an order under its own id
and user. -/
theorem readOrder_of_mem {st : State} (hi : OrdersInv st.db) {r : OrderRow} (hr : r ∈ st.db.orders) :
    (readOrder Faults.none r.orderId r.userId st).2 = .ok r.toOrder := by
  unfold readOrder
  cases hq : st.db.orders.find? (fun r' => r'.orderId = r.orderId ∧ r'.userId = r.userId) with
  | none => simpa using List.find?_eq_none.1 hq r hr
  | some r' =>
    have hp := List.find?_some hq
    simp only [decide_eq_true_eq] at hp
    obtain rfl := eq_of_mem_orders hi (mem_of_find? hq) hr hp.1
    simp only [Faults.none, roundTrip_false, Queries.getOrder, hq]

/-- **`GetOrder` finds every order.**  In every reachable state, a `GetOrder` in
which nothing fails, for the id and the user of an order of the table, answers
with that order: every field but the status is the row's, and the status is the
row's, or `NEW` from a cache entry written before the order settled. -/
theorem getOrder_finds_every_order {st : State} (h : Reachable st) {r : OrderRow} (hr : r ∈ st.db.orders) :
    ∃ o, (getOrder Faults.none ⟨r.userId, r.orderId.text⟩ st).2 = .ok o ∧
      o = { r.toOrder with status := o.status } ∧ (o.status = r.status ∨ o.status = .new) := by
  have hi := h.ordersInv
  have hdb : ∃ o, (readOrder Faults.none r.orderId r.userId st).2 = .ok o ∧
      o = { r.toOrder with status := o.status } ∧ (o.status = r.status ∨ o.status = .new) :=
    ⟨r.toOrder, readOrder_of_mem hi hr, rfl, .inl rfl⟩
  unfold getOrder
  rw [if_neg (by simp [(h.rowsChecked r hr).1, Uuid.text_ne_empty]), uuidParse_text]
  dsimp only
  split
  · next cached hg =>
    split
    · obtain ⟨r', hr', hid, hc, hst⟩ := h.cacheAgrees _ _ (RedisCache.get_eq_ok_some.1 hg).2
      obtain rfl := eq_of_mem_orders hi hr' hr (Uuid.text_injective hid)
      exact ⟨cached, rfl, hc, hst⟩
    · exact hdb
  · exact hdb

theorem getOrder_finds_every_order_cached :
    let o : Uuid := ⟨"00000000-0000-0000-0000-00000000000a", by decide⟩
    let e : Uuid := ⟨"00000000-0000-0000-0000-000000000001", by decide⟩
    let st := exec (State.init true)
      [.createOrder ⟨"u", 50, "book", ""⟩ Faults.none o 0 e, .getOrder ⟨"u", o.text⟩ Faults.none]
    let r : OrderRow := ⟨o, "u", 50, "book", .new, 0, none⟩
    Reachable st ∧ r ∈ st.db.orders ∧ ∃ o, (getOrder Faults.none ⟨r.userId, r.orderId.text⟩ st).2 = .ok o ∧
      o = { r.toOrder with status := o.status } ∧ (o.status = r.status ∨ o.status = .new) := by
  intro o e st r
  have hs : Reachable st := (Reachable.init true).exec _
  have hr : r ∈ st.db.orders := by decide
  exact ⟨hs, hr, getOrder_finds_every_order hs hr⟩

end PaymentsService.Orders
