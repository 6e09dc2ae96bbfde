import PaymentsService.Orders.Requests

/-!
# Keyed order creation

`CreateOrder` with a key `k` inserts the order carrying the key under `ON CONFLICT
(user_id, idempotency_key) DO NOTHING`; a conflict reads the row of the key back,
answers with it when amount and description match, and refuses otherwise, in
both cases without writing.  So the row of `(u, k)` is inserted at most once,
every success answers with it, and a replay changes nothing — no second
`PaymentRequested` either.

## Main results

* `count_keys` — the number of rows under `(u, k)` is the multiplicity of the
  pair among the keyed rows, so `OrdersInv.keys_nodup` leaves at most one.
* `byKey?_dbStep` — the row of a key is never removed, and only its status moves.
* `createOrder_of_byKey?`, `createOrder_none_of_byKey?` — a call on a used key
  changes nothing, succeeds only with the row's amount and description and
  answers with the row; with no round trip failing a valid call with other
  parameters is refused with `FailedPrecondition`.
* `createOrder_same_key_once` — over every run, a key creates at most one order,
  and every later call on it replays or is refused.

## Design notes

As for `TopUp`, a non-positive amount or an empty description is refused with
`InvalidArgument` before the key is read (`createOrder_zero_on_used_key`), and a
failing round trip turns any outcome into `Internal`; none of them changes state.
-/

namespace PaymentsService.Orders

theorem count_keys (l : List OrderRow) (u k : String) :
    (l.filterMap fun r => r.idempotencyKey.map (r.userId, ·)).countP (· = (u, k)) =
      l.countP fun r => r.userId = u ∧ r.idempotencyKey = some k := by
  induction l with
  | nil => rfl
  | cons r l ih =>
    cases h : r.idempotencyKey <;> by_cases hu : r.userId = u <;>
      simp [List.filterMap_cons, h, hu, ih, List.countP_cons]

/-- **At most one row per user and key.** -/
theorem OrdersInv.byKey_length_le_one {db : Db} (hi : OrdersInv db) (u k : String) :
    (db.orders.filter fun r => r.userId = u ∧ r.idempotencyKey = some k).length ≤ 1 := by
  rw [← List.countP_eq_length_filter, ← count_keys]
  exact List.nodup_iff_count_le_one.1 hi.keys_nodup (u, k)

theorem byKey?_setStatusIfNew (db : Db) (o : Uuid) (s : OrderStatus) (u k : String) :
    (db.setStatusIfNew o s).byKey? u k =
      (db.byKey? u k).map fun r => if r.orderId = o ∧ r.status = .new then { r with status := s } else r := by
  simp only [Db.byKey?, Db.setStatusIfNew, List.find?_map]
  congr 2
  funext r
  by_cases h : r.orderId = o ∧ r.status = .new <;> simp [h]

/-- **The row of a key is never removed, and only its status moves.** -/
theorem byKey?_dbStep {db db' : Db} {u k : String} {r : OrderRow} (h : DbStep db db')
    (hr : db.byKey? u k = some r) : ∃ r', db'.byKey? u k = some r' ∧ r' = { r with status := r'.status } := by
  cases h with
  | create =>
    refine ⟨r, ?_, rfl⟩
    simp only [Db.byKey?, Db.insertOrder, List.find?_append] at hr ⊢
    rw [hr]; rfl
  | @result _ o s _ _ =>
    have h := byKey?_setStatusIfNew db o s u k
    rw [hr] at h
    exact ⟨_, h, by dsimp only; split <;> rfl⟩
  | _ => exact ⟨r, hr, rfl⟩

theorem byKey?_exec {st : State} {u k : String} {r : OrderRow} (hr : st.db.byKey? u k = some r) :
    ∀ ops, ∃ r', (exec st ops).db.byKey? u k = some r' ∧ r' = { r with status := r'.status }
  | [] => ⟨r, hr, rfl⟩
  | op :: ops => by
    obtain ⟨r₁, h₁, e₁⟩ := byKey?_dbStep (step_dbStep st op) hr
    obtain ⟨r₂, h₂, e₂⟩ := byKey?_exec h₁ ops
    exact ⟨r₂, h₂, by rw [e₂, e₁]⟩

/-! ## One call -/

section Call

variable {f : Faults} {req : CreateOrderRequest} {o : Uuid} {t : Nat} {e : Uuid} {st : State}

/-- **A successful call answers with the row of its key** in the state it leaves. -/
theorem createOrder_ok_byKey? (hk : req.idempotencyKey ≠ "") {ord : Order}
    (h : (createOrder f req o t e st).2 = .ok ord) :
    ∃ r, (createOrder f req o t e st).1.db.byKey? req.userId req.idempotencyKey = some r ∧ ord = r.toOrder := by
  rcases createOrder_cases f req o t e st with ⟨_, h'⟩ | ⟨-, -, -, -, hb, h'⟩ | ⟨-, r, hr, -, -, h'⟩ <;>
    rw [h'] at h ⊢
  · cases h
  · split at h
    · cases h
    · cases h
      refine ⟨req.row o t, ?_, rfl⟩
      simp only [Db.byKey?, Db.insertOrder, List.find?_append]
      rw [show st.db.orders.find? _ = none from hb hk]
      simp [CreateOrderRequest.row, hk]
  · split at h
    · cases h
    · cases h
      exact ⟨r, hr, rfl⟩

/-- **A call on a used key replays it**: it changes nothing, and it succeeds only
with the row's amount and description, answering with the row. -/
theorem createOrder_of_byKey? {r : OrderRow} (hk : req.idempotencyKey ≠ "")
    (hr : st.db.byKey? req.userId req.idempotencyKey = some r) :
    (createOrder f req o t e st).1 = st ∧ ∀ ord, (createOrder f req o t e st).2 = .ok ord →
      req.amount = r.amount ∧ req.description = r.description ∧ ord = r.toOrder := by
  rcases createOrder_cases f req o t e st with ⟨_, h⟩ | ⟨-, -, -, -, hb, -⟩ | ⟨-, r', hr', ha, hd, h⟩
  · rw [h]; exact ⟨rfl, fun _ h => by cases h⟩
  · rw [hb hk] at hr; cases hr
  · rw [hr] at hr'; cases hr'
    rw [h]
    refine ⟨rfl, fun _ h => ?_⟩
    split at h
    · cases h
    · cases h; exact ⟨ha.symm, hd.symm, rfl⟩

/-- **With no round trip failing, a valid call with other parameters on a used
key is refused with `FailedPrecondition`.** -/
theorem createOrder_none_of_byKey? {r : OrderRow} (hu : req.userId ≠ "") (hpos : 0 < req.amount)
    (hd : req.description ≠ "") (hk : req.idempotencyKey ≠ "")
    (hr : st.db.byKey? req.userId req.idempotencyKey = some r)
    (hne : req.amount ≠ r.amount ∨ req.description ≠ r.description) :
    (createOrder Faults.none req o t e st).2 =
      .error ⟨.failedPrecondition, "idempotency key reuse with different parameters"⟩ := by
  have hp : ¬req.amount ≤ 0 := by omega
  have hne' : r.amount ≠ req.amount ∨ r.description ≠ req.description := by
    rcases hne with h | h
    · exact .inl (Ne.symm h)
    · exact .inr (Ne.symm h)
  simp [createOrder, createOrderTx, withTx, Faults.none, hu, hp, hd, hk, hr, hne', Queries.createOrderIdempotent,
    Queries.getOrderByIdempotency, TxError.status?]

end Call

/-! ## Over a run -/

/-- **A key creates at most one order, and is then only replayed.**  Fix a user
`u` and a key `k`.  Along any run from an empty store the row of `(u, k)` appears
at most once, and no state holds two.  Every `CreateOrder` of `u` under `k` that
succeeds answers with the row of the key in the state it leaves.  Once the row
exists it is never removed and only its status moves; every later call under
`(u, k)` changes nothing — in particular it enqueues no event — and succeeds
only with the row's amount and description, answering with the row; with no
round trip failing, a valid call with another amount or description is refused
with `FailedPrecondition`. -/
theorem createOrder_same_key_once (cacheEnabled : Bool) (ops : List Op) (u k : String) (hk : k ≠ "") :
    let st := exec (State.init cacheEnabled) ops
    flipCount (fun st op => (step st op).1) (fun st => (st.db.byKey? u k).isSome)
      (State.init cacheEnabled) ops ≤ 1 ∧
    (st.db.orders.filter fun r => r.userId = u ∧ r.idempotencyKey = some k).length ≤ 1 ∧
    (∀ f amount description o t e ord,
      (createOrder f ⟨u, amount, description, k⟩ o t e st).2 = .ok ord →
      ∃ r, (createOrder f ⟨u, amount, description, k⟩ o t e st).1.db.byKey? u k = some r ∧ ord = r.toOrder) ∧
    ∀ r, st.db.byKey? u k = some r →
      (∀ ops', ∃ r', (exec st ops').db.byKey? u k = some r' ∧ r' = { r with status := r'.status }) ∧
      ∀ f amount description o t e,
        let p := createOrder f ⟨u, amount, description, k⟩ o t e st
        p.1 = st ∧ (∀ ord, p.2 = .ok ord → amount = r.amount ∧ description = r.description ∧ ord = r.toOrder) ∧
        (f = Faults.none → u ≠ "" → 0 < amount → description ≠ "" →
          (amount ≠ r.amount ∨ description ≠ r.description) →
          p.2 = .error ⟨.failedPrecondition, "idempotency key reuse with different parameters"⟩) := by
  have hr := (Reachable.init cacheEnabled).exec ops
  refine ⟨flipCount_le_one (fun (st : State) (op : Op) h => ?_) _ _, hr.ordersInv.byKey_length_le_one u k,
    fun f _ _ _ _ _ _ h => createOrder_ok_byKey? (f := f) hk h, fun r hb => ⟨byKey?_exec hb, ?_⟩⟩
  · obtain ⟨r, hr⟩ := Option.isSome_iff_exists.1 h
    obtain ⟨r', h', -⟩ := byKey?_dbStep (step_dbStep st op) hr
    simp [h']
  · intro f amount description o t e
    obtain ⟨h1, h2⟩ := @createOrder_of_byKey? f ⟨u, amount, description, k⟩ o t e _ r hk hb
    exact ⟨h1, h2, fun hf hu hpos hd hne => hf ▸ createOrder_none_of_byKey? hu hpos hd hk hb hne⟩

theorem createOrder_same_key_once_replayed :
    let o₁ : Uuid := ⟨"00000000-0000-0000-0000-000000000001", by decide⟩
    let o₂ : Uuid := ⟨"00000000-0000-0000-0000-000000000002", by decide⟩
    let e : Uuid := ⟨"00000000-0000-0000-0000-000000000003", by decide⟩
    let ops := [.createOrder ⟨"u", 50, "book", "k"⟩ Faults.none o₁ 0 e,
      .createOrder ⟨"u", 50, "book", "k"⟩ Faults.none o₂ 1 e]
    ("k" : String) ≠ "" ∧
      ((exec (State.init true) ops).db.orders.filter fun r => r.userId = "u" ∧ r.idempotencyKey = some "k").length ≤ 1 :=
  ⟨by decide, (createOrder_same_key_once true _ "u" "k" (by decide)).2.1⟩

/-- **A non-positive amount on a used key is refused with `InvalidArgument`, not
`FailedPrecondition`.**  After `CreateOrder("u", 50, "book", "k")`,
`CreateOrder("u", 0, "book", "k")` fails validation before the key is read. -/
theorem createOrder_zero_on_used_key :
    let o₁ : Uuid := ⟨"00000000-0000-0000-0000-000000000001", by decide⟩
    let o₂ : Uuid := ⟨"00000000-0000-0000-0000-000000000002", by decide⟩
    let e : Uuid := ⟨"00000000-0000-0000-0000-000000000003", by decide⟩
    let st := exec (State.init false) [.createOrder ⟨"u", 50, "book", "k"⟩ Faults.none o₁ 0 e]
    (st.db.byKey? "u" "k").map (·.amount) = some 50 ∧
    createOrder Faults.none ⟨"u", 0, "book", "k"⟩ o₂ 1 e st =
      (st, .error ⟨.invalidArgument, "amount must be > 0"⟩) :=
  ⟨rfl, rfl⟩

end PaymentsService.Orders
