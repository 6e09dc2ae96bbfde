import PaymentsService.Orders.Handlers
import PaymentsService.Orders.PageToken
import Mathlib.Data.List.Sort

/-!
# `ListOrders` and its page walk

`Handlers.ListOrders` answers one page of a user's orders, newest first, and
when the page is full, the token of the next one.  A client lists all of a
user's orders by calling it with no token, then with each token it gets back,
until a page comes without one.  This module models the handler, its query and
that walk, and proves what the walk returns over every table and page size.

## Main definitions

* `Uuid.value`, `OrderRow.listedBefore`, `Db.ordersOf` — `ORDER BY created_at
  DESC, order_id DESC` over the rows of one user.
* `Queries.listOrders` — the `ListOrders` query, with its `LIMIT` and `OFFSET`.
* `pageLimit`, `pageOffset`, `listOrders` — `Handlers.ListOrders`.
* `listAll` — the client's walk; `listPage` the answer it gets at each page.

## Main results

* `listOrders_listPage` — one call at the offset of page `i`.
* `listAll_from_pages`, `listAll_from_wraps` — the walk from page `i` on, by
  induction on the pages left.
* `listAll_lists_every_order` — while the offset of the last page fits in an
  `int32`, the walk ends after `N / l + 1` pages, which list every order of the
  user once, in the query's order, and each token encodes the number of orders
  returned so far.
* `listAll_wraps` — past that bound, `offset + limit` wraps to a negative
  `int32` and the walk ends in `Internal`.
* `decodeOffset_accepts_out_of_range` — tokens no `ListOrders` wrote that the
  handler still takes: one runs the query with a negative offset, another
  names the first page.

## Design notes

**The order of `uuid`s.**  Postgres compares two `uuid` values byte by byte,
that is, as the 128-bit numbers their 32 hex digits spell; `Uuid.value` is that
number.  `order_id` is the table's primary key, so no two rows tie on both
columns; `Db.ordersOf` sorts by insertion, which is stable, so it answers every
call on one table with the same list in any case.

**`LIMIT` and `OFFSET` are Postgres's.**  The query's text is in `app.go`; what
it does with its parameters is the server's: a negative `OFFSET` (or `LIMIT`)
fails the statement with `OFFSET must not be negative`, and otherwise `OFFSET`
skips that many rows and `LIMIT` keeps at most that many.

**`int32`.**  `limit`, `offset` and the request's `limit` are `int32`, so
`offset + limit` is `toInt32` of the sum.  The walk's theorems take the
request's `limit` below `2 ^ 31`, as an `int32` is.
-/

namespace PaymentsService

/-- The value of a hex digit of a canonical UUID text. -/
def hexValue (c : Char) : Nat := if c.isDigit then c.toNat - 48 else c.toNat - 87

/-- **The 128-bit number a UUID spells**: its 32 hex digits, the dashes skipped. -/
def Uuid.value (u : Uuid) : Nat :=
  u.text.data.foldl (fun v c => if c = '-' then v else v * 16 + hexValue c) 0

namespace Orders

/-- **`a` comes before `b` in `ORDER BY created_at DESC, order_id DESC`.** -/
def OrderRow.listedBefore (a b : OrderRow) : Prop :=
  b.createdAt < a.createdAt ∨ (b.createdAt = a.createdAt ∧ b.orderId.value ≤ a.orderId.value)

instance : DecidableRel OrderRow.listedBefore := fun a b =>
  inferInstanceAs (Decidable (b.createdAt < a.createdAt ∨
    (b.createdAt = a.createdAt ∧ b.orderId.value ≤ a.orderId.value)))

instance : IsTotal OrderRow OrderRow.listedBefore :=
  ⟨fun a b => by unfold OrderRow.listedBefore; omega⟩

instance : IsTrans OrderRow OrderRow.listedBefore :=
  ⟨fun a b c => by unfold OrderRow.listedBefore; omega⟩

/-- The rows of user `u`, in the order of the `ListOrders` query. -/
def Db.ordersOf (db : Db) (u : String) : List OrderRow :=
  (db.orders.filter fun r => r.userId = u).insertionSort OrderRow.listedBefore

theorem Db.ordersOf_perm (db : Db) (u : String) :
    (db.ordersOf u).Perm (db.orders.filter fun r => r.userId = u) :=
  List.perm_insertionSort _ _

theorem Db.ordersOf_sorted (db : Db) (u : String) : (db.ordersOf u).Sorted OrderRow.listedBefore :=
  List.sorted_insertionSort _ _

namespace Queries

/-- **`ListOrders`**: `SELECT … FROM orders WHERE user_id = $1 ORDER BY
created_at DESC, order_id DESC LIMIT $2 OFFSET $3`.  Postgres fails the
statement on a negative `LIMIT` or `OFFSET`. -/
def listOrders (userId : String) (limit offset : Int) (db : Db) : Except DbError (List OrderRow × Db) :=
  if limit < 0 ∨ offset < 0 then .error .failed else
    .ok (((db.ordersOf userId).drop offset.toNat).take limit.toNat, db)

end Queries

/-! ## The handler -/

/-- `ordersv1.ListOrdersRequest`. -/
structure ListOrdersRequest where
  userId : String
  limit : Int
  pageToken : String
deriving DecidableEq, Repr

/-- `ordersv1.ListOrdersResponse`. -/
structure ListOrdersResponse where
  orders : List Order
  nextPageToken : String
deriving DecidableEq, Repr

/-- The page size: the request's `limit` when positive, else `50`. -/
def pageLimit (limit : Int) : Int := if limit > 0 then limit else 50

/-- The offset a page token names: `0` for no token, else what `decodeOffset` reads. -/
def pageOffset (token : String) : Option Int := if token = "" then some 0 else decodeOffset token

/-- **`Handlers.ListOrders`**: one page of the user's orders, and the token of the
offset after it when the page is full. -/
def listOrders (f : Faults) (req : ListOrdersRequest) (db : Db) : Except Status ListOrdersResponse :=
  if req.userId = "" then .error (invalidArgument "user_id is required") else
  let limit := pageLimit req.limit
  match pageOffset req.pageToken with
  | none => .error (invalidArgument "invalid page_token")
  | some offset =>
    match roundTrip (f .listOrders) (Queries.listOrders req.userId limit offset) db with
    | .error _ => .error ⟨.internal, "failed to list orders"⟩
    | .ok (rows, _) =>
      .ok ⟨rows.map OrderRow.toOrder,
        if (rows.length : Int) = limit then encodeOffset (toInt32 (offset + limit)) else ""⟩

theorem pageLimit_pos (limit : Int) : 0 < pageLimit limit := by
  unfold pageLimit
  split_ifs <;> omega

theorem pageLimit_lt {limit : Int} (h : limit < 2 ^ 31) : pageLimit limit < 2 ^ 31 := by
  unfold pageLimit
  split_ifs <;> omega

theorem pageOffset_encodeOffset {n : Int} (h0 : -2 ^ 31 ≤ n) (h1 : n < 2 ^ 31) :
    pageOffset (encodeOffset n) = some n := by
  rw [pageOffset, if_neg (encodeOffset_ne_empty n), decodeOffset_encodeOffset h0 h1]

/-- **A token for a negative offset fails the query**, whatever the faults. -/
theorem listOrders_of_neg {u : String} (hu : u ≠ "") (f : Faults) (limit : Int) {token : String} {o : Int}
    (ht : pageOffset token = some o) (ho : o < 0) (db : Db) :
    listOrders f ⟨u, limit, token⟩ db = .error ⟨.internal, "failed to list orders"⟩ := by
  cases hf : f .listOrders <;> simp [listOrders, hu, ht, hf, Queries.listOrders, ho]

/-! ## The page walk -/

/-- **The client's walk**: call `ListOrders` with `token`, then with each token
that comes back, until a page comes without one.  `fuel` bounds the calls. -/
def listAll (f : Faults) (u : String) (limit : Int) (db : Db) :
    Nat → String → Option (Except Status (List ListOrdersResponse))
  | 0, _ => none
  | fuel + 1, token =>
    match listOrders f ⟨u, limit, token⟩ db with
    | .error s => some (.error s)
    | .ok resp =>
      if resp.nextPageToken = "" then some (.ok [resp])
      else (listAll f u limit db fuel resp.nextPageToken).map fun r => r.map (resp :: ·)

/-- The answer to the call at page `i` of a walk with page size `l`. -/
def listPage (db : Db) (u : String) (l i : Nat) : ListOrdersResponse :=
  ⟨(((db.ordersOf u).drop (i * l)).take l).map OrderRow.toOrder,
    if (i + 1) * l ≤ (db.ordersOf u).length then encodeOffset (toInt32 (((i + 1) * l : Nat) : Int)) else ""⟩

/-- **One call at the offset of page `i`.** -/
theorem listOrders_listPage {u : String} (hu : u ≠ "") (limit : Int) {token : String} {i : Nat}
    (ht : pageOffset token = some ((i * (pageLimit limit).toNat : Nat) : Int)) (db : Db) :
    listOrders Faults.none ⟨u, limit, token⟩ db = .ok (listPage db u (pageLimit limit).toNat i) := by
  have hl := pageLimit_pos limit
  have hcast : ((pageLimit limit).toNat : Int) = pageLimit limit := Int.toNat_of_nonneg hl.le
  have hfull : ((((db.ordersOf u).drop (i * (pageLimit limit).toNat)).take (pageLimit limit).toNat).length : Int) =
      pageLimit limit ↔ (i + 1) * (pageLimit limit).toNat ≤ (db.ordersOf u).length := by
    rw [List.length_take, List.length_drop, Nat.succ_mul]
    omega
  have hsum : ((i * (pageLimit limit).toNat : Nat) : Int) + pageLimit limit =
      (((i + 1) * (pageLimit limit).toNat : Nat) : Int) := by
    rw [Nat.succ_mul, Int.natCast_add, hcast]
  simp only [listOrders, hu, if_false, ht, Faults.none, roundTrip_false, Queries.listOrders]
  rw [if_neg (by omega), Int.toNat_ofNat]
  simp only [listPage, hfull, hsum]

/-- **A full page whose end fits in an `int32`**: the walk answers it and goes on
from the token of the next page. -/
theorem listAll_full_page {u : String} (hu : u ≠ "") (limit : Int) (db : Db) (fuel : Nat) {token : String}
    {i : Nat} (ht : pageOffset token = some ((i * (pageLimit limit).toNat : Nat) : Int))
    (hfull : (i + 1) * (pageLimit limit).toNat ≤ (db.ordersOf u).length)
    (hfit : (i + 1) * (pageLimit limit).toNat < 2 ^ 31) :
    listAll Faults.none u limit db (fuel + 1) token =
      (listAll Faults.none u limit db fuel (encodeOffset (((i + 1) * (pageLimit limit).toNat : Nat) : Int))).map
        fun r => r.map (listPage db u (pageLimit limit).toNat i :: ·) := by
  have htok : (listPage db u (pageLimit limit).toNat i).nextPageToken =
      encodeOffset (((i + 1) * (pageLimit limit).toNat : Nat) : Int) := by
    rw [listPage, if_pos hfull, toInt32_of_lt (by omega) (by omega)]
  rw [listAll, listOrders_listPage hu limit ht]
  simp only [htok, encodeOffset_ne_empty, if_false]

/-- **A page that is not full ends the walk.** -/
theorem listAll_last_page {u : String} (hu : u ≠ "") (limit : Int) (db : Db) (fuel : Nat) {token : String}
    {i : Nat} (ht : pageOffset token = some ((i * (pageLimit limit).toNat : Nat) : Int))
    (hlast : (db.ordersOf u).length < (i + 1) * (pageLimit limit).toNat) :
    listAll Faults.none u limit db (fuel + 1) token = some (.ok [listPage db u (pageLimit limit).toNat i]) := by
  have htok : (listPage db u (pageLimit limit).toNat i).nextPageToken = "" := by
    rw [listPage, if_neg (by omega)]
  rw [listAll, listOrders_listPage hu limit ht]
  exact if_pos htok

/-- **A full page whose end does not fit**: its token names `int32` of the end,
a negative offset, and the next call fails. -/
theorem listAll_wrap_page {u : String} (hu : u ≠ "") (limit : Int) (db : Db) (fuel : Nat) {token : String}
    {i : Nat} (ht : pageOffset token = some ((i * (pageLimit limit).toNat : Nat) : Int))
    (hfull : (i + 1) * (pageLimit limit).toNat ≤ (db.ordersOf u).length)
    (hwrap : 2 ^ 31 ≤ (i + 1) * (pageLimit limit).toNat) (hlt : (i + 1) * (pageLimit limit).toNat < 2 ^ 32) :
    listAll Faults.none u limit db (fuel + 1 + 1) token = some (.error ⟨.internal, "failed to list orders"⟩) := by
  have hneg : toInt32 (((i + 1) * (pageLimit limit).toNat : Nat) : Int) < 0 := by
    unfold toInt32
    split <;> omega
  have htok : (listPage db u (pageLimit limit).toNat i).nextPageToken =
      encodeOffset (toInt32 (((i + 1) * (pageLimit limit).toNat : Nat) : Int)) := by
    rw [listPage, if_pos hfull]
  rw [listAll, listOrders_listPage hu limit ht]
  simp only [htok, encodeOffset_ne_empty, if_false]
  rw [listAll, listOrders_of_neg hu _ limit (pageOffset_encodeOffset (toInt32_lt _).1 (toInt32_lt _).2) hneg]
  rfl

/-- **The walk from page `i` on, while every offset fits**: with `k` pages left,
it answers pages `i … i + k` and stops. -/
theorem listAll_from_pages {u : String} (hu : u ≠ "") (limit : Int) (db : Db)
    (hfit : (db.ordersOf u).length / (pageLimit limit).toNat * (pageLimit limit).toNat < 2 ^ 31) :
    ∀ k i (token : String) (fuel : Nat), pageOffset token = some ((i * (pageLimit limit).toNat : Nat) : Int) →
      i + k = (db.ordersOf u).length / (pageLimit limit).toNat → k < fuel →
      listAll Faults.none u limit db fuel token =
        some (.ok ((List.range' i (k + 1)).map (listPage db u (pageLimit limit).toNat)))
  | _, _, _, 0, _, _, hfuel => absurd hfuel (Nat.not_lt_zero _)
  | 0, i, _, fuel + 1, ht, hk, _ => by
    have hi : i = (db.ordersOf u).length / (pageLimit limit).toNat := hk
    have hl : 0 < (pageLimit limit).toNat := by have := pageLimit_pos limit; omega
    rw [listAll_last_page hu limit db fuel ht (by rw [hi, Nat.succ_mul]; exact Nat.lt_div_mul_add hl)]
    rfl
  | k + 1, i, _, fuel + 1, ht, hk, hfuel => by
    have hle : (i + 1) * (pageLimit limit).toNat ≤
        (db.ordersOf u).length / (pageLimit limit).toNat * (pageLimit limit).toNat :=
      Nat.mul_le_mul_right _ (by omega)
    rw [listAll_full_page hu limit db fuel ht (hle.trans (Nat.div_mul_le_self _ _)) (by omega),
      listAll_from_pages hu limit db hfit k (i + 1) _ fuel (pageOffset_encodeOffset (by omega) (by omega))
        (by omega) (by omega)]
    rfl

/-- **The walk from page `i` on, once the end of page `(2 ^ 31 - 1) / l` is
past `int32` and that page is full**: it fails when it gets there. -/
theorem listAll_from_wraps {u : String} (hu : u ≠ "") {limit : Int} (hlim : limit < 2 ^ 31) (db : Db)
    (hN : ((2 ^ 31 - 1) / (pageLimit limit).toNat + 1) * (pageLimit limit).toNat ≤ (db.ordersOf u).length) :
    ∀ k i (token : String) (fuel : Nat), pageOffset token = some ((i * (pageLimit limit).toNat : Nat) : Int) →
      i + k = (2 ^ 31 - 1) / (pageLimit limit).toNat → k + 2 ≤ fuel →
      listAll Faults.none u limit db fuel token = some (.error ⟨.internal, "failed to list orders"⟩)
  | _, _, _, 0, _, _, hfuel => absurd hfuel (by omega)
  | _, _, _, 1, _, _, hfuel => absurd hfuel (by omega)
  | 0, i, _, fuel + 1 + 1, ht, hk, _ => by
    have hi : i = (2 ^ 31 - 1) / (pageLimit limit).toNat := hk
    have hl : 0 < (pageLimit limit).toNat := by have := pageLimit_pos limit; omega
    have hsmall : (pageLimit limit).toNat < 2 ^ 31 := by have := pageLimit_lt hlim; omega
    have hbelow := Nat.div_mul_le_self (2 ^ 31 - 1) (pageLimit limit).toNat
    have habove := Nat.lt_div_mul_add (a := 2 ^ 31 - 1) hl
    subst hi
    exact listAll_wrap_page hu limit db fuel ht hN (by rw [Nat.succ_mul]; omega) (by rw [Nat.succ_mul]; omega)
  | k + 1, i, _, fuel + 1 + 1, ht, hk, hfuel => by
    have hle : (i + 1) * (pageLimit limit).toNat ≤ (2 ^ 31 - 1) / (pageLimit limit).toNat * (pageLimit limit).toNat :=
      Nat.mul_le_mul_right _ (by omega)
    have hbelow := Nat.div_mul_le_self (2 ^ 31 - 1) (pageLimit limit).toNat
    have hend : (i + 1) * (pageLimit limit).toNat ≤ (db.ordersOf u).length :=
      hle.trans ((Nat.mul_le_mul_right _ (Nat.le_succ _)).trans hN)
    rw [listAll_full_page hu limit db (fuel + 1) ht hend (by omega),
      listAll_from_wraps hu hlim db hN k (i + 1) _ (fuel + 1)
        (pageOffset_encodeOffset (by omega) (by omega)) (by omega) (by omega)]
    rfl

/-- The first `p` pages, joined, are the first `p * l` rows. -/
theorem join_listPage (db : Db) (u : String) (l : Nat) : ∀ p,
    (((List.range p).map (listPage db u l)).map (·.orders)).flatten = ((db.ordersOf u).take (p * l)).map OrderRow.toOrder
  | 0 => by simp
  | p + 1 => by
    rw [List.range_succ, List.map_append, List.map_append, List.flatten_append, join_listPage db u l p, Nat.succ_mul,
      List.take_add, List.map_append]
    simp [listPage]

/-- **The walk lists every order of the user once, in the query's order**, when
the offset of its last page fits in an `int32`: it ends after `N / l + 1` calls,
its pages joined are the user's rows sorted by `created_at, order_id`
descending, each token but the last encodes the number of orders returned so
far, and the last page has none. -/
theorem listAll_lists_every_order (u : String) (hu : u ≠ "") (limit : Int) (db : Db)
    (hfit : (db.ordersOf u).length / (pageLimit limit).toNat * (pageLimit limit).toNat < 2 ^ 31)
    (fuel : Nat) (hfuel : (db.ordersOf u).length / (pageLimit limit).toNat < fuel) :
    ∃ resps, listAll Faults.none u limit db fuel "" = some (.ok resps) ∧
      resps.length = (db.ordersOf u).length / (pageLimit limit).toNat + 1 ∧
      (∃ rows : List OrderRow, rows.Perm (db.orders.filter fun r => r.userId = u) ∧ rows.Sorted OrderRow.listedBefore ∧
        (resps.map (·.orders)).flatten = rows.map OrderRow.toOrder) ∧
      (∀ i, i + 1 < resps.length → (resps[i]?).map (·.nextPageToken) =
        some (encodeOffset ((resps.take (i + 1)).map (·.orders)).flatten.length)) ∧
      resps.getLast?.map (·.nextPageToken) = some "" := by
  have hl : 0 < (pageLimit limit).toNat := by have := pageLimit_pos limit; omega
  have hend := Nat.lt_div_mul_add (a := (db.ordersOf u).length) hl
  have hwalk := listAll_from_pages hu limit db hfit _ 0 "" fuel (by rw [Nat.zero_mul]; rfl) (Nat.zero_add _) hfuel
  rw [← List.range_eq_range'] at hwalk
  refine ⟨_, hwalk, by simp, ⟨_, db.ordersOf_perm u, db.ordersOf_sorted u, ?_⟩, fun i hi => ?_, ?_⟩
  · rw [join_listPage, List.take_of_length_le (by rw [Nat.succ_mul]; omega)]
  · simp only [List.length_map, List.length_range] at hi
    have hle : (i + 1) * (pageLimit limit).toNat ≤
        (db.ordersOf u).length / (pageLimit limit).toNat * (pageLimit limit).toNat :=
      Nat.mul_le_mul_right _ (by omega)
    have hfull := hle.trans (Nat.div_mul_le_self _ _)
    have hcount : ((((List.range ((db.ordersOf u).length / (pageLimit limit).toNat + 1)).map
        (listPage db u (pageLimit limit).toNat)).take (i + 1)).map (·.orders)).flatten.length =
        (i + 1) * (pageLimit limit).toNat := by
      rw [← List.map_take, List.take_range, Nat.min_eq_left (by omega), join_listPage, List.length_map,
        List.length_take, Nat.min_eq_left hfull]
    rw [hcount, List.getElem?_map, List.getElem?_range (by omega), Option.map_some', Option.map_some', listPage,
      if_pos hfull, toInt32_of_lt (by omega) (by omega)]
  · rw [List.range_succ, List.map_append, List.map_singleton, List.getLast?_concat, Option.map_some', listPage,
      if_neg (by rw [Nat.succ_mul]; omega)]

theorem listAll_lists_every_order_two_pages :
    let row := fun (id : String) (h : isUuidText id = true) (u : String) (t : Nat) =>
      (⟨⟨id, h⟩, u, 10, "d", .new, t, none⟩ : OrderRow)
    let db : Db := ⟨[row "00000000-0000-0000-0000-000000000001" (by decide) "u" 1,
      row "00000000-0000-0000-0000-000000000002" (by decide) "v" 2,
      row "00000000-0000-0000-0000-000000000003" (by decide) "u" 3,
      row "00000000-0000-0000-0000-000000000004" (by decide) "u" 3], [], Outbox.empty⟩
    (db.ordersOf "u").length / (pageLimit 2).toNat * (pageLimit 2).toNat < 2 ^ 31 ∧
    ∃ resps, listAll Faults.none "u" 2 db 2 "" = some (.ok resps) ∧
      resps.length = (db.ordersOf "u").length / (pageLimit 2).toNat + 1 ∧
      (∃ rows : List OrderRow, rows.Perm (db.orders.filter fun r => r.userId = "u") ∧
        rows.Sorted OrderRow.listedBefore ∧ (resps.map (·.orders)).flatten = rows.map OrderRow.toOrder) ∧
      (∀ i, i + 1 < resps.length → (resps[i]?).map (·.nextPageToken) =
        some (encodeOffset ((resps.take (i + 1)).map (·.orders)).flatten.length)) ∧
      resps.getLast?.map (·.nextPageToken) = some "" := by
  intro row db
  exact ⟨by decide, listAll_lists_every_order "u" (by decide) 2 db (by decide) 2 (by decide)⟩

/-- **Past `int32`, the walk fails.**  When the offset of the user's last page is
at least `2 ^ 31`, the page that ends past `2 ^ 31 - 1` is full, its token names
`int32` of its end, a negative offset, and the call with it fails: the walk ends
in `Internal` after `(2 ^ 31 - 1) / l + 2` calls, before it has listed the
user's orders. -/
theorem listAll_wraps (u : String) (hu : u ≠ "") (limit : Int) (hlim : limit < 2 ^ 31) (db : Db)
    (hwrap : 2 ^ 31 ≤ (db.ordersOf u).length / (pageLimit limit).toNat * (pageLimit limit).toNat)
    (fuel : Nat) (hfuel : (2 ^ 31 - 1) / (pageLimit limit).toNat + 2 ≤ fuel) :
    listAll Faults.none u limit db fuel "" = some (.error ⟨.internal, "failed to list orders"⟩) := by
  have hbelow := Nat.div_mul_le_self (2 ^ 31 - 1) (pageLimit limit).toNat
  have hpages : (2 ^ 31 - 1) / (pageLimit limit).toNat < (db.ordersOf u).length / (pageLimit limit).toNat :=
    Nat.lt_of_mul_lt_mul_right (a := (pageLimit limit).toNat) (by omega)
  have hN : ((2 ^ 31 - 1) / (pageLimit limit).toNat + 1) * (pageLimit limit).toNat ≤ (db.ordersOf u).length :=
    (Nat.mul_le_mul_right _ hpages).trans (Nat.div_mul_le_self _ _)
  exact listAll_from_wraps hu hlim db hN _ 0 "" fuel (by rw [Nat.zero_mul]; rfl) (Nat.zero_add _) hfuel

/-- The identifier of the `n`-th row of a table built for a run: the four low
bytes of `n` behind twelve zero bytes.  Not a function of the source. -/
def Uuid.ofNat (n : Nat) : Uuid :=
  ⟨uuidString (List.replicate 12 0 ++ [⟨n / 16777216 % 256, by omega⟩, ⟨n / 65536 % 256, by omega⟩,
    ⟨n / 256 % 256, by omega⟩, ⟨n % 256, by omega⟩]), isUuidText_uuidString (by simp)⟩

theorem Uuid.ofNat_injective {a b : Nat} (ha : a < 2 ^ 32) (hb : b < 2 ^ 32) (h : Uuid.ofNat a = Uuid.ofNat b) :
    a = b := by
  have := uuidString_injective (congrArg Uuid.text h)
  simp only [List.append_cancel_left_eq, List.cons.injEq, Fin.mk.injEq, and_true] at this
  omega

theorem listAll_wraps_at_limit_one :
    let db : Db := ⟨(List.range (2 ^ 31)).map fun n => ⟨Uuid.ofNat n, "u", 10, "d", .new, 0, none⟩, [],
      Outbox.empty⟩
    (db.orders.map (·.orderId)).Nodup ∧
      2 ^ 31 ≤ (db.ordersOf "u").length / (pageLimit 1).toNat * (pageLimit 1).toNat ∧
      listAll Faults.none "u" 1 db (2 ^ 31 + 1) "" = some (.error ⟨.internal, "failed to list orders"⟩) := by
  intro db
  have hnodup : (db.orders.map (·.orderId)).Nodup := by
    simp only [db, List.map_map]
    refine List.nodup_range _ |>.map_on fun a ha b hb h => Uuid.ofNat_injective ?_ ?_ h
    · rw [List.mem_range] at ha; omega
    · rw [List.mem_range] at hb; omega
  have hN : (db.ordersOf "u").length = 2 ^ 31 := by
    rw [Db.ordersOf, List.length_insertionSort, List.filter_eq_self.2 (by simp [db]), List.length_map,
      List.length_range]
  have hwrap : 2 ^ 31 ≤ (db.ordersOf "u").length / (pageLimit 1).toNat * (pageLimit 1).toNat := by
    rw [hN]
    decide
  exact ⟨hnodup, hwrap, listAll_wraps "u" (by decide) 1 (by decide) db hwrap (2 ^ 31 + 1) (by decide)⟩

/-! ## Tokens no `ListOrders` wrote -/

/-- **`decodeOffset` takes tokens outside the offsets `ListOrders` writes.**  The
base64 of `-1` reads as the offset `-1`, which the handler passes to the query,
which fails: `Internal`, not `InvalidArgument`.  The base64 of `4294967296`
reads as `int32(4294967296) = 0`, so that token names the first page. -/
theorem decodeOffset_accepts_out_of_range :
    base64Decode "LTE=".data = some (itoa (-1)) ∧ decodeOffset "LTE=" = some (-1) ∧
      base64Decode "NDI5NDk2NzI5Ng==".data = some (itoa 4294967296) ∧
      decodeOffset "NDI5NDk2NzI5Ng==" = some 0 ∧
      (∀ (f : Faults) (limit : Int) (db : Db),
        listOrders f ⟨"u", limit, "LTE="⟩ db = .error ⟨.internal, "failed to list orders"⟩) ∧
      ∀ (f : Faults) (u : String) (limit : Int) (db : Db),
        listOrders f ⟨u, limit, "NDI5NDk2NzI5Ng=="⟩ db = listOrders f ⟨u, limit, ""⟩ db := by
  refine ⟨by decide, by decide, by decide, by decide,
    fun f limit db => listOrders_of_neg (by decide) f limit (o := -1) (by decide) (by decide) db, fun f u limit db => ?_⟩
  have h : pageOffset "NDI5NDk2NzI5Ng==" = pageOffset "" := by decide
  simp only [listOrders, h]

end Orders

end PaymentsService
