import PaymentsService.Basic

/-!
# The read-through caches

`BalanceCache` (Payments) and `OrderCache` (Orders) are the same code over two
value types: `Get` and `Set` on a `*redis.Client`, keyed by a fixed prefix and an
identifier, with a nil receiver — what `NewBalanceCache(nil, ttl)` and
`NewOrderCache(nil, ttl)` return when no Redis address is configured — turning
both into no-ops.  This module models that code once as `RedisCache`; each
service instantiates it under the source's names.

The JSON encoding is left out: a value is stored as the struct `json.Marshal` was
given, and `json.Unmarshal` of what `Set` wrote gives it back.  A Redis error on
either call is a fault argument, as for the database.  Expiry after the TTL is a
step of its own (`expire`), since time is not modelled.
-/

namespace PaymentsService

/-- A cache handle: `none` is the nil `*BalanceCache` / `*OrderCache` (disabled),
`some store` a connected one with its keyspace. -/
abbrev RedisCache (V : Type) := Option (String → Option V)

namespace RedisCache

variable {V : Type}

/-- `(*Cache).Get`: `(nil, nil)` on a nil receiver or a miss, the stored value on a
hit, the client's error when the round trip fails. -/
def get (c : RedisCache V) (key : String) (fails : Bool) : Except Unit (Option V) :=
  match c with
  | none => .ok none
  | some store => if fails then .error () else .ok (store key)

/-- `(*Cache).Set`: store `v` under `key`; a nil receiver or a failed round trip
leaves the keyspace as it was (the handlers log the error and go on). -/
def set (c : RedisCache V) (key : String) (v : V) (fails : Bool) : RedisCache V :=
  match c with
  | none => none
  | some store => if fails then some store else some (Function.update store key (some v))

/-- The entry under `key` reaching its TTL. -/
def expire (c : RedisCache V) (key : String) : RedisCache V :=
  c.map fun store => Function.update store key none

/-- The value under `key`, if the cache is enabled and holds one. -/
def lookup (c : RedisCache V) (key : String) : Option V := c.bind fun store => store key

@[simp] theorem get_none (key : String) (fails : Bool) : get (none : RedisCache V) key fails = .ok none :=
  rfl

@[simp] theorem set_none (key : String) (v : V) (fails : Bool) : set (none : RedisCache V) key v fails = none :=
  rfl

@[simp] theorem expire_none (key : String) : expire (none : RedisCache V) key = none := rfl

@[simp] theorem lookup_none (key : String) : lookup (none : RedisCache V) key = none := rfl

@[simp] theorem lookup_some (store : String → Option V) (key : String) :
    lookup (some store) key = store key := rfl

/-- A hit is exactly a stored value the round trip reads back. -/
theorem get_eq_ok_some {c : RedisCache V} {key : String} {fails : Bool} {v : V} :
    c.get key fails = .ok (some v) ↔ fails = false ∧ c.lookup key = some v := by
  cases c <;> cases fails <;> simp [get, lookup]

theorem lookup_set (c : RedisCache V) (key key' : String) (v : V) (fails : Bool) :
    (c.set key v fails).lookup key' =
      if c.isSome ∧ fails = false ∧ key' = key then some v else c.lookup key' := by
  cases c <;> cases fails <;> by_cases h : key' = key <;> simp [set, lookup, h]

theorem lookup_expire (c : RedisCache V) (key key' : String) :
    (c.expire key).lookup key' = if key' = key then none else c.lookup key' := by
  cases c <;> by_cases h : key' = key <;> simp [expire, lookup, h]

@[simp] theorem isSome_set (c : RedisCache V) (key : String) (v : V) (fails : Bool) :
    (c.set key v fails).isSome = c.isSome := by
  cases c <;> cases fails <;> rfl

@[simp] theorem isSome_expire (c : RedisCache V) (key : String) :
    (c.expire key).isSome = c.isSome := by
  cases c <;> rfl

end RedisCache

end PaymentsService
