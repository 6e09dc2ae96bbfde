import PaymentsService.Orders.Handlers
import PaymentsService.Payments.Handlers
import Mathlib.Data.List.DropRight

/-!
# The HTTP gateway's handlers

`api-gateway` is the only door into the system: it turns each HTTP request into
one gRPC call to the Orders or the Payments service and the call's outcome into an
HTTP response.  This module models its `Handler`, each route a function of the
request and of the state behind the two clients, with the clients as parameters.

## Main definitions

* `GrpcCode`, `RpcError` — `codes.Code`, and the `error` a client call returns.
* `Clients` — the calls `Handler` makes, each a step on the state `σ` behind it.
* `trimSpace`, `resolveUserID`, `getHeader`, `decodeJSON`, `decodeOptionalJSON` —
  the request-side helpers of `handler.go`.
* `grpcCodeToStatus`, `writeError`, `writeBadRequest`, `writeGRPCError`,
  `mapOrder` — the response-side helpers; `replyOrder` and `replyBalance` are the tails the handlers
  share after their call.
* `route` — the shape every route shares: its checks, one call, the reply.
* `createOrderChecks`, `createAccountChecks`, `getBalanceChecks`,
  `topUpAccountChecks` — what each route checks before its call.
* `createOrder`, `getOrder`, `createAccount`, `getBalance`, `topUpAccount` — the
  routes.

## Main results

* `resolveUserID_ne_empty` — the user a request acts for is never the empty string.
* `createOrderChecks_ok`, `createAccountChecks_ok`, `getBalanceChecks_ok`,
  `topUpAccountChecks_ok` — a request a route forwards passes every check of the
  service's own validation.
* `createOrderChecks_error` and the like — every early answer is a 400.
* `le_grpcCodeToStatus` — every gRPC error is answered with an HTTP error.

## Design notes

**The request is what the router and the decoder hand over.**  The generated
router has already bound the path and the headers (`X-User-Id` as an optional
string, required for `GetBalance` only, `Idempotency-Key` optional), so a route
takes them as arguments.  A body is kept as what `json.Decoder` with
`DisallowUnknownFields` makes of its bytes (`RequestBody.decoded`), an error text
or a value, next to whether `r.Body` is nil and `r.ContentLength`: JSON itself is
not modelled.

**The fresh user id is an argument.**  `resolveUserID` calls `uuid.NewString()`
when the header is missing or blank; the id it would draw is the route's `newId`.

**`ListOrders` is not modelled here**, with the service's `ListOrders`.

Logging, the request timeout and the `Content-Type` header have no effect on what
is answered and are left out.
-/

namespace PaymentsService.Gateway

/-! ## gRPC errors -/

/-- `codes.Code`. -/
inductive GrpcCode
  | ok
  | canceled
  | unknown
  | invalidArgument
  | deadlineExceeded
  | notFound
  | alreadyExists
  | permissionDenied
  | resourceExhausted
  | failedPrecondition
  | aborted
  | outOfRange
  | unimplemented
  | internal
  | unavailable
  | dataLoss
  | unauthenticated
deriving DecidableEq, Repr

/-- The `error` of a client call: a gRPC status (what the service returned, or
what the transport made of a failed call), or any other error. -/
inductive RpcError
  | status (code : GrpcCode) (message : String)
  | other (text : String)
deriving DecidableEq, Repr

/-- **The two clients of `Handler`.**  Each call is a step on the state `σ` behind
it, answering with the response message or an error. -/
structure Clients (σ : Type) where
  createOrder : Orders.CreateOrderRequest → σ → σ × Except RpcError (Option Orders.Order)
  getOrder : Orders.GetOrderRequest → σ → σ × Except RpcError (Option Orders.Order)
  createAccount : Payments.CreateAccountRequest → σ → σ × Except RpcError (Option Payments.Account)
  getBalance : Payments.GetBalanceRequest → σ → σ × Except RpcError Int
  topUp : Payments.TopUpRequest → σ → σ × Except RpcError (Option Payments.Account)

/-! ## Requests -/

/-- `unicode.IsSpace`: `'\t'`, `'\n'`, `'\v'`, `'\f'`, `'\r'`, `' '`, U+0085 and
U+00A0 in Latin-1, and above it the other characters of Unicode's `White_Space`. -/
def isSpace (c : Char) : Bool :=
  if c.toNat ≤ 0xFF then [0x09, 0x0A, 0x0B, 0x0C, 0x0D, 0x20, 0x85, 0xA0].contains c.toNat
  else (0x2000 ≤ c.toNat && c.toNat ≤ 0x200A) ||
    [0x1680, 0x2028, 0x2029, 0x202F, 0x205F, 0x3000].contains c.toNat

/-- `strings.TrimSpace`. -/
def trimSpace (s : String) : String := ⟨(s.data.dropWhile isSpace).rdropWhile isSpace⟩

@[simp] theorem trimSpace_empty : trimSpace "" = "" := rfl

theorem ne_empty_of_trimSpace {s : String} (h : trimSpace s ≠ "") : s ≠ "" := by
  rintro rfl
  exact h trimSpace_empty

example : trimSpace " \t " = "" ∧ trimSpace " a " = "a" := by decide

/-- The headers `X-User-Id` and `Idempotency-Key` of `CreateOrderParams`,
`CreateAccountParams` and `TopUpAccountParams`. -/
structure Headers where
  xUserId : Option String
  idempotencyKey : Option String
deriving DecidableEq, Repr

/-- A request body: whether `r.Body` is nil, `r.ContentLength` (`-1` when
unknown), and what the decoder makes of the bytes. -/
structure RequestBody (α : Type) where
  isNil : Bool
  contentLength : Int
  decoded : Except String α

/-- `gateway.CreateOrderRequest`. -/
structure CreateOrderRequest where
  amount : Int
  description : String
deriving DecidableEq, Repr

/-- `gateway.TopUpAccountRequest`. -/
structure TopUpAccountRequest where
  amount : Int
deriving DecidableEq, Repr

/-- **`resolveUserID`**: a header with a non-space character is the user; otherwise
a fresh id, flagged as generated. -/
def resolveUserID (header : Option String) (newId : Uuid) : String × Bool :=
  match header with
  | some h => if trimSpace h ≠ "" then (h, false) else (newId.text, true)
  | none => (newId.text, true)

/-- **The user a request acts for is never the empty string.** -/
theorem resolveUserID_ne_empty (header : Option String) (newId : Uuid) :
    (resolveUserID header newId).1 ≠ "" := by
  unfold resolveUserID
  split
  · split
    · exact ne_empty_of_trimSpace ‹_›
    · exact newId.text_ne_empty
  · exact newId.text_ne_empty

/-- A made-up user is the fresh id. -/
theorem resolveUserID_generated {header : Option String} {newId : Uuid} (h : (resolveUserID header newId).2 = true) :
    (resolveUserID header newId).1 = newId.text := by
  revert h
  unfold resolveUserID
  split
  · split_ifs
    · intro h; cases h
    · exact fun _ => rfl
  · exact fun _ => rfl

/-- `getHeader`: the idempotency key, `""` when the header is absent. -/
def getHeader (header : Option String) : String := header.getD ""

/-- `decodeJSON`: a nil body is an error; otherwise what the decoder made of it. -/
def decodeJSON (body : RequestBody α) : Except String α :=
  if body.isNil then .error "request body is required" else body.decoded

/-- `decodeOptionalJSON`, decoding into a `map[string]interface{}` whose keys are
the list: an absent or empty body passes, and so does an object with no field. -/
def decodeOptionalJSON (body : RequestBody (List String)) : Except String Unit :=
  if body.isNil || body.contentLength == 0 then .ok () else
  match body.decoded with
  | .error err => .error err
  | .ok payload => if payload.length > 0 then .error "request body must be empty" else .ok ()

/-! ## Responses -/

/-- `gateway.ErrorResponse`. -/
structure ErrorResponse where
  error : String
  userId : Option String
deriving DecidableEq, Repr

/-- `gateway.Order`. -/
structure Order where
  orderId : String
  userId : String
  amount : Int
  description : String
  status : String
  createdAt : Option Nat
deriving DecidableEq, Repr

/-- The JSON body of a response.  `CreateOrderResponse` and `GetOrderResponse`
have the same fields, and so have `CreateAccountResponse`, `GetBalanceResponse`
and `TopUpAccountResponse`. -/
inductive ResponseBody
  | error (e : ErrorResponse)
  | order (userId : String) (order : Order)
  | balance (userId : String) (balance : Int)
deriving DecidableEq, Repr

/-- What `writeJSON` writes: the status and the body. -/
structure Response where
  status : Nat
  body : ResponseBody
deriving DecidableEq, Repr

/-- **`grpcCodeToStatus`.** -/
def grpcCodeToStatus : GrpcCode → Nat
  | .invalidArgument | .failedPrecondition => 400
  | .notFound => 404
  | .alreadyExists => 409
  | .unauthenticated => 401
  | .permissionDenied => 403
  | .unavailable => 503
  | .deadlineExceeded => 504
  | _ => 500

/-- `writeError`: the message, and the user when there is one. -/
def writeError (userID : String) (statusCode : Nat) (message : String) : Response :=
  ⟨statusCode, .error ⟨message, if userID ≠ "" then some userID else none⟩⟩

@[simp] theorem writeError_status (userID : String) (statusCode : Nat) (message : String) :
    (writeError userID statusCode message).status = statusCode := rfl

/-- **Every gRPC error is answered with an HTTP error.** -/
theorem le_grpcCodeToStatus (code : GrpcCode) : 400 ≤ grpcCodeToStatus code := by
  cases code <;> decide

/-- `WriteBadRequest`: the error's text, or `bad request` for a nil error. -/
def writeBadRequest (userID : String) (err : Option String) : Response :=
  writeError userID 400 (err.getD "bad request")

/-- `writeGRPCError`: a status is answered with its code's HTTP status and its
message, anything else with a 500. -/
def writeGRPCError (userID : String) : RpcError → Response
  | .status code message => writeError userID (grpcCodeToStatus code) message
  | .other _ => writeError userID 500 "internal error"

@[simp] theorem writeGRPCError_status (userID : String) (code : GrpcCode) (message : String) :
    writeGRPCError userID (.status code message) = writeError userID (grpcCodeToStatus code) message := rfl

theorem le_writeGRPCError_status (userID : String) (err : RpcError) : 400 ≤ (writeGRPCError userID err).status := by
  cases err with
  | status code _ => exact le_grpcCodeToStatus code
  | other => show 400 ≤ 500; omega

/-- `mapOrderStatus`, on the three statuses the Orders service answers with. -/
def mapOrderStatus : Orders.OrderStatus → String
  | .finished => "FINISHED"
  | .cancelled => "CANCELLED"
  | .new => "NEW"

/-- `mapOrder`: a nil order maps to nil. -/
def mapOrder : Option Orders.Order → Option Order
  | none => none
  | some o => some ⟨o.orderId, o.userId, o.amount, o.description, mapOrderStatus o.status, some o.createdAt⟩

/-- `resp.GetAccount().GetBalance()`: the getters answer `0` on a nil account. -/
def accountBalance (account : Option Payments.Account) : Int := (account.map (·.balance)).getD 0

/-- **The tail of `CreateOrder` and `GetOrder`**: an error is written as such, a
missing order as a 500, an order with `okStatus`. -/
def replyOrder (userID : String) (okStatus : Nat) : Except RpcError (Option Orders.Order) → Response
  | .error err => writeGRPCError userID err
  | .ok order =>
    match mapOrder order with
    | none => writeError userID 500 "empty order response"
    | some mapped => ⟨okStatus, .order userID mapped⟩

@[simp] theorem replyOrder_error (userID : String) (okStatus : Nat) (err : RpcError) :
    replyOrder userID okStatus (.error err) = writeGRPCError userID err := rfl

@[simp] theorem replyOrder_some (userID : String) (okStatus : Nat) (o : Orders.Order) :
    replyOrder userID okStatus (.ok (some o)) =
      ⟨okStatus, .order userID ⟨o.orderId, o.userId, o.amount, o.description, mapOrderStatus o.status,
        some o.createdAt⟩⟩ := rfl

/-- **The tail of `CreateAccount`, `GetBalance` and `TopUpAccount`**: an error is
written as such, a balance with `okStatus`. -/
def replyBalance (userID : String) (okStatus : Nat) : Except RpcError Int → Response
  | .error err => writeGRPCError userID err
  | .ok balance => ⟨okStatus, .balance userID balance⟩

@[simp] theorem replyBalance_error (userID : String) (okStatus : Nat) (err : RpcError) :
    replyBalance userID okStatus (.error err) = writeGRPCError userID err := rfl

@[simp] theorem replyBalance_ok (userID : String) (okStatus : Nat) (balance : Int) :
    replyBalance userID okStatus (.ok balance) = ⟨okStatus, .balance userID balance⟩ := rfl

/-! ## Routes -/

section Route

variable {σ ρ α : Type}

/-- **The shape of every route of `Handler`**: the route's checks either answer
early or build the RPC's request; the call is made, and its outcome written by
`reply`. -/
def route (checked : Except Response ρ) (call : ρ → σ → σ × Except RpcError α)
    (reply : Except RpcError α → Response) (s : σ) : σ × Response :=
  match checked with
  | .error early => (s, early)
  | .ok req =>
    let p := call req s
    (p.1, reply p.2)

variable (call : ρ → σ → σ × Except RpcError α) (reply : Except RpcError α → Response) (s : σ)

@[simp] theorem route_error (early : Response) : route (.error early) call reply s = (s, early) := rfl

@[simp] theorem route_ok (req : ρ) : route (.ok req) call reply s = ((call req s).1, reply (call req s).2) := rfl

/-- **What a route answers** is its checks' early answer or the reply to its call. -/
theorem route_snd_of {checked : Except Response ρ} (P : Response → Prop) (early : ∀ r, checked = .error r → P r)
    (called : ∀ req, checked = .ok req → P (reply (call req s).2)) : P (route checked call reply s).2 := by
  cases checked with
  | error r => exact early r rfl
  | ok req => exact called req rfl

end Route

/-- The checks of `CreateOrder`: a body that decodes, a positive amount and a
description with a non-space character. -/
def createOrderChecks (userID idempotencyKey : String) (body : RequestBody CreateOrderRequest) :
    Except Response Orders.CreateOrderRequest :=
  match decodeJSON body with
  | .error err => .error (writeError userID 400 err)
  | .ok body =>
    if body.amount ≤ 0 ∨ trimSpace body.description = "" then
      .error (writeError userID 400 "amount must be > 0 and description is required")
    else .ok ⟨userID, body.amount, body.description, idempotencyKey⟩

/-- The checks of `CreateAccount`: an absent or empty body. -/
def createAccountChecks (userID idempotencyKey : String) (body : RequestBody (List String)) :
    Except Response Payments.CreateAccountRequest :=
  match decodeOptionalJSON body with
  | .error err => .error (writeError userID 400 err)
  | .ok () => .ok ⟨userID, idempotencyKey⟩

/-- The check of `GetBalance`: a header with a non-space character. -/
def getBalanceChecks (userID : String) : Except Response Payments.GetBalanceRequest :=
  if trimSpace userID = "" then .error (writeError "" 400 "X-User-Id header is required") else .ok ⟨userID⟩

/-- The checks of `TopUpAccount`: a body that decodes and a positive amount. -/
def topUpAccountChecks (userID idempotencyKey : String) (body : RequestBody TopUpAccountRequest) :
    Except Response Payments.TopUpRequest :=
  match decodeJSON body with
  | .error err => .error (writeError userID 400 err)
  | .ok body =>
    if body.amount ≤ 0 then .error (writeError userID 400 "amount must be > 0")
    else .ok ⟨userID, body.amount, idempotencyKey⟩

section Routes

variable {σ : Type} (h : Clients σ)

/-- **`Handler.CreateOrder`.** -/
def createOrder (newId : Uuid) (params : Headers) (body : RequestBody CreateOrderRequest) : σ → σ × Response :=
  let userID := (resolveUserID params.xUserId newId).1
  route (createOrderChecks userID (getHeader params.idempotencyKey) body) h.createOrder (replyOrder userID 201)

/-- **`Handler.GetOrder`**, which checks nothing itself. -/
def getOrder (newId : Uuid) (orderId : String) (xUserId : Option String) : σ → σ × Response :=
  let userID := (resolveUserID xUserId newId).1
  route (.ok ⟨userID, orderId⟩) h.getOrder (replyOrder userID 200)

/-- **`Handler.CreateAccount`.** -/
def createAccount (newId : Uuid) (params : Headers) (body : RequestBody (List String)) : σ → σ × Response :=
  let userID := (resolveUserID params.xUserId newId).1
  route (createAccountChecks userID (getHeader params.idempotencyKey) body) h.createAccount
    fun r => replyBalance userID 201 (accountBalance <$> r)

/-- **`Handler.GetBalance`**: the one route that needs `X-User-Id` and does not
make a user up. -/
def getBalance (xUserId : String) : σ → σ × Response :=
  route (getBalanceChecks xUserId) h.getBalance (replyBalance xUserId 200)

/-- **`Handler.TopUpAccount`.** -/
def topUpAccount (newId : Uuid) (params : Headers) (body : RequestBody TopUpAccountRequest) : σ → σ × Response :=
  let userID := (resolveUserID params.xUserId newId).1
  route (topUpAccountChecks userID (getHeader params.idempotencyKey) body) h.topUp
    fun r => replyBalance userID 200 (accountBalance <$> r)

end Routes

/-! ## What the checks let through -/

section Checks

variable {userID idempotencyKey : String}

/-- **A `CreateOrder` the gateway forwards passes the service's checks**: it is for
the route's user and key, with a positive amount and a description. -/
theorem createOrderChecks_ok {body : RequestBody CreateOrderRequest} {req : Orders.CreateOrderRequest}
    (h : createOrderChecks userID idempotencyKey body = .ok req) :
    req.userId = userID ∧ req.idempotencyKey = idempotencyKey ∧ 0 < req.amount ∧ trimSpace req.description ≠ "" := by
  unfold createOrderChecks at h
  split at h
  · cases h
  · split_ifs at h with hv
    cases h
    simp only [not_or, not_le] at hv
    exact ⟨rfl, rfl, hv⟩

theorem createAccountChecks_ok {body : RequestBody (List String)} {req : Payments.CreateAccountRequest}
    (h : createAccountChecks userID idempotencyKey body = .ok req) :
    req.userId = userID ∧ req.idempotencyKey = idempotencyKey := by
  unfold createAccountChecks at h
  split at h
  · cases h
  · cases h; exact ⟨rfl, rfl⟩

theorem getBalanceChecks_ok {req : Payments.GetBalanceRequest} (h : getBalanceChecks userID = .ok req) :
    req.userId = userID ∧ userID ≠ "" := by
  unfold getBalanceChecks at h
  split_ifs at h with hb
  cases h
  exact ⟨rfl, ne_empty_of_trimSpace hb⟩

theorem topUpAccountChecks_ok {body : RequestBody TopUpAccountRequest} {req : Payments.TopUpRequest}
    (h : topUpAccountChecks userID idempotencyKey body = .ok req) :
    req.userId = userID ∧ req.idempotencyKey = idempotencyKey ∧ 0 < req.amount := by
  unfold topUpAccountChecks at h
  split at h
  · cases h
  · split_ifs at h with hv
    cases h
    exact ⟨rfl, rfl, not_le.1 hv⟩

/-- **Every early answer is a 400**, naming the route's user. -/
theorem createOrderChecks_error {body : RequestBody CreateOrderRequest} {r : Response}
    (h : createOrderChecks userID idempotencyKey body = .error r) : ∃ m, r = writeError userID 400 m := by
  unfold createOrderChecks at h
  split at h
  · exact ⟨_, (Except.error.inj h).symm⟩
  · split_ifs at h
    exact ⟨_, (Except.error.inj h).symm⟩

theorem createAccountChecks_error {body : RequestBody (List String)} {r : Response}
    (h : createAccountChecks userID idempotencyKey body = .error r) : ∃ m, r = writeError userID 400 m := by
  unfold createAccountChecks at h
  split at h
  · exact ⟨_, (Except.error.inj h).symm⟩
  · cases h

theorem getBalanceChecks_error {r : Response} (h : getBalanceChecks userID = .error r) :
    trimSpace userID = "" ∧ r = writeError "" 400 "X-User-Id header is required" := by
  unfold getBalanceChecks at h
  split_ifs at h with hb
  exact ⟨hb, (Except.error.inj h).symm⟩

theorem topUpAccountChecks_error {body : RequestBody TopUpAccountRequest} {r : Response}
    (h : topUpAccountChecks userID idempotencyKey body = .error r) : ∃ m, r = writeError userID 400 m := by
  unfold topUpAccountChecks at h
  split at h
  · exact ⟨_, (Except.error.inj h).symm⟩
  · split_ifs at h
    exact ⟨_, (Except.error.inj h).symm⟩

end Checks

end PaymentsService.Gateway
