import PaymentsService.Basic
import PaymentsService.Outbox
import PaymentsService.Relay
import PaymentsService.Cache
import PaymentsService.Payments.Db
import PaymentsService.Payments.Handlers
import PaymentsService.Payments.Consumer
import PaymentsService.Payments.Service
import PaymentsService.Payments.Ledger
import PaymentsService.Payments.Inbox
import PaymentsService.Payments.Idempotency
import PaymentsService.Payments.CachedBalance
import PaymentsService.Payments.Answers
import PaymentsService.Orders.Db
import PaymentsService.Orders.Handlers
import PaymentsService.Orders.Consumer
import PaymentsService.Orders.Service
import PaymentsService.Orders.Requests
import PaymentsService.Orders.Idempotency
import PaymentsService.Orders.Lifecycle
import PaymentsService.Orders.CachedOrder
import PaymentsService.Orders.PageToken
import PaymentsService.Orders.ListOrders
import PaymentsService.ConsumerLoop
import PaymentsService.Pipeline.System
import PaymentsService.Pipeline.Settlement
import PaymentsService.Pipeline.Relays
import PaymentsService.Pipeline.Drain
import PaymentsService.Gateway.System
