import Coldy.CircuitBreaker.Basic
import Coldy.CircuitBreaker.Sequential
import Coldy.CircuitBreaker.Concurrent
import Coldy.Inventory.Schema
import Coldy.Inventory.Transactions
import Coldy.Inventory.Conservation
import Coldy.Payments.Confirm
import Coldy.Payments.Outcome
import Coldy.Encoding.Json
import Coldy.Encoding.JsonText
import Coldy.Encoding.Sql
import Coldy.Idempotency.Store
import Coldy.Idempotency.Intake
import Coldy.Orders.Order
import Coldy.Orders.Service
import Coldy.Payments.Create
import Coldy.Idempotency.Services
import Coldy.Orders.Status
import Coldy.Orders.Outbox
import Coldy.Encoding.Uuid
import Coldy.Orders.Read
import Coldy.Orders.Paging
import Coldy.Orders.Created
import Coldy.Orders.Rpc
import Coldy.Orders.Aggregates
import Coldy.Orders.Delivery
import Coldy.Inventory.Reserve
import Coldy.Inventory.Serial
import Coldy.Catalog.Products
import Coldy.Catalog.Availability
import Coldy.Catalog.Updates
import Coldy.Catalog.Listing
import Coldy.Catalog.Cache
