import ResellerBot.Interact
import ResellerBot.Pool
import ResellerBot.Store
import ResellerBot.Python
import ResellerBot.Reseller.Quota
import ResellerBot.Rebecca.Models
import ResellerBot.Database.Statements
import ResellerBot.Rebecca.Client
import ResellerBot.Handlers.Isolation
import ResellerBot.Payments.Recovery
import ResellerBot.Contract.Bench
import ResellerBot.Contract.Orders
import ResellerBot.Contract.Durable
import ResellerBot.Contract.Credit
import ResellerBot.Payments.Agreement
import ResellerBot.Locking.Refusal
import ResellerBot.Locking.Exclusion
import ResellerBot.Safety.Override
import ResellerBot.Schedule.Coherence
import ResellerBot.Schedule.Marker
import ResellerBot.Schedule.Grace
import ResellerBot.Outage.Recovery
import ResellerBot.Children.Return
import ResellerBot.Payments.Renewing
import ResellerBot.Payments.Outcome
import ResellerBot.Safety.Deletion
import ResellerBot.Shop.Sellable
import ResellerBot.Handlers.Accepted
import ResellerBot.Reseller.Renewals
import ResellerBot.Reseller.Usernames
import ResellerBot.Reseller.Seconds
import ResellerBot.Payments.Verifiers
import ResellerBot.Shop.Prices
import ResellerBot.Schedule.Warnings
import ResellerBot.Reseller.Overflow
import ResellerBot.Audit.Residue
import ResellerBot.Payments.Endpoint
import ResellerBot.Database.Migration
import ResellerBot.Schedule.Deadlines
import ResellerBot.Payments.Retryable
import ResellerBot.Rebecca.Routes
import ResellerBot.Payments.Signature
import ResellerBot.Ledger.Books
