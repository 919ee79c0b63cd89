import Yunbay.Billing.PackageSession
import Yunbay.Billing.TextQuota
import Yunbay.Billing.TokenStatus
import Yunbay.Fetch.Spelling
import Yunbay.Ldxp.CreditedOnce
import Yunbay.Ldxp.DeadSession
import Yunbay.Limit.TokenBucket
import Yunbay.Metrics.Flush
import Yunbay.Midjourney.Protocol
import Yunbay.Payment.VipUpgrade
import Yunbay.Purchase.OneLive
import Yunbay.Purchase.Schedule
import Yunbay.Purchase.SettledOnce
import Yunbay.Purchase.UpgradeGroup
import Yunbay.Realtime.Usage
import Yunbay.Relay.ClaudeStream
import Yunbay.Relay.ExprCache
import Yunbay.Relay.FrozenPrice
import Yunbay.Relay.GeminiRequest
import Yunbay.Relay.ModelMapping
import Yunbay.Relay.RetryLoop
import Yunbay.Relay.Routing
import Yunbay.Subscription.Bounds
import Yunbay.Subscription.Interleaving
import Yunbay.Subscription.LateSettlement
import Yunbay.Subscription.Management
import Yunbay.Subscription.Overlap
import Yunbay.Subscription.ReconcileLedger
import Yunbay.Subscription.ResetSchedule
import Yunbay.Svip.Accumulation
import Yunbay.Task.FailedRefunded
import Yunbay.Task.Refund
import Yunbay.User.Balance
