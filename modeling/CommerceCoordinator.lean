import CommerceCoordinator.CallTree
import CommerceCoordinator.SignificantDigits
import CommerceCoordinator.Versioned
import CommerceCoordinator.Platform
import CommerceCoordinator.RefundAmount
import CommerceCoordinator.OrderReturn
import CommerceCoordinator.RefundSequence
import CommerceCoordinator.Fulfillment
import CommerceCoordinator.PaymentTransactions
import CommerceCoordinator.CommercetoolsClient
import CommerceCoordinator.RefundPipeline
import CommerceCoordinator.RefundWebhooks
import CommerceCoordinator.OrderNumber
import CommerceCoordinator.Execution
import CommerceCoordinator.OrderReturned
import CommerceCoordinator.RefundDelivery
import CommerceCoordinator.Redelivery
import CommerceCoordinator.MobileRefund
import CommerceCoordinator.Protocol
import CommerceCoordinator.MobileStore
import CommerceCoordinator.MobileCreateOrder
import CommerceCoordinator.SinglePurchase
import CommerceCoordinator.OrderHistory
import CommerceCoordinator.MobileRefundLinks
import CommerceCoordinator.TaskLock
import CommerceCoordinator.Memcache
import CommerceCoordinator.SingleInvocation
import CommerceCoordinator.StripeWebhook
import CommerceCoordinator.RefundCurrency
import CommerceCoordinator.Answers
import CommerceCoordinator.RefundRetries
import CommerceCoordinator.RefundOutcome
import CommerceCoordinator.RefundRevocation
import CommerceCoordinator.OrderPlaced
import CommerceCoordinator.RefundLinks
import CommerceCoordinator.FaithfulLinks
import CommerceCoordinator.ReturnCreation
import CommerceCoordinator.MobileCleanUp
import CommerceCoordinator.PlacedMessage
import CommerceCoordinator.RefundRecording
import CommerceCoordinator.RecordingRetries
import CommerceCoordinator.ReturnedItems
import CommerceCoordinator.PaidOrders
import CommerceCoordinator.LegacyOrders
import CommerceCoordinator.OrderPages
import CommerceCoordinator.Lark
import CommerceCoordinator.PredicateGrammar
import CommerceCoordinator.PredicateEvaluation
import CommerceCoordinator.PredicateDebug
import CommerceCoordinator.PredicateProgress
import CommerceCoordinator.LarkReading
import CommerceCoordinator.LarkUnambiguity
import CommerceCoordinator.PredicateUnambiguity
import CommerceCoordinator.LarkPrinting
import CommerceCoordinator.PredicatePrinting
import CommerceCoordinator.PredicateTexts
import CommerceCoordinator.PredicateLiterals
import CommerceCoordinator.PredicateShortCircuit
import CommerceCoordinator.PredicateContext
import CommerceCoordinator.CreatedReturn
import CommerceCoordinator.MovedMoney
import CommerceCoordinator.UnprocessedReturns
import CommerceCoordinator.Findall
import CommerceCoordinator.ProgramOffers
import CommerceCoordinator.ProportionalRefund
import CommerceCoordinator.CallSequences
import CommerceCoordinator.LineRevocation
import CommerceCoordinator.LocalizedPrices
import CommerceCoordinator.OrderDiscounts
import CommerceCoordinator.StoreQueries
import CommerceCoordinator.CourseRunLookup
import CommerceCoordinator.DiscountEligibility
import CommerceCoordinator.DiscountCodeView
import CommerceCoordinator.QuotedText
import CommerceCoordinator.StandalonePrices
import CommerceCoordinator.DiscountExport
import CommerceCoordinator.OrderReports
import CommerceCoordinator.StateProvisioning
import CommerceCoordinator.CustomerRetirement
import CommerceCoordinator.SingleCustomer
import CommerceCoordinator.CourseEnrollment
import CommerceCoordinator.RefundLifecycle
import CommerceCoordinator.ProgramPrices
import CommerceCoordinator.Layers
import CommerceCoordinator.RevocationJobs
import CommerceCoordinator.EntitlementRecords
import CommerceCoordinator.QueryStrings
import CommerceCoordinator.CheckoutRedirects
