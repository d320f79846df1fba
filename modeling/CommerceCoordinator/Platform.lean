import CommerceCoordinator.Versioned

-- The Commercetools resources, reduced to the fields the modelled code reads or
-- writes. A price with no precision of its own is a plain `Money`.
namespace Commercetools

structure CentPrecisionMoney where
  centAmount : Int
  currencyCode : String
  fractionDigits : Option Nat
  deriving DecidableEq

inductive TransactionType where
  | authorization | cancelAuthorization | charge | refund | chargeback
  deriving DecidableEq

inductive TransactionState where
  | initial | pending | success | failure
  deriving DecidableEq

inductive ReturnPaymentState where
  | nonRefundable | initial | refunded | notRefunded
  deriving DecidableEq

-- `timestamp` is in milliseconds; `returnItemId` is the custom field of that name.
structure Transaction where
  id : String
  timestamp : Int
  type : TransactionType
  amount : CentPrecisionMoney
  interactionId : Option String
  state : TransactionState
  returnItemId : Option String
  deriving DecidableEq

structure Payment where
  id : String
  version : Nat
  key : Option String
  interfaceId : Option String
  amountPlanned : CentPrecisionMoney
  paymentInterface : Option String
  interfaceCode : Option String
  transactions : List Transaction
  deriving DecidableEq

-- The key of the payment that the provider, or the app store, knows by this id.
def normalizedPaymentKey (pspPaymentId : String) : String :=
  String.ofList (pspPaymentId.toList.map fun c => if c.isAlphanum ∨ c = '_' ∨ c = '-' then c else '_')

-- `quantity` units of a line item are in the state with this id.
structure ItemState where
  quantity : Nat
  stateId : String
  deriving DecidableEq

-- `lmsEntitlementId` is the custom field `edxLMSEntitlementId`.
structure LineItem where
  id : String
  quantity : Nat
  totalPrice : CentPrecisionMoney
  state : List ItemState
  lmsEntitlementId : Option String
  deriving DecidableEq

-- `transactionId` and `lmsEntitlementId` are custom fields; an item without a
-- custom type has neither.
structure ReturnItem where
  id : String
  lineItemId : String
  paymentState : ReturnPaymentState
  transactionId : Option String
  lmsEntitlementId : Option String
  deriving DecidableEq

structure Order where
  id : String
  version : Nat
  customerId : String
  mobileOrder : Bool
  lineItems : List LineItem
  totalPrice : CentPrecisionMoney
  returnInfo : List (List ReturnItem)
  -- the payments of `paymentInfo`, expanded
  payments : List Payment
  deriving DecidableEq

inductive ErrorCode where
  | concurrentModification | invalidOperation | resourceNotFound | duplicateField | unavailable
  deriving DecidableEq

inductive Exn where
  | commercetoolsError (code : ErrorCode)
  | attributeError
  | indexError
  | keyError (key : String)
  | typeError
  | valueError
  | unboundLocalError
  | openEdxFilterException
  | invalidOperation
  | stripeError
  | paypalError (message : String)
  deriving DecidableEq

instance : Versioned.HasVersion Payment := ⟨Payment.version⟩
instance : Versioned.HasVersion Order := ⟨Order.version⟩

end Commercetools
