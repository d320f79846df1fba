import CommerceCoordinator.Answers
import CommerceCoordinator.LegacyOrders
import CommerceCoordinator.OrderNumber
import CommerceCoordinator.PaymentTransactions
import CommerceCoordinator.PredicateContext

open Commercetools CallTree
open LegacyOrders (OrderState)
open CartPredicateParser (ProductProjection ProductVariant)

-- Methods of CommercetoolsAPIClient that only read: past orders, discount codes and
-- product searches.
namespace StoreQueries

-- The codes are those of the expanded references; a deleted code leaves none.
structure PastOrder where
  customerId : Option String
  customerEmail : Option String
  orderState : OrderState
  discountCodes : List (Option String)
  deriving DecidableEq

inductive OrderCondition where
  | customerId (customer : String)
  | customerEmail (customer : String)
  | orderState (state : OrderState)
  | discountCodeDefined
  deriving DecidableEq

structure Page (α : Type) where
  total : Nat
  results : List α

inductive CartDiscountValue where
  | relative (permyriad : Int)
  | other (type : String)
  deriving DecidableEq

structure CartDiscount where
  cartPredicate : String
  value : CartDiscountValue
  isActive : Bool
  validFrom : Option Int
  validUntil : Option Int
  deriving DecidableEq

-- The cart discounts are those of the expanded references.
structure DiscountCode where
  code : String
  isActive : Bool
  cartDiscounts : List (Option CartDiscount)
  maxApplicationsPerCustomer : Option Nat
  deriving DecidableEq

structure DiscountCodeInfo where
  cartPredicate : String
  discountPercentage : ℚ
  isApplicable : Bool
  maxApplicationsPerCustomer : Nat
  deriving DecidableEq

structure Customer where
  id : String
  lmsUserId : String
  deriving DecidableEq

structure Variant (N : Type) extends ProductVariant N where
  id : Nat
  isMatchingVariant : Option Bool

structure Projection (N : Type) extends ProductProjection where
  masterVariant : Variant N
  variants : List (Variant N)

inductive Request where
  | queryOrders (conditions : List OrderCondition) (expand : List String)
  | queryDiscountCodes (code : String) (expand : List String)
  | queryCustomers (lmsUserId : String)
  | searchProjections (markMatchingVariants : Bool) (filter : String)
  | now
  deriving DecidableEq

abbrev Response (N : Type) : Request → Type
  | .queryOrders _ _ => Except ErrorCode (Page PastOrder)
  | .queryDiscountCodes _ _ => Except ErrorCode (List DiscountCode)
  | .queryCustomers _ => Except ErrorCode (List Customer)
  | .searchProjections _ _ => Except ErrorCode (List (Projection N))
  | .now => Int

abbrev Call (N α : Type) := Prog Request (Response N) Exn α

section Client
variable {N α : Type} (enableRetries : Bool)

def conditionalRetry (method : Call N α) : Call N α :=
  if enableRetries then method.retry OrderNumber.isCommercetoolsError 2 else method

def getCustomerByLmsUserId (lmsUserId : Option Nat) : Call N (Option Customer) := conditionalRetry enableRetries
  (match lmsUserId with
  | none | some 0 => .raise .valueError
  | some user => do
    match ← .expect .commercetoolsError (.perform (Request.queryCustomers (toString user))) with
    | [] => return none
    | [customer] => return some customer
    | _ => .raise .valueError)

-- The first code of each order decides.
def notUsedFirst (code : String) : List PastOrder → Call N Bool
  | [] => .pure true
  | order::rest =>
    match order.discountCodes with
    | [] => .raise .indexError
    | first::_ => if first = some code then .pure false else notUsedFirst code rest

def discountedOrders (customerId customerEmail : String) : List OrderCondition :=
  [if customerId ≠ "" then .customerId customerId else .customerEmail customerEmail,.orderState .complete,.discountCodeDefined]

def isFirstTimeDiscountEligible (code customerId customerEmail : String) (reraise : Bool) : Call N Bool :=
  conditionalRetry enableRetries
    (if customerId = "" ∧ customerEmail = "" then .raise .valueError
    else do
      match ← .perform (Request.queryOrders (discountedOrders customerId customerEmail) ["discountCodes[*].discountCode"]) with
      | .error code => if reraise then .raise (.commercetoolsError code) else return true
      | .ok page => if page.total < 1 then return true else notUsedFirst code page.results)

def discountPercentage (cartDiscount : CartDiscount) : ℚ :=
  match cartDiscount.value with
  | .relative permyriad => PaymentTransactions.float (permyriad/10000)
  | .other _ => 0

def reached (validFrom : Option Int) : Call N Bool :=
  match validFrom with
  | none => .pure true
  | some validFrom => do
    let now : Int ← .perform Request.now
    return validFrom ≤ now

def notPassed (validUntil : Option Int) : Call N Bool :=
  match validUntil with
  | none => .pure true
  | some validUntil => do
    let now : Int ← .perform Request.now
    return now ≤ validUntil

def isApplicable (discountCode : DiscountCode) (cartDiscount : CartDiscount) : Call N Bool :=
  if discountCode.isActive ∧ cartDiscount.isActive ∧ discountPercentage cartDiscount > 0 then do
    if ← reached cartDiscount.validFrom then notPassed cartDiscount.validUntil else return false
  else .pure false

def getDiscountCodeInfo (code : String) : Call N (Option DiscountCodeInfo) := conditionalRetry enableRetries do
  match ← .expect .commercetoolsError (.perform (Request.queryDiscountCodes code ["cartDiscounts[*]"])) with
  | [] => return none
  | discountCode::_ =>
    match discountCode.cartDiscounts with
    | [] => return none
    | none::_ => return none
    | some cartDiscount::_ => do
      let applicable ← isApplicable discountCode cartDiscount
      return some ⟨cartDiscount.cartPredicate,discountPercentage cartDiscount,applicable,
        discountCode.maxApplicationsPerCustomer.getD 0⟩

def skuFilter (courseRunKey : String) : String := "variants.sku:\""++courseRunKey++"\""

def Projection.allVariants (selection : Projection N) : List (Variant N) := selection.masterVariant::selection.variants

def getProductVariantByCourseRun (crId : String) : Call N (Option (Variant N)) := do
  let results ← .expect .commercetoolsError (.perform (Request.searchProjections false (skuFilter crId)))
  if results.length < 1 then return none
  else
    let matchingVariantList := (results.flatMap Projection.allVariants).filter (·.sku = some crId)
    return matchingVariantList.head?

def firstMatching (courseRunKey : String) : List (Projection N) → Option (Projection N) × Option (Variant N)
  | [] => (none,none)
  | product::rest =>
    match product.variants.find? fun variant => variant.isMatchingVariant = some true ∧ variant.sku = some courseRunKey with
    | some variant => (some product,some variant)
    | none => firstMatching courseRunKey rest

def getProductAndVariantByCourseRunKey (courseRunKey : String) : Call N (Option (Projection N) × Option (Variant N)) :=
  conditionalRetry enableRetries do
    let results ← .expect .commercetoolsError (.perform (Request.searchProjections true (skuFilter courseRunKey)))
    return firstMatching courseRunKey results

end Client

section Service
variable {N α : Type}

-- What Commercetools holds; `orders` in the order in which a query returns them,
-- `clock` the readings of the coordinator's clock.
structure Shop (N : Type) where
  orders : List PastOrder
  discountCodes : List DiscountCode
  customers : List Customer
  search : Bool → String → List (Projection N)
  clock : Nat → Int

def queryLimit : Nat := 20

def OrderCondition.holds (order : PastOrder) : OrderCondition → Bool
  | .customerId customer => order.customerId = some customer
  | .customerEmail customer => order.customerEmail = some customer
  | .orderState state => order.orderState = state
  | .discountCodeDefined => order.discountCodes ≠ []

def serve (shop : Shop N) : (r : Request) → Nat → Response N r × Nat
  | .queryOrders conditions _,k =>
    let found := shop.orders.filter fun order => conditions.all (·.holds order)
    (.ok ⟨found.length,found.take queryLimit⟩,k)
  | .queryDiscountCodes code _,k => (.ok ((shop.discountCodes.filter (·.code = code)).take queryLimit),k)
  | .queryCustomers lmsUserId,k => (.ok ((shop.customers.filter (·.lmsUserId = lmsUserId)).take 2),k)
  | .searchProjections markMatchingVariants filter,k => (.ok (shop.search markMatchingVariants filter),k)
  | .now,k => (shop.clock k,k+1)

theorem exec_retried (shop : Shop N) (enableRetries : Bool) (method : Call N α) (k : Nat)
    (settled : ∀ code, (method.exec (serve shop) k).1 ≠ .error (.commercetoolsError code)) :
    (conditionalRetry enableRetries method).exec (serve shop) k = method.exec (serve shop) k := by
  unfold conditionalRetry
  split
  · refine Prog.exec_retry _ _ fun e failed => ?_
    cases e with
    | commercetoolsError code => exact absurd failed (settled code)
    | _ => rfl
  · rfl

theorem exec_answered (shop : Shop N) (enableRetries : Bool) {method : Call N α} {a : α} {k k' : Nat}
    (ran : method.exec (serve shop) k = (.ok a,k')) :
    (conditionalRetry enableRetries method).exec (serve shop) k = (.ok a,k') := by
  rw [exec_retried,ran]
  intro code failed
  rw [ran] at failed
  cases failed

end Service

end StoreQueries
