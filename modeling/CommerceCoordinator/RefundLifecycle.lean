import CommerceCoordinator.LineRefundRequest
import CommerceCoordinator.Redelivery

open Commercetools CallTree OrderReturn Rollout PaymentTransactions CommercetoolsClient RefundPipeline OrderReturned
open RefundDelivery Redelivery
open LineRefundRequest (RequestData Attempt Names)
open ReturnCreation (returnedLineItems withReturn)

-- The refund requests of the LMS for one order and the messages of the returns
-- they create, each repeated at will.
namespace RefundLifecycle

section Frame

def Own (returnItems : List ReturnedItem) : Request → Prop
  | .updateOrderById _ _ actions => ∀ action ∈ actions, action.returnItemId ∈ returnItems.map (·.id)
  | .stripeRefundCreate _ _ covers => ∀ lineItemId ∈ covers, lineItemId ∈ returnItems.map (·.lineItemId)
  | .refundCapturedPayment _ _ _ covers => ∀ lineItemId ∈ covers, lineItemId ∈ returnItems.map (·.lineItemId)
  | _ => True

structure Named (returnItems : List ReturnedItem) (k : Kwargs) : Prop where
  lines : k.returnLineItems = returnLineItems returnItems
  filtered : ∀ fetched, k.fetched = some fetched →
    ∀ lineItemId ∈ fetched.filteredLineItemIds, lineItemId ∈ returnItems.map (·.lineItemId)

variable {returnItems : List ReturnedItem} {k : Kwargs}

theorem get_order_does (orderId : String) : (getOrderById orderId).Does (Own returnItems) fun _ => True :=
  (Prog.Asks.perform trivial).expect.does
theorem get_payment_does (caller : Caller) (paymentKey : String) :
    (getPaymentByKey caller paymentKey).Does (Own returnItems) fun _ => True := (Prog.Asks.perform trivial).expect.does
theorem update_payment_does (id : String) (version : Nat) (actions : List PaymentUpdateAction) :
    (updatePaymentById id version actions).Does (Own returnItems) fun _ => True := (Prog.Asks.perform trivial).expect.does
theorem except_does {returned : α → Prop} {p : Call α} {handler : ErrorCode → Call α} (does : p.Does (Own returnItems) returned)
    (handled : ∀ code, (handler code).Does (Own returnItems) returned) :
    (exceptCommercetoolsError p handler).Does (Own returnItems) returned := by
  refine does.handle fun e => ?_
  cases e with
  | commercetoolsError code => exact handled code
  | _ => trivial

theorem Named.set {k' : Kwargs} (named : Named returnItems k) (lines : k'.returnLineItems = k.returnLineItems)
    (fetched : k'.fetched = k.fetched) : Named returnItems k' :=
  ⟨lines.trans named.lines,fun f here => named.filtered f (fetched ▸ here)⟩

theorem payment_of_refund_does (fetched : Fetched) (refund : Refund) :
    (paymentOfRefund fetched refund).Does (Own returnItems) fun _ => True := by
  unfold paymentOfRefund
  split
  · split
    · exact get_payment_does _ _
    · trivial
  · split
    · exact get_payment_does _ _
    · trivial

structure Spares (returnItems : List ReturnedItem) (s t : Ledger) : Prop where
  sale : saleOf t = saleOf s
  refunds : ∀ lineItemId, lineItemId ∉ returnItems.map (·.lineItemId) → covered lineItemId t = covered lineItemId s
  returns : ∀ item ∈ getOrderReturnInfoReturnItems s.order, item.id ∉ returnItems.map (·.id) →
    item ∈ getOrderReturnInfoReturnItems t.order

variable {s t u : Ledger}

theorem Spares.refl (s : Ledger) : Spares returnItems s s := ⟨rfl,fun _ _ => rfl,fun _ listed _ => listed⟩

theorem Spares.trans (first : Spares returnItems s t) (later : Spares returnItems t u) : Spares returnItems s u :=
  ⟨later.sale.trans first.sale,fun lineItemId other => (later.refunds lineItemId other).trans (first.refunds lineItemId other),
    fun item listed other => later.returns item (first.returns item listed other) other⟩

end Frame

section Lifecycle

inductive Event where
  | request (data : RequestData) (attempt : Attempt)
  -- one delivery of the message of a return, or a retry of one
  | delivery (item : ReturnedItem) (answers : List Bool)

def step (printed : Rat → String) (sold : Sale) (s : Ledger) : Event → Option Ledger
  | .request data attempt => some {s with order := (attempt.run printed data s.order).2}
  | .delivery item answers => redeliver sold s.order.id [item] s answers

def returnIds (order : Order) : List String := (getOrderReturnInfoReturnItems order).map (·.id)

-- Commercetools names a new return item as no item of the order is named, and tells
-- of the order's returns only; no failure comes between a refund and its record.
def Allowed (sold : Sale) (s : Ledger) : Event → Prop
  | .request _ attempt => ∀ request returnItemIds, LineRefundRequest.givenIds (attempt.choice request) = some returnItemIds →
      returnItemIds 0 ∉ returnIds s.order
  | .delivery item answers => HasReturn s.order item.id item.lineItemId ∧ RecordsRefunds sold s.order.id [item] s answers

-- No line item has two returns; what the provider has refunded, once, shows in its return.
structure Sound (s : Ledger) : Prop where
  planned : 0 ≤ s.payment.amountPlanned.centAmount
  ids : (returnIds s.order).Nodup
  lines : (returnedLineItems s.order).Nodup
  once : ∀ lineItemId, covered lineItemId s ≤ 1
  recorded : ∀ lineItemId, covered lineItemId s = 0 ∨ refundable (expanded s) = true ∧ Refunded s.order lineItemId

variable {printed : Rat → String} {sold : Sale} {s t : Ledger} {item : ReturnedItem} {answers : List Bool} {data : RequestData}
  {attempt : Attempt}

theorem Sound.settled (sound : Sound s) (listed : HasReturn s.order item.id item.lineItemId) : Settled [item] s := by
  refine ⟨?_,sound.planned,?_,?_⟩
  · simpa using listed
  · simpa using sound.once item.lineItemId
  · simpa [Uncovered,AllRefunded] using sound.recorded item.lineItemId

def Requested (printed : Rat → String) (orderId : String) (events : List Event) (lineItemId : String) : Prop :=
  ∃ data attempt, .request data attempt ∈ events ∧ Names printed attempt.getOrderByNumber data orderId lineItemId

theorem Requested.earlier {orderId lineItemId : String} {events : List Event} (requested : Requested printed orderId events lineItemId)
    (event : Event) : Requested printed orderId (events ++ [event]) lineItemId := by
  obtain ⟨data,attempt,listed,names⟩ := requested
  exact ⟨data,attempt,List.mem_append_left _ listed,names⟩

end Lifecycle

section Examples
open LineRefundRequest (text unprinted numbered)

def unreturned : Ledger := {soldLedger with order := {soldLedger.order with returnInfo := []}}

def secondRequest : RequestData :=
  ⟨none,text "learner",none,text "course",
    some [some ⟨text "order",text "order_id",text "order"⟩,some ⟨text "order",text "line_item_id",text "second"⟩]⟩

def askedTwice : List Event :=
  [.request secondRequest ⟨numbered,LineRefundRequest.updateLost⟩,
    .request secondRequest ⟨numbered,fun _ => .answered fun _ => "another"⟩]

instance : Decidable (HasReturn order returnItemId lineItemId) := inferInstanceAs (Decidable (∃ _ ∈ _, _))

def deliverable (s : Ledger) : Event → Bool
  | .request _ _ => false
  | .delivery item answers => HasReturn s.order item.id item.lineItemId ∧ RecordsRefunds bothSold s.order.id [item] s answers

end Examples
end RefundLifecycle
